import GatewayTunnel.Key.Error

namespace GatewayTunnel.Wire

/-! ## Writing -/

def word (n : Nat) : Bytes :=
  Bytes.ofNat 4 n

def string (bs : Bytes) : Bytes :=
  word bs.length ++ bs

def text (s : String) : Bytes :=
  string (Bytes.ofString s)

/-! ## Reading -/

abbrev Read := StateT Bytes (Except KeyError)

def take (n : Nat) : Read Bytes := do
  let bs ← get
  if bs.length < n then throw .length
  set (bs.drop n)
  return bs.take n

def readWord : Read Nat := do
  return (← take 4).toNat

def maxLength : Nat := 1048575

def readString : Read Bytes := do
  let n ← readWord
  if maxLength < n then throw .overflow
  take n

def readStringUpTo (bound : Nat) : Read Bytes := do
  let bs ← readString
  if bound < bs.length then throw .length
  return bs

def readFixed (n : Nat) : Read Bytes := do
  let bs ← readString
  if bs.length = n then return bs else throw .length

def decodeText (bs : Bytes) : Except KeyError String :=
  match bs.toString? with
  | some s => .ok s
  | none => .error .encoding

def readText : Read String := do
  decodeText (← readString)

def maxNameLength : Nat := 48

def readName : Read String := do
  decodeText (← readStringUpTo maxNameLength)

/-- A number has one form only: no zero, and no zero byte before a byte below 128. -/
def isNumber : Bytes → Bool
  | [0] => false
  | 0 :: b :: _ => 0x80 ≤ b
  | _ => true

def readNumber : Read Bytes := do
  let bs ← readString
  if isNumber bs then return bs else throw .format

end GatewayTunnel.Wire
