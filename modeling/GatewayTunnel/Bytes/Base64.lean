import GatewayTunnel.Bytes
import GatewayTunnel.Text.Numeral

namespace GatewayTunnel.Base64

/-! ## Symbols -/

def symbol (n : Nat) : Char :=
  if n < 26 then Char.ofNat ('A'.toNat + n)
  else if n < 52 then Char.ofNat ('a'.toNat + (n - 26))
  else if n < 62 then Char.ofNat ('0'.toNat + (n - 52))
  else if n = 62 then '+'
  else '/'

def value? (b : UInt8) : Option Nat :=
  let n := b.toNat
  if 65 ≤ n ∧ n ≤ 90 then some (n - 65)
  else if 97 ≤ n ∧ n ≤ 122 then some (n - 97 + 26)
  else if 48 ≤ n ∧ n ≤ 57 then some (n - 48 + 52)
  else if n = 43 then some 62
  else if n = 47 then some 63
  else none

def pad : UInt8 := 61

theorem value?_symbol : ∀ n < 64, value? (UInt8.ofNat (symbol n).toNat) = some n := by
  decide

/-! ## Encoding -/

def encodeGroup (padding : Bool) : Bytes → List Char
  | [a, b, c] =>
    let n := (a.toNat * 256 + b.toNat) * 256 + c.toNat
    [symbol (n / 262144), symbol (n / 4096 % 64), symbol (n / 64 % 64), symbol (n % 64)]
  | [a, b] =>
    let n := (a.toNat * 256 + b.toNat) * 4
    [symbol (n / 4096), symbol (n / 64 % 64), symbol (n % 64)] ++ if padding then ['='] else []
  | [a] =>
    let n := a.toNat * 16
    [symbol (n / 64), symbol (n % 64)] ++ if padding then ['=', '='] else []
  | _ => []

def encode (padding : Bool) : Bytes → List Char
  | a :: b :: c :: rest => encodeGroup padding [a, b, c] ++ encode padding rest
  | rest => encodeGroup padding rest

def text (bs : Bytes) : String :=
  String.ofList (encode true bs)

/-! ## Decoding -/

inductive Fault where
  | symbol
  | trailingBits
  | padding
  | length
  deriving DecidableEq, Repr

structure Error where
  fault : Fault
  position : Nat
  deriving DecidableEq, Repr

def Error.message (e : Error) : String :=
  let what := match e.fault with
    | .symbol => "invalid symbol"
    | .trailingBits => "non-zero trailing bits"
    | .padding => "invalid padding length"
    | .length => "invalid length"
  what ++ " at " ++ Text.Numeral.text e.position

abbrev Placed := UInt8 × Nat

def values : List Placed → Except Error (List Nat)
  | [] => .ok []
  | (b, position) :: rest =>
    match value? b with
    | some v => (values rest).map (v :: ·)
    | none => .error ⟨.symbol, position⟩

def unpack : List Nat → Bytes
  | [a, b] => [UInt8.ofNat (a * 4 + b / 16)]
  | [a, b, c] => [UInt8.ofNat (a * 4 + b / 16), UInt8.ofNat (b % 16 * 16 + c / 4)]
  | [a, b, c, d] =>
    [UInt8.ofNat (a * 4 + b / 16), UInt8.ofNat (b % 16 * 16 + c / 4),
      UInt8.ofNat (c % 4 * 64 + d)]
  | _ => []

/-- The last of two or three symbols has bits that no byte takes. -/
def hasTrailingBits : List Nat → Bool
  | [_, b] => b % 16 != 0
  | [_, _, c] => c % 4 != 0
  | _ => false

def decodeGroup (group : List Placed) : Except Error Bytes := do
  let kept := (group.reverse.dropWhile fun placed => placed.1 == pad).reverse
  let positionOf (i : Nat) : Nat := (group[i]?.map (·.2)).getD 0
  if kept.length < 2 then .error ⟨.padding, positionOf kept.length⟩
  let vs ← values kept
  if hasTrailingBits vs then .error ⟨.trailingBits, positionOf (kept.length - 1)⟩
  return unpack vs

def decodeGroups : List Placed → Except Error Bytes
  | a :: b :: c :: d :: rest => do
    let bs ← decodeGroup [a, b, c, d]
    return bs ++ (← decodeGroups rest)
  | [] => .ok []
  | first :: _ => .error ⟨.length, first.2⟩

def isLineEnd (b : UInt8) : Bool :=
  b == 13 || b == 10

def decode (bs : Bytes) : Except Error Bytes :=
  decodeGroups (bs.zipIdx.filter fun placed => !isLineEnd placed.1)

end GatewayTunnel.Base64
