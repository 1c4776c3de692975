import GatewayTunnel.Toml.Scalar
import GatewayTunnel.Toml.Tree

namespace GatewayTunnel.Toml

open Scan Config

def depthLimit : Nat := 80

/-! ## Keys -/

def isBareKey (c : Char) : Bool :=
  c.isAlphanum || c == '-' || c == '_'

def simpleKey : Scan String := do
  match ← peek with
  | some '"' | some '\'' => return String.ofList (← singleLine)
  | _ =>
    let cs ← takeWhile isBareKey
    if cs.isEmpty then failure else return String.ofList cs

def keyPart : Scan String := do
  gap
  let key ← simpleKey
  gap
  return key

def dottedKey : Scan (List String) := do
  let first ← keyPart
  let rest ← many do
    if ← accept ['.'] then return some (← keyPart) else return none
  let parts := first :: rest
  if parts.length < depthLimit then return parts else failure

/-! ## Values -/

def arrayItems (item : Scan Value) : Scan (List Value) := do
  let items ← many do
    gapsAndLines
    match ← peek with
    | some ']' | some ',' => return none
    | _ =>
      let v ← item
      gapsAndLines
      let separated ← accept [',']
      if separated then return some v
      if (← peek) == some ']' then return some v else failure
  gapsAndLines
  literal [']']
  return items

def inlineEntries (item : Scan Value) : Scan Entries := do
  gap
  if ← accept ['\x7d'] then return []
  let pair : Scan (List String × Value) := do
    let key ← dottedKey
    literal ['=']
    gap
    let v ← item
    gap
    return (key, v)
  let first ← pair
  let rest ← many do
    if ← accept [','] then return some (← pair) else return none
  literal ['\x7d']
  (first :: rest).foldlM (fun entries (key, v) =>
    StateT.lift (entries.addValue key.dropLast (key.getLast?.getD "") v)) []

def value : (depth : Nat) → Scan Value
  | 0 => do
    match ← peek with
    | some '[' | some '\x7b' | none => failure
    | some c => scalar c
  | depth + 1 => do
    match ← peek with
    | some '[' =>
      let _ ← next
      return .array (← arrayItems (value depth))
    | some '\x7b' =>
      let _ ← next
      return .table (entryValues (← inlineEntries (value depth)))
    | some c => scalar c
    | none => failure

/-! ## Expressions -/

def keyValue (d : Draft) : Scan Draft := do
  let key ← dottedKey
  literal ['=']
  gap
  let v ← value (depthLimit - 1)
  restOfLine
  StateT.lift (d.addValue key.dropLast (key.getLast?.getD "") v)

def header (d : Draft) : Scan Draft := do
  if ← accept ['[', '['] then
    let key ← dottedKey
    literal [']', ']']
    restOfLine
    StateT.lift (d.openItem key)
  else
    literal ['[']
    let key ← dottedKey
    literal [']']
    restOfLine
    StateT.lift (d.openTable key)

def expression (d : Draft) : Scan Draft := do
  gap
  match ← peek with
  | some '[' => header d
  | some '#' | some '\n' | some '\r' | none => restOfLine; return d
  | some _ => keyValue d

def expressions (d : Draft) (text : List Char) : Option Draft :=
  match text with
  | [] => some d
  | c :: cs =>
    match (expression d).run (c :: cs) with
    | none => none
    | some (d, rest) => if rest.length ≤ cs.length then expressions d rest else none
termination_by text.length
decreasing_by
  simp only [List.length_cons]
  omega

def byteOrderMark : Char := '\uFEFF'

def read? (s : String) : Option Value := do
  let text := s.toList
  let text := if text.head? = some byteOrderMark then text.tail else text
  let draft ← expressions .empty text
  return .table (entryValues (← draft.close))

end GatewayTunnel.Toml
