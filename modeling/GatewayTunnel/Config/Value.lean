import GatewayTunnel.Text.Numeral

namespace GatewayTunnel.Config

/-- A node of a configuration document. Numbers that are not integers and points in time are kept
without their value, since no setting takes one. -/
inductive Value where
  | text (s : String)
  | integer (n : Int)
  | fraction
  | boolean (b : Bool)
  | moment
  | null
  | array (items : List Value)
  | table (entries : List (String × Value))
  deriving Inhabited

/-- What a document format does with more array entries than the record has settings. -/
inductive Surplus where
  | ignored
  | refused
  deriving DecidableEq, Repr

abbrev Record := List (Option Value)

namespace Value

def lookup? (key : String) (entries : List (String × Value)) : Option Value :=
  (entries.find? fun entry => entry.1 == key).map (·.2)

/-- The settings with the given keys. A point in time counts as a table with none of them. -/
def record? (surplus : Surplus) (keys : List String) : Value → Option Record
  | .table entries => some (keys.map (lookup? · entries))
  | .moment => some (keys.map fun _ => none)
  | .array items =>
    if surplus = .refused ∧ keys.length < items.length then none
    else some ((List.range keys.length).map (items[·]?))
  | _ => none

def text? : Value → Option String
  | .text s => some s
  | _ => none

def natural? (bound : Nat) : Value → Option Nat
  | .integer n => if 0 ≤ n ∧ n.toNat ≤ bound then some n.toNat else none
  | _ => none

def items? : Value → Option (List Value)
  | .array items => some items
  | _ => none

def entries? : Value → Option (List (String × Value))
  | .table entries => some entries
  | _ => none

end Value

def Record.getD {α : Type} (r : Record) (i : Nat) (read : Value → Option α) (default : α) :
    Option α :=
  match r[i]?.join with
  | some value => read value
  | none => some default

def Record.require {α : Type} (r : Record) (i : Nat) (read : Value → Option α) : Option α :=
  r[i]?.join.bind read

end GatewayTunnel.Config
