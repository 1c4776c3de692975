import GatewayTunnel.Config.Value
import GatewayTunnel.Toml.Text

namespace GatewayTunnel.Toml

open Scan Config

/-! ## Digits -/

def moreDigits (isDigit : Char → Bool) : Scan (List Char) :=
  many do
    match ← ahead 1 with
    | ['_'] => let _ ← next; return some (← satisfy isDigit)
    | [c] => if isDigit c then return some (← next) else return none
    | _ => return none

def someDigits (isDigit : Char → Bool) : Scan (List Char) := do
  let first ← satisfy isDigit
  return first :: (← moreDigits isDigit)

def decimalDigits : Scan (List Char) := do
  let first ← satisfy Char.isDigit
  if first == '0' then return ['0'] else return first :: (← moreDigits Char.isDigit)

def sign : Scan Bool := do
  if ← accept ['-'] then return true
  let _ ← accept ['+']
  return false

/-! ## Integers -/

def inRange (n : Int) : Bool :=
  -9223372036854775808 ≤ n && n ≤ 9223372036854775807

def integer (n : Int) : Scan Value :=
  if inRange n then return .integer n else failure

def isDigitInBase (base : Nat) (c : Char) : Bool :=
  match hexValue? c with
  | some d => d < base
  | none => false

def integerInBase (base : Nat) : Scan Value := do
  let digits ← someDigits (isDigitInBase base)
  integer (valueInBase base digits)

/-! ## Fractions -/

def overflowBound : Nat := Nat.pow 2 1024 - Nat.pow 2 970

/-- `mantissa · 10 ^ exponent` rounds to infinity. Beyond 400 places the number of digits decides. -/
def overflows (mantissa : Nat) (exponent : Int) : Bool :=
  if mantissa = 0 then false
  else
    let places : Int := exponent + (Nat.toDigits 10 mantissa).length
    if places > 400 then true
    else if places < 300 then false
    else if 0 ≤ exponent then overflowBound ≤ mantissa * Nat.pow 10 exponent.toNat
    else overflowBound * Nat.pow 10 (-exponent).toNat ≤ mantissa

def fractionDigits : Scan (Option (List Char)) := do
  if ← accept ['.'] then return some (← someDigits Char.isDigit) else return none

def exponent : Scan (Option Int) := do
  match ← ahead 1 with
  | ['e'] | ['E'] =>
    let _ ← next
    let negative ← sign
    let value : Int := valueInBase 10 (← someDigits Char.isDigit)
    return some (if negative then -value else value)
  | _ => return none

def decimalNumber : Scan Value := do
  let negative ← sign
  match ← ahead 3 with
  | ['i', 'n', 'f'] | ['n', 'a', 'n'] => let _ ← count 3 fun _ => true; return .fraction
  | _ =>
    let whole ← decimalDigits
    let part ← fractionDigits
    let power ← exponent
    match part, power with
    | none, none =>
      let n : Int := valueInBase 10 whole
      integer (if negative then -n else n)
    | _, _ =>
      let after := part.getD []
      let mantissa := valueInBase 10 (whole ++ after)
      if !negative && overflows mantissa (power.getD 0 - after.length) then failure
      else return .fraction

def number : Scan Value := do
  if ← accept ['0', 'x'] then integerInBase 16
  else if ← accept ['0', 'o'] then integerInBase 8
  else if ← accept ['0', 'b'] then integerInBase 2
  else decimalNumber

/-! ## Points in time -/

def field (n low high : Nat) : Scan Nat := do
  let value := valueInBase 10 (← count n Char.isDigit)
  if low ≤ value ∧ value ≤ high then return value else failure

def isLeapYear (year : Nat) : Bool :=
  year % 4 == 0 && (year % 100 != 0 || year % 400 == 0)

def daysInMonth (year month : Nat) : Nat :=
  if month = 2 then if isLeapYear year then 29 else 28
  else if month = 4 ∨ month = 6 ∨ month = 9 ∨ month = 11 then 30
  else 31

def date : Scan Unit := do
  let year ← field 4 0 9999
  literal ['-']
  let month ← field 2 1 12
  literal ['-']
  let _ ← field 2 1 (daysInMonth year month)

def time : Scan Unit := do
  let _ ← field 2 0 23
  literal [':']
  let _ ← field 2 0 59
  literal [':']
  let _ ← field 2 0 60
  if ← accept ['.'] then
    let _ ← satisfy Char.isDigit
    let _ ← takeWhile Char.isDigit

def offset : Scan Unit := do
  match ← ahead 1 with
  | ['Z'] | ['z'] => let _ ← next
  | ['+'] | ['-'] =>
    let _ ← next
    let _ ← field 2 0 23
    literal [':']
    let _ ← field 2 0 59
  | _ => return

def dateTime : Scan Value := do
  date
  match ← ahead 2 with
  | [' ', c] =>
    if c.isDigit then
      let _ ← next
      time
      offset
  | 'T' :: _ | 't' :: _ =>
    let _ ← next
    time
    offset
  | _ => pure ()
  return .moment

/-! ## Scalars -/

def numberOrMoment : Scan Value := do
  let front ← ahead 5
  if front.length = 5 ∧ (front.take 4).all Char.isDigit ∧ front[4]? = some '-' then dateTime
  else if (front.take 2).all Char.isDigit ∧ front[2]? = some ':' then
    time
    return .moment
  else number

def scalar (first : Char) : Scan Value := do
  if first == '"' || first == '\'' then return .text (String.ofList (← quotedText))
  else if first == 't' then literal ['t', 'r', 'u', 'e']; return .boolean true
  else if first == 'f' then literal ['f', 'a', 'l', 's', 'e']; return .boolean false
  else numberOrMoment

end GatewayTunnel.Toml
