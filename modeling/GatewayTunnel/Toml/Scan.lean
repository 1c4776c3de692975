namespace GatewayTunnel.Toml

abbrev Scan := StateT (List Char) Option

namespace Scan

def peek : Scan (Option Char) := do
  return (← get).head?

def ahead (n : Nat) : Scan (List Char) := do
  return (← get).take n

def next : Scan Char := do
  match ← get with
  | c :: rest => set rest; return c
  | [] => failure

def satisfy (p : Char → Bool) : Scan Char := do
  let c ← next
  if p c then return c else failure

def literal (cs : List Char) : Scan Unit := do
  for c in cs do
    let _ ← satisfy (· == c)

def accept (cs : List Char) : Scan Bool := do
  let text ← get
  if text.take cs.length = cs then
    set (text.drop cs.length)
    return true
  else return false

def takeWhile (p : Char → Bool) : Scan (List Char) := do
  let text ← get
  set (text.dropWhile p)
  return text.takeWhile p

def count (n : Nat) (p : Char → Bool) : Scan (List Char) :=
  match n with
  | 0 => return []
  | n + 1 => do
    let c ← satisfy p
    return c :: (← count n p)

def repeatSome {α : Type} (step : Scan (Option α)) (text : List Char) :
    Option (List α × List Char) :=
  match step.run text with
  | none => none
  | some (none, rest) => some ([], rest)
  | some (some a, rest) =>
    if rest.length < text.length then
      (repeatSome step rest).map fun (as, final) => (a :: as, final)
    else some ([a], rest)
termination_by text.length

def many {α : Type} (step : Scan (Option α)) : Scan (List α) :=
  fun text => repeatSome step text

end Scan

end GatewayTunnel.Toml
