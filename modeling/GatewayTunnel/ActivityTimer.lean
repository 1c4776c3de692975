import GatewayTunnel.Duration
import GatewayTunnel.Text.Shown

/-!
# Timers of silence

A timer looks at the end of each interval whether anything was recorded during it, and ends at the
first one in which nothing was. Times are in milliseconds. A new length starts a new interval with
nothing recorded; a length of zero ends the timer at once.

`ActivityTimer.advance` does the checks that are due. There are never more than two to do: the first
takes back what was recorded, and the second ends the timer.
-/

namespace GatewayTunnel

structure ActivityTimer where
  timeout : Nat
  since : Nat
  /-- Something was recorded in the current interval. -/
  active : Bool
  /-- When the timer ended, of itself or because it was cancelled. -/
  cancelledAt : Option Nat
  deriving DecidableEq, Repr

namespace ActivityTimer

def cancel (now : Nat) (t : ActivityTimer) : ActivityTimer :=
  { t with cancelledAt := t.cancelledAt.or (some now) }

def start (now timeout : Nat) : ActivityTimer :=
  ⟨timeout, now, false, if timeout = 0 then some now else none⟩

def update (t : ActivityTimer) : ActivityTimer :=
  { t with active := true }

def setTimeout (now timeout : Nat) (t : ActivityTimer) : ActivityTimer :=
  if timeout = 0 then t.cancel now
  else { t with timeout, since := now, active := false }

def isExpired (t : ActivityTimer) : Bool :=
  t.cancelledAt.isSome

def nextCheck? (t : ActivityTimer) : Option Nat :=
  if t.isExpired then none else some (t.since + t.timeout)

def check (t : ActivityTimer) : ActivityTimer :=
  let now := t.since + t.timeout
  if t.active then { t with since := now, active := false } else t.cancel now

def checkDue (now : Nat) (t : ActivityTimer) : ActivityTimer :=
  if t.nextCheck?.any (· ≤ now) then t.check else t

def advance (now : Nat) (t : ActivityTimer) : ActivityTimer :=
  (t.checkDue now).checkDue now

/-! ## Histories -/

inductive Event where
  | update
  | setTimeout (timeout : Nat)
  | cancel
  | none
  deriving DecidableEq, Repr

def step (t : ActivityTimer) (now : Nat) (e : Event) : ActivityTimer :=
  let t := t.advance now
  match e with
  | .update => t.update
  | .setTimeout timeout => t.setTimeout now timeout
  | .cancel => t.cancel now
  | .none => t

def states (t : ActivityTimer) : List (Nat × Event) → List ActivityTimer
  | [] => []
  | (now, e) :: rest =>
    let next := t.step now e
    next :: states next rest

def run (t : ActivityTimer) (history : List (Nat × Event)) : ActivityTimer :=
  history.foldl (fun t (now, e) => t.step now e) t

def shown (t : ActivityTimer) : String :=
  Text.shownRecord "ActivityTimer" [
    ("timeout", (Duration.ofMillis t.timeout).render),
    ("cancelled", Text.shownBool t.isExpired)]

end ActivityTimer

end GatewayTunnel
