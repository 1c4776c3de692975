import GatewayTunnel.ActivityTimer
import GatewayTunnel.Policy
import GatewayTunnel.Relay.Copy
import GatewayTunnel.TunnelError

/-!
# Relaying one connection

A relay asks for a channel to the destination and then copies in both directions at once. A timer of
silence runs from the opening of the channel; when a direction ends, the timer starts anew with the
time that the policy gives to the other one alone. The relay ends when both directions have ended,
when one fails, or when the timer or the caller ends it.

`Relay.step` is one event at a time in milliseconds. When the timer is found to have ended, the relay
ends at that very time: until then the directions may go on, and after it nothing else happens.
-/

namespace GatewayTunnel

inductive Side where
  | request
  | response
  deriving DecidableEq, Repr

/-- The grace of a session when the given direction has ended. -/
def SessionPolicy.grace (p : SessionPolicy) : Side → Duration
  | .request => p.downlinkOnly
  | .response => p.uplinkOnly

structure Copies where
  request : Copy
  response : Copy
  timer : ActivityTimer

namespace Copies

def side (c : Copies) : Side → Copy
  | .request => c.request
  | .response => c.response

def setSide (c : Copies) (side : Side) (copy : Copy) : Copies :=
  match side with
  | .request => { c with request := copy }
  | .response => { c with response := copy }

def isComplete (c : Copies) : Bool :=
  match c.request, c.response with
  | .ended (.ok _), .ended (.ok _) => true
  | _, _ => false

end Copies

inductive Relay where
  | opening
  | copying (c : Copies)
  /-- The relay ended at a time, with what was left of the directions. -/
  | ended (now : Nat) (r : Except TunnelError Unit) (c : Option Copies)

namespace Relay

inductive Event where
  | opened (r : Except TunnelError Unit)
  | cancel
  | copied (side : Side) (input : Copy.Input)
  | notice

structure State where
  relay : Relay
  cancelled : Bool

/-- A relay that begins at a time. Only streams are relayed. -/
def State.start (now : Nat) (d : Destination) (cancelled : Bool) : State :=
  match d.checkStream with
  | .ok () => ⟨.opening, cancelled⟩
  | .error e => ⟨.ended now (.error e) none, cancelled⟩

def interrupted : TunnelError :=
  .relay (.described .interrupted "session cancelled")

/-- Ends a relay: its timer is stopped in any case. -/
def finish (now : Nat) (c : Copies) (r : Except TunnelError Unit) : Relay :=
  .ended now r (some { c with timer := c.timer.cancel now })

def opened (p : SessionPolicy) (now : Nat) (cancelled : Bool) : Copies :=
  let timer := ActivityTimer.start now p.connectionIdle.ceilMillis
  ⟨.start, .start, if cancelled then timer.cancel now else timer⟩

def afterEnd (p : SessionPolicy) (now : Nat) (side : Side) (c : Copies)
    (r : Except IoError Nat) : Relay :=
  -- From now on only the other direction counts, with a time of its own.
  let c := { c with timer := c.timer.setTimeout now (p.grace side).ceilMillis }
  match r with
  | .error e => finish now c (.error (.relay e))
  | .ok _ => if c.isComplete then finish now c (.ok ()) else .copying c

def afterInput (p : SessionPolicy) (now : Nat) (c : Copies) (side : Side) (input : Copy.Input) :
    Option Relay :=
  match (c.side side).step input with
  | none => none
  | some copy =>
    let c := c.setSide side copy
    let c := if Copy.isActivity input then { c with timer := c.timer.update } else c
    match copy.result? with
    | some r => some (afterEnd p now side c r)
    | none => some (.copying c)

def advance (now : Nat) : Relay → Relay
  | .copying c => .copying { c with timer := c.timer.advance now }
  | r => r

def isOver (now : Nat) (c : Copies) : Bool :=
  c.timer.cancelledAt.any (· < now)

def step (p : SessionPolicy) (s : State) (now : Nat) (e : Event) : Option State :=
  match s.relay.advance now, e with
  | .opening, .opened (.ok ()) => some { s with relay := .copying (opened p now s.cancelled) }
  | .opening, .opened (.error e) => some { s with relay := .ended now (.error e) none }
  -- The answer of the gateway is awaited all the same.
  | .opening, .cancel => some { s with cancelled := true }
  | .copying c, .cancel =>
    if isOver now c then none
    else some ⟨.copying { c with timer := c.timer.cancel now }, true⟩
  | .copying c, .copied side input =>
    if isOver now c then none
    else (afterInput p now c side input).map fun relay => { s with relay }
  | .copying c, .notice =>
    if c.timer.cancelledAt = some now then
      some { s with relay := finish now c (if s.cancelled then .error interrupted else .ok ()) }
    else none
  | .ended .., .cancel => some { s with cancelled := true }
  | _, _ => none

def run (p : SessionPolicy) (s : State) : List (Nat × Event) → Option State
  | [] => some s
  | (now, e) :: rest => (step p s now e).bind fun s => run p s rest

end Relay

end GatewayTunnel
