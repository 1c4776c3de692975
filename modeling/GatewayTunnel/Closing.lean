import GatewayTunnel.Transport

/-!
# The end of a transport, access by access

The calls that close a transport, its session and its handler share three marks: that closing was asked for,
that the handler is gone, and that the session takes no more requests. `Closing.step` is one access to one of
them. A call looks for the handler's mark and then for that of the session; the handler looks whether closing was asked for,
sets its mark, and records the end. Everybody else can get in between.

The actions are those of `Transport.step`, which takes the two looks of a call for one, and all that the
handler does.
-/

namespace GatewayTunnel.Closing

open Transport (CallId Action Event)

inductive Phase where
  | absent
  /-- Before the flag is set. -/
  | entered
  /-- With the flag set by this call, before the look for the handler's mark. -/
  | flagged
  /-- With the handler's mark not set, before the look at the session. -/
  | unnoticed
  /-- Before asking the gateway to disconnect. -/
  | willing
  /-- With a request to disconnect under way. -/
  | disconnecting
  | done (r : Except TunnelError Unit)

inductive Handler where
  | alive
  /-- It has looked whether closing was asked for. -/
  | going (byClient : Bool)
  /-- Its mark is set. -/
  | noticed (byClient : Bool)
  /-- The end is recorded. -/
  | gone
  deriving DecidableEq, Repr

def Handler.isNoticed : Handler → Bool
  | alive | going _ => false
  | noticed _ | gone => true

structure State where
  gateway : String
  closeRequested : Bool
  sessionEnded : Bool
  handler : Handler
  calls : CallId → Phase

namespace State

def start (gateway : String) : State := ⟨gateway, false, false, .alive, fun _ => .absent⟩

def isClosed (s : State) : Bool :=
  s.handler.isNoticed || s.sessionEnded

def move (s : State) (c : CallId) (phase : Phase) : State :=
  { s with calls := fun c' => if c' = c then phase else s.calls c' }

def finish (s : State) (c : CallId) (r : Except TunnelError Unit) : State × List Event :=
  (s.move c (.done r), [.returned c r])

end State

def step (s : State) : Action → Option (State × List Event)
  | .arrive c =>
    match s.calls c with
    | .absent => some (s.move c .entered, [])
    | _ => none
  | .proceed c =>
    match s.calls c with
    | .entered =>
      if s.closeRequested then some (s.finish c (.ok ()))
      else some ({ s with closeRequested := true }.move c .flagged, [])
    | .flagged =>
      if s.handler.isNoticed then some (s.finish c (.ok ())) else some (s.move c .unnoticed, [])
    | .unnoticed =>
      if s.sessionEnded then some (s.finish c (.ok ())) else some (s.move c .willing, [])
    | .willing => some (s.move c .disconnecting, [.disconnectAsked c])
    | _ => none
  | .disconnectEnded c r =>
    match s.calls c with
    | .disconnecting => some (s.finish c (r.mapError SessionFailure.toError))
    | _ => none
  | .endSession => if s.sessionEnded then none else some ({ s with sessionEnded := true }, [])
  | .dropHandler =>
    match s.handler with
    | .alive => some ({ s with handler := .going s.closeRequested }, [])
    | .going byClient => some ({ s with handler := .noticed byClient }, [])
    | .noticed byClient =>
      some ({ s with handler := .gone }, [.logged (.transportClosed s.gateway byClient)])
    | .gone => none

def run (s : State) : List Action → Option (State × List Event)
  | [] => some (s, [])
  | a :: rest => do
    let (s, events) ← step s a
    let (s, more) ← run s rest
    return (s, events ++ more)

end GatewayTunnel.Closing
