import GatewayTunnel.Audit

/-!
# One transport

A transport can be closed by any number of calls at once, and its session can end at any time. The
session owns a handler, which goes when the session ends, records the end, and says whether it was
asked for.

`Transport.step` is one atomic step. A call of `close` first sets the flag that closing was asked for,
keeping what it was before, and then looks whether the transport is still there. Only a call that
found the flag unset and the transport alive asks the gateway to disconnect.
-/

namespace GatewayTunnel.Transport

abbrev CallId := Nat

inductive Phase where
  | absent
  /-- Before the flag is set. -/
  | entered
  /-- With the flag set by this call, before the look at the session. -/
  | flagged
  /-- Before asking the gateway to disconnect. -/
  | willing
  /-- With a request to disconnect under way. -/
  | disconnecting
  | done (r : Except TunnelError Unit)

structure State where
  gateway : String
  closeRequested : Bool
  sessionEnded : Bool
  handlerGone : Bool
  calls : CallId → Phase

inductive Action where
  | arrive (c : CallId)
  | proceed (c : CallId)
  | disconnectEnded (c : CallId) (r : Except SessionFailure Unit)
  | endSession
  | dropHandler

inductive Event where
  | disconnectAsked (c : CallId)
  | logged (e : AuditEvent)
  | returned (c : CallId) (r : Except TunnelError Unit)

namespace State

def start (gateway : String) : State := ⟨gateway, false, false, false, fun _ => .absent⟩

def isClosed (s : State) : Bool :=
  s.handlerGone || s.sessionEnded

def move (s : State) (c : CallId) (phase : Phase) : State :=
  { s with calls := fun c' => if c' = c then phase else s.calls c' }

def finish (s : State) (c : CallId) (r : Except TunnelError Unit) : State × List Event :=
  (s.move c (.done r), [.returned c r])

def shown (s : State) : String :=
  Text.shownRecord "SshTransport" [
    ("gateway", Text.quoted s.gateway), ("closed", Text.shownBool s.isClosed)]

end State

def step (s : State) : Action → Option (State × List Event)
  | .arrive c =>
    match s.calls c with
    | .absent => some (s.move c .entered, [])
    | _ => none
  | .proceed c =>
    match s.calls c with
    | .entered =>
      if s.closeRequested then some (s.finish c (.ok ()))
      else some ({ s with closeRequested := true }.move c .flagged, [])
    | .flagged => if s.isClosed then some (s.finish c (.ok ())) else some (s.move c .willing, [])
    | .willing => some (s.move c .disconnecting, [.disconnectAsked c])
    | _ => none
  | .disconnectEnded c r =>
    match s.calls c with
    | .disconnecting => some (s.finish c (r.mapError SessionFailure.toError))
    | _ => none
  | .endSession => if s.sessionEnded then none else some ({ s with sessionEnded := true }, [])
  | .dropHandler =>
    if s.handlerGone then none
    else some ({ s with handlerGone := true },
      [.logged (.transportClosed s.gateway s.closeRequested)])

def run (s : State) : List Action → Option (State × List Event)
  | [] => some (s, [])
  | a :: rest => do
    let (s, events) ← step s a
    let (s, more) ← run s rest
    return (s, events ++ more)

/-! ## Channels -/

structure ChannelRequest where
  host : String
  port : Nat
  originHost : String
  originPort : Nat
  deriving DecidableEq, Repr

def ChannelRequest.ofDestination (d : Destination) : ChannelRequest :=
  ⟨d.address.host, d.address.port.toNat, "127.0.0.1", 0⟩

def channelError (d : Destination) (f : SessionFailure) : TunnelError :=
  .channel d.render f.message

/-! ## Silent gateways -/

def unansweredLimit : Nat := 3

/-- When a gateway that was last heard at a time is given up, if it is asked in intervals. -/
def givenUpAt? (interval lastHeard : Nat) : Option Nat :=
  if interval = 0 then none else some (lastHeard + (unansweredLimit + 1) * interval)

end GatewayTunnel.Transport
