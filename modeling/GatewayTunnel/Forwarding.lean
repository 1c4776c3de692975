import GatewayTunnel.Listener
import GatewayTunnel.Logging.Record

/-!
# Serving a forward

A forward accepts connections and starts a request to its target for each. It ends when it sees that
it was cancelled, or when accepting fails; then it waits for the requests that it started. Their
tokens are children of its own: they are cancelled when the forward is, and not by anything else that
the forward does.

`Forwarding.step` is one atomic step. The loop may accept a connection after the forward was cancelled
and before it sees that; which of its branches is taken is up to the surroundings.
-/

namespace GatewayTunnel.Forwarding

abbrev ConnectionId := Nat

inductive Phase where
  | starting
  | accepting
  /-- Nothing more is accepted. -/
  | draining
  | done
  deriving DecidableEq, Repr

structure Connection where
  id : ConnectionId
  origin : String
  returned : Bool
  deriving DecidableEq, Repr

structure State where
  phase : Phase
  cancelled : Bool
  connections : List Connection
  deriving DecidableEq, Repr

inductive Action where
  | start
  | cancel
  | stop
  | accept (c : ConnectionId) (origin : String)
  | acceptFailed (e : IoError)
  | returned (c : ConnectionId) (r : Except TunnelError Unit)
  | reap (c : ConnectionId)
  | finish

inductive Event where
  | logged (r : LogRecord)
  | requested (c : ConnectionId) (d : Destination)
  | finished

def State.init : State := ⟨.starting, false, []⟩

instance : Inhabited State := ⟨.init⟩

def State.tokensCancelled (s : State) : Bool :=
  s.cancelled

/-! ## Records -/

def record (severity : Severity) (message : String) (fields : List (String × String)) : Event :=
  .logged ⟨severity, "sshtun::forward", message, fields⟩

def failed (origin : String) (e : TunnelError) : Event :=
  record .warn ("Forwarded connection failed: " ++ e.message)
    [("origin", origin), ("stage", Text.quoted e.stage)]

/-! ## Steps -/

def State.running? (s : State) (c : ConnectionId) : Option Connection :=
  s.connections.find? fun connection => connection.id == c && !connection.returned

def State.markReturned (s : State) (c : ConnectionId) : State :=
  { s with connections := s.connections.map fun connection =>
      if connection.id = c then { connection with returned := true } else connection }

def step (f : LocalForward) (s : State) : Action → Option (State × List Event)
  | .start =>
    match s.phase with
    | .starting => some ({ s with phase := .accepting }, [record .info "Local forward listening"
        [("listen", f.address.render), ("target", f.target.render)]])
    | _ => none
  | .cancel => some ({ s with cancelled := true }, [])
  | .stop =>
    if s.phase = .accepting ∧ s.cancelled then some ({ s with phase := .draining }, []) else none
  | .accept c origin =>
    if s.phase = .accepting then
      some ({ s with connections := s.connections ++ [⟨c, origin, false⟩] }, [.requested c f.target])
    else none
  | .acceptFailed e =>
    if s.phase = .accepting then
      some ({ s with phase := .draining },
        [record .warn "Local forward accept error" [("err", e.message)]])
    else none
  | .returned c r =>
    (s.running? c).map fun connection =>
      (s.markReturned c, match r with
        | .ok () => []
        | .error e => [failed connection.origin e])
  | .reap c =>
    if s.connections.any fun connection => connection.id == c && connection.returned then
      some ({ s with connections := s.connections.filter fun connection => connection.id != c }, [])
    else none
  | .finish =>
    if s.phase = .draining ∧ s.connections = [] then
      some ({ s with phase := .done }, [record .info "Local forward stopped"
        [("listen", f.address.render)], .finished])
    else none

def run (f : LocalForward) (s : State) : List Action → Option (State × List Event)
  | [] => some (s, [])
  | a :: rest => do
    let (s, events) ← step f s a
    let (s, more) ← run f s rest
    return (s, events ++ more)

end GatewayTunnel.Forwarding
