import GatewayTunnel.Manager

/-!
# Requests

A request goes through stages: its destination is checked, a transport is acquired, a channel is
opened over it, and bytes are copied. A stage that fails ends the request with its error, and the
next ones are not begun. Requests share the manager of the transport; opening and copying do not
touch it.
-/

namespace GatewayTunnel.Request

open Manager (CallId TransportId)

/-- Where a request is. A request has the number of the call that acquires its transport. -/
inductive Phase where
  | absent
  | routing (d : Destination)
  | acquiring (d : Destination)
  | opening (d : Destination) (t : TransportId)
  | copying (d : Destination) (t : TransportId)
  | done (r : Except TunnelError Unit)

structure State where
  manager : Manager.State
  requests : CallId → Phase

inductive Action where
  | arrive (c : CallId) (d : Destination)
  | proceed (c : CallId)
  | openEnded (c : CallId) (r : Except TunnelError Unit)
  | copyEnded (c : CallId) (r : Except TunnelError Unit)
  | manager (a : Manager.Action)

inductive Event where
  | manager (e : Manager.Event)
  | openStarted (c : CallId) (t : TransportId) (d : Destination)
  | copyStarted (c : CallId)
  | returned (c : CallId) (r : Except TunnelError Unit)

namespace State

def start : State := ⟨.start, fun _ => .absent⟩

instance : Inhabited State := ⟨start⟩

def move (s : State) (c : CallId) (phase : Phase) : State :=
  { s with requests := fun c' => if c' = c then phase else s.requests c' }

def finish (s : State) (c : CallId) (r : Except TunnelError Unit) : State × List Event :=
  (s.move c (.done r), [.returned c r])

def manage (g : Gateway) (s : State) (a : Manager.Action) : Option (State × List Event) :=
  (Manager.step g s.manager a).map fun (manager, events) =>
    ({ s with manager }, events.map .manager)

end State

def step (g : Gateway) (s : State) : Action → Option (State × List Event)
  | .arrive c d =>
    match s.requests c with
    | .absent => some (s.move c (.routing d), [])
    | _ => none
  | .proceed c =>
    match s.requests c with
    | .routing d =>
      match d.checkStream with
      | .error e => some (s.finish c (.error e))
      | .ok () => (s.move c (.acquiring d)).manage g (.arrive c .acquire)
    | .acquiring d =>
      match s.manager.calls c with
      | .done (.acquired t) => some (s.move c (.opening d t), [.openStarted c t d])
      | .done (.failed e) => some (s.finish c (.error e))
      | _ => none
    | _ => none
  | .openEnded c r =>
    match s.requests c, r with
    | .opening d t, .ok () => some (s.move c (.copying d t), [.copyStarted c])
    | .opening .., .error e => some (s.finish c (.error e))
    | _, _ => none
  | .copyEnded c r =>
    match s.requests c with
    | .copying .. => some (s.finish c r)
    | _ => none
  | .manager a => s.manage g a

def run (g : Gateway) (s : State) : List Action → Option (State × List Event)
  | [] => some (s, [])
  | a :: rest => do
    let (s, events) ← step g s a
    let (s, more) ← run g s rest
    return (s, events ++ more)

end GatewayTunnel.Request
