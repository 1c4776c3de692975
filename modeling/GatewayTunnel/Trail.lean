import GatewayTunnel.Connection
import GatewayTunnel.Transport

/-!
# The audit log of many connections

Any number of connections are made at the same time, to any gateways. One that works is a transport,
which is closed and ends in its own time. All of them record in the same audit log.

`Trail.step` is one atomic step. What a connection records, it records one event after the other, with
those of others in between.
-/

namespace GatewayTunnel.Trail

structure Connector where
  identity : Identity
  gateway : String
  observesKeys : Bool

namespace Connector

def run (c : Connector) (p : Connection.Peer) : Except TunnelError Unit × List Connection.Event :=
  Connection.run c.identity c.gateway p

def records (c : Connector) (p : Connection.Peer) : List AuditEvent :=
  (c.run p).2.filterMap (Connection.Event.log? c.observesKeys)

/-- The session has ended before the connection works or has failed. -/
def endsEarly (c : Connector) (p : Connection.Peer) : Bool :=
  decide (Connection.closed c.gateway ∈ (c.run p).2)

/-- The transport of a connection that works. The handler is gone with the session. -/
def transport (c : Connector) (p : Connection.Peer) : Transport.State :=
  { Transport.State.start c.gateway with
    sessionEnded := c.endsEarly p, handlerGone := c.endsEarly p }

def outcome (c : Connector) (p : Connection.Peer) : Except TunnelError Transport.State :=
  (c.run p).1.map fun () => c.transport p

end Connector

abbrev ConnectionId := Nat

inductive Phase where
  | absent
  | connecting (rest : List AuditEvent) (r : Except TunnelError Transport.State)
  | connected (t : Transport.State)
  | failed (e : TunnelError)

abbrev State := ConnectionId → Phase

inductive Action where
  | connect (n : ConnectionId) (c : Connector) (p : Connection.Peer)
  | proceed (n : ConnectionId)
  | transport (n : ConnectionId) (a : Transport.Action)

inductive Event where
  | recorded (n : ConnectionId) (e : AuditEvent)
  | returned (n : ConnectionId) (r : Except TunnelError Unit)
  | shown (n : ConnectionId) (e : Transport.Event)

def Event.ofTransport (n : ConnectionId) : Transport.Event → Event
  | .logged e => recorded n e
  | e => shown n e

namespace State

def start : State := fun _ => .absent

def move (s : State) (n : ConnectionId) (phase : Phase) : State :=
  fun m => if m = n then phase else s m

end State

def step (s : State) : Action → Option (State × List Event)
  | .connect n c p =>
    match s n with
    | .absent => some (s.move n (.connecting (c.records p) (c.outcome p)), [])
    | _ => none
  | .proceed n =>
    match s n with
    | .connecting (e :: rest) r => some (s.move n (.connecting rest r), [.recorded n e])
    | .connecting [] (.ok t) => some (s.move n (.connected t), [.returned n (.ok ())])
    | .connecting [] (.error e) => some (s.move n (.failed e), [.returned n (.error e)])
    | _ => none
  | .transport n a =>
    match s n with
    | .connected t =>
      (Transport.step t a).map fun (t, events) =>
        (s.move n (.connected t), events.map (.ofTransport n))
    | _ => none

def run (s : State) : List Action → Option (State × List Event)
  | [] => some (s, [])
  | a :: rest => do
    let (s, events) ← step s a
    let (s, more) ← run s rest
    return (s, events ++ more)

def log (n : ConnectionId) (events : List Event) : List AuditEvent :=
  events.filterMap fun
    | .recorded m e => if m = n then some e else none
    | _ => none

end GatewayTunnel.Trail
