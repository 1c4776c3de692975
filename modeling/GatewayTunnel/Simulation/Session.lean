import GatewayTunnel.Relay
import GatewayTunnel.Simulation.Ends

namespace GatewayTunnel.Simulation

structure End where
  source : Source
  sink : Sink
  deriving Repr

structure Session where
  policy : SessionPolicy
  relay : Relay.State
  caller : End
  remote : End
  echo : Bool
  cancelAt : Option Nat

namespace Session

def copy? (s : Session) (side : Side) : Option Copy :=
  match s.relay.relay with
  | .copying c => some (c.side side)
  | _ => none

def source (s : Session) : Side → Source
  | .request => s.caller.source
  | .response => s.remote.source

def sink (s : Session) : Side → Sink
  | .request => s.remote.sink
  | .response => s.caller.sink

def setSource (s : Session) (side : Side) (source : Source) : Session :=
  match side with
  | .request => { s with caller := { s.caller with source } }
  | .response => { s with remote := { s.remote with source } }

def setSink (s : Session) (side : Side) (sink : Sink) : Session :=
  match side with
  | .request => { s with remote := { s.remote with sink } }
  | .response => { s with caller := { s.caller with sink } }

def giveBack (now : Nat) (side : Side) (item : Item) (s : Session) : Session :=
  match side with
  | .request =>
    if s.echo then s.setSource .response (s.remote.source.push now item) else s
  | .response => s

def answer? (now : Nat) (side : Side) (s : Session) : Option (Copy.Reply × Session) :=
  match s.copy? side with
  | some (.reading _) =>
    ((s.source side).read now).map fun (reply, source) => (reply, s.setSource side source)
  | some (.writing total size rest) =>
    ((s.sink side).write size).map fun reply =>
      let bs := Copy.taken (.writing total size rest) reply.input
      let s := s.setSink side ((s.sink side).take bs)
      (reply, if bs.isEmpty then s else s.giveBack now side (.send bs))
  | some (.flushing ..) =>
    match (s.sink side).script.flushError with
    | some e => some (.flush (.error e), s)
    | none => some (.flush (.ok ()), s)
  | some (.halfClosing _) =>
    let s := s.setSink side { s.sink side with shutdownAt := some now }
    some (.shutdown (.ok ()), s.giveBack now side .eof)
  | _ => none

def event (now : Nat) (e : Relay.Event) (s : Session) : Session :=
  match Relay.step s.policy s.relay now e with
  | some relay => { s with relay }
  | none => s

def pump (now : Nat) (side : Side) : (fuel : Nat) → Session → Session
  | 0, s => s
  | fuel + 1, s =>
    match s.answer? now side with
    | none => s
    | some (reply, s) => pump now side fuel (s.event now (.copied side reply.input))

def size (s : Session) : Nat :=
  let weight (items : List (Nat × Item)) : Nat :=
    items.foldl (fun n item => match item.2 with
      | .send bs => n + bs.length + 1
      | _ => n + 1) 0
  weight s.caller.source.items + weight s.remote.source.items + 1

def canGoOn (now : Nat) (s : Session) : Bool :=
  (s.answer? now .request).isSome || (s.answer? now .response).isSome

def settle (now : Nat) : (fuel : Nat) → Session → Session
  | 0, s => s
  | fuel + 1, s =>
    let bound := 8 * s.size + 8
    let s := (s.pump now .request bound).pump now .response bound
    let s := s.event now .notice
    if s.canGoOn now then settle now fuel s else s

def next? (now : Nat) (s : Session) : Option Nat :=
  let check := match s.relay.relay with
    | .copying c => c.timer.nextCheck?
    | _ => none
  let times := [s.caller.source.next? now, s.remote.source.next? now, check,
    s.cancelAt.filter (now < ·)].filterMap id
  times.min?

def run (now : Nat) : (fuel : Nat) → Session → Session
  | 0, s => s
  | fuel + 1, s =>
    let s := { s with relay := { s.relay with relay := s.relay.relay.advance now } }
    let s := if s.cancelAt = some now then s.event now .cancel else s
    let s := s.settle now (8 * s.size + 8)
    match s.relay.relay with
    | .copying _ =>
      match s.next? now with
      | some next => run next fuel s
      | none => s
    | _ => s

/-- Opens the channel at a time and runs the relay to its end. Between two items of the scripts the
timer is checked at most twice. -/
def runFrom (now : Nat) (s : Session) : Session :=
  let s := s.event now (.opened (.ok ()))
  s.run now (3 * (s.caller.source.items.length + s.remote.source.items.length) + 8)

def outcome? (s : Session) : Option (Nat × Except TunnelError Unit) :=
  match s.relay.relay with
  | .ended now r _ => some (now, r)
  | _ => none

end Session

end GatewayTunnel.Simulation
