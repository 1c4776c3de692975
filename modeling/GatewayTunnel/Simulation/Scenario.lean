import GatewayTunnel.Simulation.World

namespace GatewayTunnel.Simulation

open Manager (CallId TransportId)

inductive Doing where
  | acquire (n : Nat)
  | perform (job : Job)
  | spawn (tag : String) (job : Job)
  | advance (ms : Nat)
  | kill (t : Option TransportId)
  | debug
  | join (tag : String)

structure Step where
  doing : Doing
  /-- Everything that can run has run before the state is looked at. -/
  settle : Bool

inductive Result where
  | nothing
  | reports (rs : List Report)
  | killed (t : TransportId)
  | noTransport
  | shown (text : String)
  | joined (time : Nat) (r : Report)

structure TransportView where
  closed : Bool
  closeCalls : Nat
  opens : Nat

structure Snapshot where
  result : Result
  now : Nat
  current : Option TransportId
  hasTransport : Bool
  dials : Nat
  handshakes : Nat
  transports : List TransportView
  finished : List String

structure Scenario where
  world : World
  spawned : List (String × CallId)

namespace Scenario

def start (gateway : Gateway) (script : GatewayScript) : Scenario :=
  ⟨.start gateway script, []⟩

def spawn (s : Scenario) (job : Job) : Scenario × CallId :=
  let (w, c, turn) := s.world.begin job
  ({ s with world := w.wake turn }, c)

def spawnAll (s : Scenario) (job : Job) : (n : Nat) → Scenario × List CallId
  | 0 => (s, [])
  | n + 1 =>
    let (s, c) := s.spawn job
    let (s, cs) := s.spawnAll job n
    (s, c :: cs)

def reports (s : Scenario) (cs : List CallId) : List Report :=
  cs.filterMap fun c => (s.world.report? c).map (·.2)

def perform (s : Scenario) : Doing → Scenario × Result
  | .acquire n =>
    let (s, cs) := s.spawnAll .acquire n
    let s := { s with world := s.world.awaitTasks cs }
    (s, .reports (s.reports cs))
  | .perform job =>
    let (w, c, turn) := s.world.begin job
    let w := ({ w with foreground := some c }.take turn).await [c]
    let s := { s with world := { w with foreground := none } }
    (s, .reports (s.reports [c]))
  | .spawn tag job =>
    let (s, c) := s.spawn job
    ({ s with spawned := s.spawned ++ [(tag, c)] }, .nothing)
  | .advance ms => ({ s with world := s.world.sleep ms }, .nothing)
  | .kill t? =>
    let n := s.world.state.manager.transports.length
    match t?.or (if n = 0 then none else some (n - 1)) with
    | none => (s, .noTransport)
    | some t =>
      match s.world.act? (.manager (.die t)) with
      | some (world, _) => ({ s with world }, .killed t)
      | none => (s, .noTransport)
  | .debug => (s, .shown (s.world.gateway.shown s.world.state.manager.live?.isSome))
  | .join tag =>
    match s.spawned.lookup tag with
    | none => (s, .nothing)
    | some c =>
      let s := { s with
        world := s.world.awaitTasks [c], spawned := s.spawned.filter (·.2 != c) }
      match s.world.report? c with
      | some (time, r) => (s, .joined time r)
      | none => (s, .nothing)

def snapshot (s : Scenario) (result : Result) : Snapshot :=
  let w := s.world
  let m := w.state.manager
  let views := (m.transports.zipIdx).map fun (transport, t) =>
    TransportView.mk transport.ended (w.closeCalls.count t) (w.openCalls.count t)
  { result, now := w.now, current := m.live?, hasTransport := m.slot.isSome,
    dials := w.dialTimes.length, handshakes := w.handshakes, transports := views,
    finished := (s.spawned.filter fun task => (w.report? task.2).isSome).map (·.1) }

def step (s : Scenario) (step : Step) : Scenario × Snapshot :=
  let (s, result) := s.perform step.doing
  let s := if step.settle then { s with world := s.world.settle } else s
  (s, s.snapshot result)

def run : List Step → Scenario → Scenario × List Snapshot
  | [], s => (s, [])
  | step :: rest, s =>
    let (s, view) := s.step step
    let (s, views) := run rest s
    (s, view :: views)

end Scenario

end GatewayTunnel.Simulation
