import GatewayTunnel.Simulation.Script

/-!
# Simulated time

Tasks run on a virtual clock. A task runs until it has to wait; tasks that can run take turns in the
order in which they became able to; and the clock moves on only when none can. One call may be in the
foreground: it goes before the others when the clock has moved, and after them otherwise.

Every change goes through `Request.step`, so a simulation is one of the interleavings of the machine
of requests. Only a relay over a transport of its own enters at the opening of its channel.
-/

namespace GatewayTunnel.Simulation

open Manager (CallId TransportId)

inductive Turn where
  | call (c : CallId) (first : List Request.Action)
  | watch (t : TransportId)
  | enter (c : CallId) (h : Handshake)

def Turn.isOf (c : CallId) : Turn → Bool
  | call c' _ | enter c' _ => c' == c
  | watch _ => false

structure Running where
  plan : SessionPlan
  policy : SessionPolicy
  startedAt : Nat
  session : Option Session

structure World where
  gateway : Gateway
  script : GatewayScript
  now : Nat
  state : Request.State
  nextCall : CallId
  foreground : Option CallId
  ready : List Turn
  sleeping : List (Nat × Turn)
  sessions : List (CallId × Running)
  deadShakes : List CallId
  finished : List (CallId × Nat × Report)
  dialTimes : List Nat
  handshakes : Nat
  opened : List Destination
  openCalls : List TransportId
  closeCalls : List TransportId

namespace World

def start (gateway : Gateway) (script : GatewayScript) : World := {
  gateway, script, now := 0, state := default, nextCall := 0, foreground := none, ready := [],
  sleeping := [], sessions := [], deadShakes := [], finished := [], dialTimes := [], handshakes := 0,
  opened := [], openCalls := [], closeCalls := [] }

def wake (w : World) (turn : Turn) : World :=
  { w with ready := w.ready ++ [turn] }

def wakeAfter (w : World) (takes : Nat) (turn : Turn) : World :=
  { w with sleeping := w.sleeping ++ [(w.now + takes, turn)] }

def after (w : World) (takes : Nat) (c : CallId) (a : Request.Action) :
    World × List Request.Action :=
  if takes = 0 then (w, [a]) else (w.wakeAfter takes (.call c [a]), [])

def report? (w : World) (c : CallId) : Option (Nat × Report) :=
  w.finished.lookup c

def finish (w : World) (c : CallId) (report : Report) : World :=
  { w with finished := w.finished ++ [(c, w.now, report)] }

def running? (w : World) (c : CallId) : Option Running :=
  w.sessions.lookup c

/-! ## What the surroundings do -/

def beginCopying (w : World) (c : CallId) : World × List Request.Action :=
  match w.running? c with
  | none => (w, [])
  | some run =>
    let now := w.now - run.startedAt
    let plan := run.plan
    let cancelled := plan.cancelAt.any (· ≤ now)
    let session := Session.runFrom now {
      policy := run.policy, relay := .start now plan.destination cancelled, caller := plan.caller,
      remote := plan.remote, echo := plan.echo, cancelAt := plan.cancelAt }
    let w := { w with sessions := (c, { run with session := some session }) :: w.sessions }
    match session.outcome? with
    | none => (w, [])
    | some (time, r) => w.after (time - now) c (.copyEnded c r)

def finishRelay (w : World) (c : CallId) (run : Running) (r : Except TunnelError Unit) : World :=
  let ends := match run.session with
    | some s => (s.caller, s.remote)
    | none => (run.plan.caller, run.plan.remote)
  w.finish c (.session ⟨r, w.now - run.startedAt, ends.1.sink, ends.2.sink⟩)

def shake (w : World) : World × Scripted Handshake :=
  let (entry, handshakes) := nextOf .works w.script.handshakes
  ({ w with handshakes := w.handshakes + 1, script := { w.script with handshakes } }, entry)

def onManager (w : World) : Manager.Event → World × List Request.Action
  | .dialStarted c _ =>
    let (entry, dials) := nextOf (.ok ()) w.script.dials
    let w := { w with dialTimes := w.dialTimes ++ [w.now], script := { w.script with dials } }
    w.after entry.takes c (.manager (.dialEnded c entry.outcome))
  | .pauseStarted c d => w.after d.ceilMillis c (.manager (.pauseEnded c))
  | .shakeStarted c =>
    let (w, entry) := w.shake
    let w := if entry.outcome.isDead then { w with deadShakes := c :: w.deadShakes } else w
    w.after entry.takes c (.manager (.shakeEnded c entry.outcome.result))
  | .created c t => (w, if w.deadShakes.contains c then [.manager (.die t)] else [])
  | .closeStarted c t =>
    let (entry, closes) := nextOf (.ok ()) w.script.closes
    let w := { w with closeCalls := t :: w.closeCalls, script := { w.script with closes } }
    let (w, later) := w.after entry.takes c (.manager (.closeEnded c entry.outcome))
    (w, .manager (.die t) :: later)
  | .watched _ t | .ended t => (w.wake (.watch t), [])
  | .handed c => (w.wake (.call c []), [])
  | .returned c r =>
    match w.running? c, r with
    | some _, _ => (w, [])
    | none, .acquired t => (w.finish c (.acquired (.ok t)), [])
    | none, .failed e => (w.finish c (.acquired (.error e)), [])
    | none, .closed r => (w.finish c (.closed r), [])
  | _ => (w, [])

def onEvent (w : World) : Request.Event → World × List Request.Action
  | .manager e => w.onManager e
  | .openStarted c t d =>
    let (entry, opens) := nextOf none w.script.opens
    let w := { w with
      opened := w.opened ++ [d], openCalls := t :: w.openCalls, script := { w.script with opens } }
    let r := match entry.outcome with
      | some reason => .error (.channel d.render reason)
      | none => .ok ()
    w.after entry.takes c (.openEnded c r)
  | .copyStarted c => w.beginCopying c
  | .returned c r =>
    match w.running? c with
    | some run => (w.finishRelay c run r, [])
    | none => (w, [])

def onEvents : List Request.Event → World → World × List Request.Action
  | [], w => (w, [])
  | e :: rest, w =>
    let (w, actions) := w.onEvent e
    let (w, more) := onEvents rest w
    (w, actions ++ more)

def act? (w : World) (a : Request.Action) : Option (World × List Request.Action) :=
  (Request.step w.gateway w.state a).map fun (state, events) => onEvents events { w with state }

/-! ## Turns -/

def next (w : World) (c : CallId) : Request.Action :=
  match w.state.requests c, w.state.manager.calls c with
  | .absent, _ => .manager (.proceed c)
  | .acquiring _, .done _ => .proceed c
  | .acquiring _, _ => .manager (.proceed c)
  | _, _ => .proceed c

def runCall (c : CallId) : (fuel : Nat) → List Request.Action → World → World
  | 0, _, w => w
  | fuel + 1, a :: rest, w =>
    match w.act? a with
    | some (w, more) => runCall c fuel (more ++ rest) w
    | none => runCall c fuel rest w
  | fuel + 1, [], w =>
    match w.act? (w.next c) with
    | some (w, more) => runCall c fuel more w
    | none => w

/-- A bound on the number of actions that can follow one another without an action from outside. -/
def bound (w : World) : Nat :=
  64 * (w.nextCall + w.script.size + w.ready.length + w.sleeping.length + 1)

def addTransport (w : World) (ended : Bool) : World :=
  let manager := w.state.manager
  let transports := manager.transports ++ [Manager.Transport.mk ended .unwatched]
  { w with state := { w.state with manager := { manager with transports } } }

def enter (w : World) (c : CallId) (run : Running) (h : Handshake) : World :=
  match h.result with
  | .error e => w.finishRelay c run (.error e)
  | .ok () =>
    let t := w.state.manager.transports.length
    let w := w.addTransport h.isDead
    let d := run.plan.destination
    match d.checkStream with
    | .error e => w.finishRelay c run (.error e)
    | .ok () =>
      let (w, first) := { w with state := w.state.move c (.opening d t) }.onEvent (.openStarted c t d)
      runCall c w.bound first w

def take (w : World) : Turn → World
  | .call c first => runCall c w.bound first w
  | .watch t => ((w.act? (.manager (.notice t))).map (·.1)).getD w
  | .enter c h =>
    match w.running? c with
    | some run => w.enter c run h
    | none => w

def isForeground (w : World) (turn : Turn) : Bool :=
  w.foreground.any turn.isOf

def turn? (w : World) : Option World :=
  -- The call in the foreground comes last.
  match w.ready.filter (!w.isForeground ·) ++ w.ready.filter w.isForeground with
  | [] => none
  | turn :: ready => some (({ w with ready }).take turn)

def settleFor : (fuel : Nat) → World → World
  | 0, w => w
  | fuel + 1, w =>
    match w.turn? with
    | some w => settleFor fuel w
    | none => w

def settle (w : World) : World :=
  w.settleFor w.bound

def moveTo (w : World) (now : Nat) : World :=
  let due := (w.sleeping.filter (·.1 ≤ now)).map (·.2)
  let w := { w with now, sleeping := w.sleeping.filter (now < ·.1), ready := w.ready ++ due }
  match due.find? w.isForeground with
  | some turn => { w with ready := w.ready.filter (!w.isForeground ·) }.take turn
  | none => w

def nextTime? (w : World) : Option Nat :=
  (w.sleeping.map (·.1)).min?

def awaitFor (cs : List CallId) : (fuel : Nat) → World → World
  | 0, w => w
  | fuel + 1, w =>
    if cs.all fun c => (w.report? c).isSome then w
    else
      match w.turn? with
      | some w => awaitFor cs fuel w
      | none =>
        match w.nextTime? with
        | some time => awaitFor cs fuel (w.moveTo time)
        | none => w

def await (w : World) (cs : List CallId) : World :=
  awaitFor cs w.bound w

def awaitTasks (w : World) (cs : List CallId) : World :=
  if cs.all fun c => (w.report? c).isSome then w else (w.await cs).settle

def sleepUntilFor (time : Nat) : (fuel : Nat) → World → World
  | 0, w => w
  | fuel + 1, w =>
    match w.turn? with
    | some w => sleepUntilFor time fuel w
    | none =>
      match w.nextTime? with
      | some next =>
        if next < time then sleepUntilFor time fuel (w.moveTo next) else w.moveTo time
      | none => w.moveTo time

def sleep (w : World) (takes : Nat) : World :=
  if takes = 0 then w else sleepUntilFor (w.now + takes) w.bound w

/-! ## Jobs -/

def relayOf (w : World) : Job → Option (SessionPlan × SessionPolicy)
  | .session plan => some (plan, w.gateway.policy)
  | .direct plan policy => some (plan, policy)
  | _ => none

def begin (w : World) (job : Job) : World × CallId × Turn :=
  let c := w.nextCall
  let w := { w with nextCall := c + 1 }
  let w := match w.relayOf job with
    | some (plan, policy) => { w with sessions := (c, ⟨plan, policy, w.now, none⟩) :: w.sessions }
    | none => w
  match job with
  | .acquire => (w, c, .call c [.manager (.arrive c .acquire)])
  | .close => (w, c, .call c [.manager (.arrive c .close)])
  | .session plan => (w, c, .call c [.arrive c plan.destination])
  | .direct .. =>
    let (w, entry) := w.shake
    if entry.takes = 0 then (w, c, .enter c entry.outcome)
    else (w.wakeAfter entry.takes (.enter c entry.outcome), c, .call c [])

end World

end GatewayTunnel.Simulation
