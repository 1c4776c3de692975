import GatewayTunnel.Gateway

/-!
# The shared transport

All requests share one transport to the gateway. It is made when it is first needed, watched for the
rest of its life, and made anew after it has ended or was closed.

The manager is a machine of atomic steps, so that calls can be interleaved in any order. Each call is
at a place in its code, its `Phase`; `Action.proceed` lets one call take its next step, and the other
actions are what the surroundings do: calls arrive, pauses end, the gateway answers or hangs up, and
watchers look. `step` says which actions are possible, what they change and which events they show.

* The creation lock goes to the calls in the order in which they asked for it. The call that gives it
  back hands it to the next one.
* An acquire first looks at the slot without the lock. Under the lock it looks again, removes a dead
  transport, dials with a backoff of its own, shakes hands, publishes the transport and starts its
  watcher.
* A close takes the transport out of the slot under the lock, and closes it without the lock.
-/

namespace GatewayTunnel.Manager

abbrev CallId := Nat

abbrev TransportId := Nat

inductive Goal where
  | acquire
  | close
  deriving DecidableEq, Repr

inductive Reply where
  | acquired (t : TransportId)
  | failed (e : TunnelError)
  | closed (r : Except TunnelError Unit)

abbrev Attempts := Backoff.Progress IoError

inductive Phase where
  /-- The call has not been made. -/
  | absent
  /-- An acquire, before its first look at the slot. -/
  | entered
  /-- Before asking for the lock. -/
  | asking (goal : Goal)
  /-- In the queue for the lock. -/
  | waiting (goal : Goal)
  /-- With the lock, before the look at the slot. -/
  | locked (goal : Goal)
  /-- Before the next dial. -/
  | ready (p : Attempts)
  | dialing (p : Attempts)
  | pausing (d : Duration) (p : Attempts)
  /-- Before the handshake. -/
  | dialed
  | shaking
  /-- With a new transport that is not yet in the slot. -/
  | publishing (t : TransportId)
  /-- With the transport in the slot, before its watcher is started. -/
  | watching (t : TransportId)
  /-- With the reply of an acquire, before giving the lock back. -/
  | leaving (r : Reply)
  /-- With what a close took out of the slot, before giving the lock back. -/
  | taken (t : Option TransportId)
  /-- Before closing a transport. -/
  | toClose (t : TransportId)
  | closing (t : TransportId)
  | done (r : Reply)

def Phase.goal : Phase → Goal
  | waiting goal => goal
  | _ => .acquire

inductive Watch where
  | unwatched
  | running
  | finished
  deriving DecidableEq, Repr

structure Transport where
  ended : Bool
  watch : Watch
  deriving DecidableEq, Repr

structure State where
  slot : Option TransportId
  holder : Option CallId
  queue : List CallId
  calls : CallId → Phase
  transports : List Transport

inductive Action where
  | arrive (c : CallId) (goal : Goal)
  | proceed (c : CallId)
  | dialEnded (c : CallId) (r : Except IoError Unit)
  | pauseEnded (c : CallId)
  | shakeEnded (c : CallId) (r : Except TunnelError Unit)
  | closeEnded (c : CallId) (r : Except TunnelError Unit)
  | die (t : TransportId)
  | notice (t : TransportId)

inductive Event where
  | dialStarted (c : CallId) (attempt : Nat)
  | pauseStarted (c : CallId) (d : Duration)
  | shakeStarted (c : CallId)
  | created (c : CallId) (t : TransportId)
  | published (c : CallId) (t : TransportId)
  | watched (c : CallId) (t : TransportId)
  | evicted (c : CallId) (t : TransportId)
  | took (c : CallId) (t : TransportId)
  | closeStarted (c : CallId) (t : TransportId)
  | ended (t : TransportId)
  | cleared (t : TransportId)
  | handed (c : CallId)
  | returned (c : CallId) (r : Reply)

namespace State

def start : State := ⟨none, none, [], fun _ => .absent, []⟩

instance : Inhabited State := ⟨start⟩

def move (s : State) (c : CallId) (phase : Phase) : State :=
  { s with calls := fun c' => if c' = c then phase else s.calls c' }

def hasEnded (s : State) (t : TransportId) : Bool :=
  s.transports[t]?.any (·.ended)

def live? (s : State) : Option TransportId :=
  s.slot.filter fun t => !s.hasEnded t

def change (s : State) (t : TransportId) (f : Transport → Transport) : State :=
  { s with transports := s.transports.modify t f }

def release (s : State) (c : CallId) (phase : Phase) : State × List Event :=
  let s := s.move c phase
  match s.queue with
  | [] => ({ s with holder := none }, [])
  | next :: rest =>
    ({ s with holder := some next, queue := rest }.move next (.locked (s.calls next).goal),
      [.handed next])

end State

def State.ask (s : State) (c : CallId) (goal : Goal) : State :=
  if s.holder.isNone && s.queue.isEmpty then
    { s with holder := some c }.move c (.locked goal)
  else { s with queue := s.queue ++ [c] }.move c (.waiting goal)

/-- The call with the lock looks at the slot: a live transport is its reply, and a dead one is
removed. -/
def State.recheck (s : State) (c : CallId) : State × List Event :=
  match s.live? with
  | some t => (s.move c (.leaving (.acquired t)), [])
  | none =>
    ({ s with slot := none }.move c (.ready .start),
      s.slot.toList.map (Event.evicted c))

def State.proceed (s : State) (c : CallId) : Option (State × List Event) :=
  match s.calls c with
  | .entered =>
    match s.live? with
    | some t => some (s.move c (.done (.acquired t)), [.returned c (.acquired t)])
    | none => some (s.move c (.asking .acquire), [])
  | .asking goal => some (s.ask c goal, [])
  | .locked .acquire => some (s.recheck c)
  | .locked .close =>
    some ({ s with slot := none }.move c (.taken s.slot), s.slot.toList.map (Event.took c))
  | .ready p => some (s.move c (.dialing p), [.dialStarted c p.attempt])
  | .dialed => some (s.move c .shaking, [.shakeStarted c])
  | .publishing t => some ({ s with slot := some t }.move c (.watching t), [.published c t])
  | .watching t =>
    some ((s.change t fun transport => { transport with watch := .running }).move c
      (.leaving (.acquired t)), [.watched c t])
  | .leaving r =>
    let (s, events) := s.release c (.done r)
    some (s, events ++ [.returned c r])
  | .taken none =>
    let (s, events) := s.release c (.done (.closed (.ok ())))
    some (s, events ++ [.returned c (.closed (.ok ()))])
  | .taken (some t) => some (s.release c (.toClose t))
  | .toClose t => some (s.move c (.closing t), [.closeStarted c t])
  | _ => none

def State.afterDial (g : Gateway) (s : State) (c : CallId) (p : Attempts) (e : IoError) :
    State × List Event :=
  match p.fail g.backoff IoError.message e with
  | .ok (pause, next) => (s.move c (.pausing pause next), [.pauseStarted c pause])
  | .error spent => (s.move c (.leaving (.failed (.connect g.endpoint.render spent))), [])

def step (g : Gateway) (s : State) : Action → Option (State × List Event)
  | .arrive c goal =>
    match s.calls c, goal with
    | .absent, .acquire => some (s.move c .entered, [])
    | .absent, .close => some (s.move c (.asking .close), [])
    | _, _ => none
  | .proceed c => s.proceed c
  | .dialEnded c r =>
    match s.calls c, r with
    | .dialing _, .ok () => some (s.move c .dialed, [])
    | .dialing p, .error e => some (s.afterDial g c p e)
    | _, _ => none
  | .pauseEnded c =>
    match s.calls c with
    | .pausing _ p => some (s.move c (.ready p), [])
    | _ => none
  | .shakeEnded c r =>
    match s.calls c, r with
    | .shaking, .ok () =>
      let t := s.transports.length
      let s := { s with transports := s.transports ++ [Transport.mk false .unwatched] }
      some (s.move c (.publishing t), [.created c t])
    | .shaking, .error e => some (s.move c (.leaving (.failed e)), [])
    | _, _ => none
  | .closeEnded c r =>
    match s.calls c with
    | .closing _ => some (s.move c (.done (.closed r)), [.returned c (.closed r)])
    | _ => none
  | .die t =>
    if t < s.transports.length then
      some (s.change t fun transport => { transport with ended := true }, [.ended t])
    else none
  | .notice t =>
    match s.transports[t]? with
    | some ⟨true, .running⟩ =>
      let s := s.change t fun transport => { transport with watch := .finished }
      if s.slot = some t then some ({ s with slot := none }, [.cleared t]) else some (s, [])
    | _ => none

def run (g : Gateway) (s : State) : List Action → Option (State × List Event)
  | [] => some (s, [])
  | a :: rest => do
    let (s, events) ← step g s a
    let (s, more) ← run g s rest
    return (s, events ++ more)

end GatewayTunnel.Manager
