import GatewayTunnel.Forwarding
import GatewayTunnel.Request

/-!
# A tunnel with its forwards

All forwards of a tunnel share one gateway. An interrupt cancels them; when each of them has ended, the
transport to the gateway is closed, and the tunnel ends as the closing did.

`Tunnel.step` puts the machines of the forwards and of the requests together. Requests are made by
forwards only, the end of a request is what its connection returns, and the one call that closes the
transport is made when all forwards are done.
-/

namespace GatewayTunnel.Tunnel

open Manager (CallId)

structure Plan where
  gateway : Gateway
  forwards : List LocalForward

inductive Phase where
  | serving
  | stopping
  | closing
  | done (r : Except TunnelError Unit)

structure State where
  requests : Request.State
  forwards : List Forwarding.State
  phase : Phase

inductive Action where
  /-- Something happens to a forward, other than what has an action of its own. -/
  | forward (i : Nat) (a : Forwarding.Action)
  | returned (i : Nat) (c : CallId)
  | request (a : Request.Action)
  | interrupt
  | proceed

inductive Event where
  | forward (i : Nat) (e : Forwarding.Event)
  | request (e : Request.Event)
  | logged (r : LogRecord)
  | ended (r : Except TunnelError Unit)

def closeCall : CallId := 0

def State.start (p : Plan) : State :=
  ⟨.start, p.forwards.map fun _ => .init, .serving⟩

def State.serve (p : Plan) (s : State) (i : Nat) (a : Forwarding.Action) :
    Option (State × List Event) := do
  let forward ← p.forwards[i]?
  let state ← s.forwards[i]?
  let (state, events) ← Forwarding.step forward state a
  return ({ s with forwards := s.forwards.set i state }, events.map (.forward i))

def State.request (p : Plan) (s : State) (a : Request.Action) : Option (State × List Event) := do
  let (requests, events) ← Request.step p.gateway s.requests a
  return ({ s with requests }, events.map .request)

def State.accept (p : Plan) (s : State) (i : Nat) (c : CallId) (origin : String) :
    Option (State × List Event) := do
  let forward ← p.forwards[i]?
  if c = closeCall then none
  let (s, events) ← s.serve p i (.accept c origin)
  let (s, more) ← s.request p (.arrive c forward.target)
  return (s, events ++ more)

def isInner : Request.Action → Bool
  | .arrive .. | .manager (.arrive ..) => false
  | _ => true

def State.cancel (s : State) : State :=
  { s with forwards := s.forwards.map fun state => { state with cancelled := true } }

def step (p : Plan) (s : State) : Action → Option (State × List Event)
  | .forward i a =>
    match a with
    | .accept c origin => s.accept p i c origin
    -- Forwards are cancelled together, and their connections return with the requests.
    | .cancel | .returned .. => none
    | a => s.serve p i a
  | .returned i c =>
    match s.requests.requests c with
    | .done r => s.serve p i (.returned c r)
    | _ => none
  | .request a => if isInner a then s.request p a else none
  | .interrupt =>
    match s.phase with
    | .serving => some ({ s.cancel with phase := .stopping }, [.logged (.program "Shutting down")])
    | _ => none
  | .proceed =>
    match s.phase with
    | .stopping =>
      if s.forwards.all (·.phase == .done) then
        ({ s with phase := .closing }).request p (.manager (.arrive closeCall .close))
      else none
    | .closing =>
      match s.requests.manager.calls closeCall with
      | .done (.closed r) => some ({ s with phase := .done r }, [.ended r])
      | _ => none
    | _ => none

def run (p : Plan) (s : State) : List Action → Option (State × List Event)
  | [] => some (s, [])
  | a :: rest => do
    let (s, events) ← step p s a
    let (s, more) ← run p s rest
    return (s, events ++ more)

def Event.record? : Event → Option LogRecord
  | .forward _ (.logged r) => some r
  | .logged r => some r
  | _ => none

end GatewayTunnel.Tunnel
