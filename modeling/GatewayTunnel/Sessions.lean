import GatewayTunnel.Relay
import GatewayTunnel.Tokens
import GatewayTunnel.Transport

/-!
# Sessions over one transport

Any number of sessions go over one transport at the same time. Each has the token of its caller, which it
may share with others, and a token of its own, a child of that, from the opening of its channel. Its timer
cancels the session's own token; the session looks at both.

`Sessions.step` is one event at a time in milliseconds. What happens to a session goes through all tokens:
whatever is cancelled by it, every session whose caller is concerned hears of it.
-/

namespace GatewayTunnel

def Relay.copies? : Relay → Option Copies
  | opening => none
  | copying c => some c
  | ended _ _ c => c

namespace Sessions

structure Session where
  policy : SessionPolicy
  caller : TokenId
  token : Option TokenId
  relay : Relay.State

structure State where
  tokens : Tokens
  transport : Transport.State
  sessions : List Session

inductive Action where
  | begin (p : SessionPolicy) (d : Destination) (caller : TokenId)
  | session (i : Nat) (e : Relay.Event)
  | derive (t : TokenId)
  | cancel (t : TokenId)
  | transport (a : Transport.Action)

namespace Session

def hear (now : Nat) (before after : Tokens) (x : Session) : Option Session :=
  if after.isCancelled x.caller && !before.isCancelled x.caller then
    (Relay.step x.policy x.relay now .cancel).map fun relay => { x with relay }
  else some x

/-- The session with its relay as it has become, and the tokens. Its own token is made when there is a
channel, and cancelled when the timer has ended. -/
def become (x : Session) (relay : Relay.State) (tokens : Tokens) : Session × Tokens :=
  match relay.relay.copies? with
  | none => ({ x with relay }, tokens)
  | some c =>
    let t := x.token.getD tokens.count
    let tokens := if x.token.isSome then tokens else tokens.child x.caller
    ({ x with relay, token := some t }, if c.timer.isExpired then tokens.cancel t else tokens)

end Session

namespace State

def start (gateway : String) : State :=
  ⟨.lone, .start gateway, []⟩

/-- The token was made, and it is not a session's own. -/
def isFree (s : State) (t : TokenId) : Bool :=
  decide (t < s.tokens.count) && s.sessions.all fun x => decide (x.token ≠ some t)

def change (now : Nat) (s : State) (tokens : Tokens) : Option State :=
  (s.sessions.mapM (Session.hear now s.tokens tokens)).map fun sessions =>
    { s with tokens, sessions }

def move (now : Nat) (s : State) (i : Nat) (e : Relay.Event) : Option State := do
  let x ← s.sessions[i]?
  let relay ← Relay.step x.policy x.relay now e
  let (x, tokens) := x.become relay s.tokens
  { s with sessions := s.sessions.set i x }.change now tokens

end State

def step (s : State) : Nat × Action → Option (State × List Transport.Event)
  | (now, .begin p d caller) =>
    if s.isFree caller then
      let relay := Relay.State.start now d (s.tokens.isCancelled caller)
      some ({ s with sessions := s.sessions ++ [⟨p, caller, none, relay⟩] }, [])
    else none
  -- A session hears that its caller gives up from the tokens, and only from them.
  | (_, .session _ .cancel) => none
  | (now, .session i e) => (s.move now i e).map (·, [])
  | (now, .derive t) => if s.isFree t then (s.change now (s.tokens.child t)).map (·, []) else none
  | (now, .cancel t) => if s.isFree t then (s.change now (s.tokens.cancel t)).map (·, []) else none
  | (_, .transport a) =>
    (Transport.step s.transport a).map fun (transport, events) => ({ s with transport }, events)

def run (s : State) : List (Nat × Action) → Option (State × List Transport.Event)
  | [] => some (s, [])
  | a :: rest => do
    let (s, events) ← step s a
    let (s, more) ← run s rest
    return (s, events ++ more)

end Sessions

end GatewayTunnel
