import GatewayTunnel.Forwarding
import GatewayTunnel.Tokens

/-!
# Handing connections over

A forward hands every connection that it accepts to a request of its own, together with a token: a child
of the token that the forward itself was given. Whoever has one of these tokens can cancel it, and can
make children of it.
-/

namespace GatewayTunnel.Handover

open Forwarding (ConnectionId)

structure State where
  forward : Forwarding.State
  tokens : Tokens
  own : TokenId
  /-- The accepted connections in order, with the tokens that their requests were given. -/
  given : List (ConnectionId × TokenId)

inductive Action where
  | forward (a : Forwarding.Action)
  | derive (t : TokenId)
  | cancel (t : TokenId)

namespace State

def start (tokens : Tokens) (own : TokenId) : State :=
  ⟨{ Forwarding.State.init with cancelled := tokens.isCancelled own }, tokens, own, []⟩

def serve (f : LocalForward) (s : State) (a : Forwarding.Action) :
    Option (State × List Forwarding.Event) :=
  (Forwarding.step f s.forward a).map fun (forward, events) => ({ s with forward }, events)

def accept (f : LocalForward) (s : State) (c : ConnectionId) (origin : String) :
    Option (State × List Forwarding.Event) :=
  if c ∈ s.given.map Prod.fst then none
  else ({ s with tokens := s.tokens.child s.own, given := s.given ++ [(c, s.tokens.count)] }).serve f
    (.accept c origin)

def cancel (f : LocalForward) (s : State) (t : TokenId) : Option (State × List Forwarding.Event) :=
  let s := { s with tokens := s.tokens.cancel t }
  if s.tokens.isCancelled s.own && !s.forward.cancelled then s.serve f .cancel else some (s, [])

end State

def step (f : LocalForward) (s : State) : Action → Option (State × List Forwarding.Event)
  | .forward .cancel => none
  | .forward (.accept c origin) => s.accept f c origin
  | .forward a => s.serve f a
  | .derive t => if t < s.tokens.count then some ({ s with tokens := s.tokens.child t }, []) else none
  | .cancel t => if t < s.tokens.count then s.cancel f t else none

def run (f : LocalForward) (s : State) : List Action → Option (State × List Forwarding.Event)
  | [] => some (s, [])
  | a :: rest => do
    let (s, events) ← step f s a
    let (s, more) ← run f s rest
    return (s, events ++ more)

end GatewayTunnel.Handover
