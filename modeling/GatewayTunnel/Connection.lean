import GatewayTunnel.Login

/-!
# Connecting to a gateway

A connection begins with the exchange of keys, during which the gateway presents its host key. Only a
gateway whose key is trusted gets a login. When the connection fails, or its session ends, the end is
recorded; a connection that works is recorded as a transport.
-/

namespace GatewayTunnel.Connection

open Login (Offer Answer)

inductive KeyExchange where
  | failed (f : SessionFailure)
  /-- A host key is seen, and if it is trusted, the exchange ends as given. -/
  | presented (key : PublicKey) (rest : Except SessionFailure Unit)

namespace KeyExchange

def key? : KeyExchange → Option PublicKey
  | failed _ => none
  | presented key _ => some key

/-- How the exchange ends, given what is said about the host key. It asks about the key before it ends
well, and if the key is refused, it ends with the refusal. -/
def outcome (check : PublicKey → Except TunnelError Unit) : KeyExchange → Except TunnelError Unit
  | failed f => .error f.toError
  | presented key rest => do
    check key
    rest.mapError SessionFailure.toError

end KeyExchange

structure Peer where
  exchange : KeyExchange
  answers : Nat → Answer
  /-- After so many events of the login the session ends, if it does during the login. -/
  endsAfter : Option Nat

inductive Event where
  | reported (e : TrustEvent)
  | logged (e : AuditEvent)
  | offered (o : Offer)
  deriving DecidableEq, Repr

def Event.ofLogin : Login.Event → Event
  | .logged e => logged e
  | .offered o => offered o

def beforeLogin : TunnelError → TunnelError
  | .trust reason => .trust reason
  | e => .auth e.message

def closed (gateway : String) : Event :=
  .logged (.transportClosed gateway false)

/-- The events with the end of the session among them. An end that is not among them comes last if the
connection failed. -/
def withEnd (gateway : String) (p : Peer) (failed : Bool) (events : List Event) : List Event :=
  match p.endsAfter with
  | some n =>
    if n ≤ events.length then events.take n ++ closed gateway :: events.drop n
    else if failed then events ++ [closed gateway] else events
  | none => if failed then events ++ [closed gateway] else events

def login (i : Identity) (gateway : String) (p : Peer) : Except TunnelError Unit × List Event :=
  let (r, events) := Login.run i gateway p.answers
  let events := events.map .ofLogin
  match r with
  | .ok () =>
    let events := events ++ [.logged (.transportEstablished gateway i.username)]
    (.ok (), withEnd gateway p false events)
  | .error e => (.error e, withEnd gateway p true events)

def verdict (i : Identity) (gateway : String) (key : PublicKey) : HostKeyVerifier.Verdict :=
  i.verifier.verify gateway key

def run (i : Identity) (gateway : String) (p : Peer) : Except TunnelError Unit × List Event :=
  let reports := p.exchange.key?.toList.flatMap fun key =>
    (verdict i gateway key).events.map Event.reported
  match p.exchange.outcome fun key => (verdict i gateway key).result with
  | .error e => (.error (beforeLogin e), reports ++ [closed gateway])
  | .ok () =>
    let (r, events) := login i gateway p
    (r, reports ++ events)

/-- What is recorded of an event. The audit log may be the one who observes host keys. -/
def Event.log? (observesKeys : Bool) : Event → Option AuditEvent
  | reported e => if observesKeys then some (.ofTrust e) else none
  | logged e => some e
  | offered _ => none

def Event.report? : Event → Option TrustEvent
  | reported e => some e
  | _ => none

end GatewayTunnel.Connection
