import GatewayTunnel.Request
import GatewayTunnel.Simulation.Session

namespace GatewayTunnel.Simulation

structure Scripted (α : Type) where
  takes : Nat
  outcome : α

inductive Handshake where
  | works
  | dead
  | fails (e : TunnelError)

def Handshake.result : Handshake → Except TunnelError Unit
  | works | dead => .ok ()
  | fails e => .error e

def Handshake.isDead : Handshake → Bool
  | dead => true
  | _ => false

/-- What the gateway does with the successive calls of each kind. Past the end of a list everything
works at once. -/
structure GatewayScript where
  dials : List (Scripted (Except IoError Unit))
  handshakes : List (Scripted Handshake)
  opens : List (Scripted (Option String))
  closes : List (Scripted (Except TunnelError Unit))

def GatewayScript.size (s : GatewayScript) : Nat :=
  s.dials.length + s.handshakes.length + s.opens.length + s.closes.length

def nextOf {α : Type} (default : α) : List (Scripted α) → Scripted α × List (Scripted α)
  | [] => (⟨0, default⟩, [])
  | entry :: rest => (entry, rest)

structure SessionPlan where
  destination : Destination
  caller : End
  remote : End
  echo : Bool
  cancelAt : Option Nat

inductive Job where
  | acquire
  | close
  | session (plan : SessionPlan)
  | direct (plan : SessionPlan) (policy : SessionPolicy)

structure SessionReport where
  result : Except TunnelError Unit
  endedAt : Nat
  caller : Sink
  remote : Sink

inductive Report where
  | acquired (r : Except TunnelError Manager.TransportId)
  | closed (r : Except TunnelError Unit)
  | session (r : SessionReport)

end GatewayTunnel.Simulation
