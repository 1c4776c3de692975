import GatewayTunnel.Backoff
import GatewayTunnel.Config.Settings

namespace GatewayTunnel

structure Gateway where
  endpoint : Address
  backoff : Backoff
  policy : SessionPolicy
  deriving DecidableEq, Repr

def Address.shown (a : Address) : String :=
  Text.shownRecord "GatewayEndpoint" [
    ("host", Text.quoted a.host), ("port", Text.Numeral.text a.port.toNat)]

def Backoff.shown (b : Backoff) : String :=
  Text.shownRecord "Backoff" [
    ("base_delay", b.baseDelay.render), ("max_attempts", Text.Numeral.text b.maxAttempts)]

def SessionPolicy.shown (p : SessionPolicy) : String :=
  Text.shownRecord "SessionPolicy" [
    ("connection_idle", p.connectionIdle.render), ("uplink_only", p.uplinkOnly.render),
    ("downlink_only", p.downlinkOnly.render)]

def Gateway.shown (g : Gateway) (connected : Bool) : String :=
  let manager := Text.shownRecord "TransportManager" [
    ("endpoint", g.endpoint.shown), ("backoff", g.backoff.shown),
    ("connected", Text.shownBool connected)]
  Text.shownRecord "Outbound" [("manager", manager), ("policy", g.policy.shown)]

structure Outbound where
  gateway : Gateway
  identity : Identity
  transport : Config.Transport
  deriving DecidableEq, Repr

namespace Outbound

def ofConfig (o : Config.Outbound) (transport : Config.Transport) (policies : Policies) :
    Except ConfigError Outbound := do
  o.validate.mapError .validation
  let identity ← o.identity
  return ⟨⟨o.endpoint, .standard, policies.forLevel o.userLevel⟩, identity, transport⟩

def ofSettings (s : Config.Settings) : Except ConfigError Outbound :=
  ofConfig s.outbound s.transport (.ofTable s.policy)

def warnings (o : Outbound) : List String :=
  let endpoint := o.gateway.endpoint.render
  (if o.identity.methods.isEmpty then
    ["No password or private key configured for " ++ endpoint ++
      "; only 'none' authentication will be tried"]
   else []) ++
  (if o.identity.verifier.isPinned then []
   else ["No host key allow-list for " ++ endpoint ++ "; any gateway key will be accepted"])

end Outbound

end GatewayTunnel
