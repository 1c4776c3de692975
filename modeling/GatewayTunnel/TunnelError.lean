import GatewayTunnel.Address
import GatewayTunnel.Backoff
import GatewayTunnel.Config.Error

namespace GatewayTunnel

inductive TunnelError where
  /-- Every attempt to reach the gateway failed. -/
  | connect (endpoint : String) (source : RetryError IoError)
  /-- The handshake or the login failed. -/
  | auth (reason : String)
  | trust (reason : String)
  | channel (destination reason : String)
  | relay (source : IoError)
  | unsupported (network : Network)
  | session (reason : String)
  | config (source : ConfigError)
  deriving DecidableEq, Repr

namespace TunnelError

def message : TunnelError → String
  | connect endpoint source =>
    "failed to connect to destination " ++ endpoint ++ ": " ++ source.message IoError.message
  | auth reason => "failed to establish secure transport: " ++ reason
  | trust reason => "ssh: " ++ reason
  | channel destination reason =>
    "failed to open proxy connection to " ++ destination ++ ": " ++ reason
  | relay source => "connection ends: " ++ source.message
  | unsupported network => "only stream transport supported, got " ++ network.name
  | session reason => "russh error: " ++ reason
  | config source => source.message

def stage : TunnelError → String
  | connect .. => "connect"
  | auth _ | session _ => "authenticate"
  | trust _ => "verify-host"
  | channel .. => "open-channel"
  | relay _ => "relay"
  | unsupported _ => "route"
  | config _ => "config"

def sources : TunnelError → List String
  | connect _ source =>
    source.message IoError.message :: (source.last?.map IoError.message).toList
  | relay source => [source.message]
  | config source => source.sources
  | _ => []

end TunnelError

def Destination.checkStream (d : Destination) : Except TunnelError Unit :=
  if d.network = .tcp then .ok () else .error (.unsupported d.network)

inductive SessionFailure where
  | disconnect
  | hangUp
  | keyExchange
  | notAuthenticated
  | send
  | packetSize (size : Nat)
  | unknownKey
  | earlyEnd
  | refused (cause : String)
  | other (text : String)
  deriving DecidableEq, Repr

namespace SessionFailure

def message : SessionFailure → String
  | disconnect => "Disconnected"
  | hangUp => "Connection closed by the remote side"
  | keyExchange => "Key exchange init failed"
  | notAuthenticated => "Not yet authenticated"
  | send => "Channel send error"
  | packetSize size => "Bad packet size: " ++ Text.Numeral.text size
  | unknownKey => "Unknown server key"
  | earlyEnd => "early eof"
  | refused cause => "Failed to open channel (" ++ cause ++ ")"
  | other text => text

def toError (f : SessionFailure) : TunnelError :=
  .session f.message

end SessionFailure

end GatewayTunnel
