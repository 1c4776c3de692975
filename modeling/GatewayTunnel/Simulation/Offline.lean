import GatewayTunnel.Dialer
import GatewayTunnel.Listener

namespace GatewayTunnel.Simulation

def unreachable : IoError := .system 101

def offline (endpoint : Address) : Option (Except IoError Unit) :=
  match LocalAddress.lookup endpoint.host.toList with
  | .ok _ => some (.error unreachable)
  | .error e => some (.error e)

end GatewayTunnel.Simulation
