import GatewayTunnel.Address
import GatewayTunnel.Duration
import GatewayTunnel.IoError

namespace GatewayTunnel

structure Dialer where
  timeout : Duration
  deriving DecidableEq, Repr

namespace Dialer

def standard : Dialer := ⟨.ofMillis 10000⟩

instance : Inhabited Dialer := ⟨standard⟩

def timedOut (endpoint : Address) : IoError :=
  .described .timedOut ("timeout connecting to " ++ endpoint.render)

def result (_ : Dialer) (endpoint : Address) (answer : Option (Except IoError Unit)) :
    Except IoError Unit :=
  answer.getD (.error (timedOut endpoint))

end Dialer

end GatewayTunnel
