import GatewayTunnel.Audit

namespace GatewayTunnel

structure LogRecord where
  severity : Severity
  target : String
  message : String
  fields : List (String × String)
  deriving DecidableEq, Repr

namespace LogRecord

def program (message : String) : LogRecord :=
  ⟨.info, "sshtun", message, []⟩

def line (r : LogRecord) : String :=
  let fields := r.fields.map fun (name, value) => " " ++ name ++ "=" ++ value
  r.severity.name ++ " " ++ r.target ++ ": " ++ r.message ++ String.join fields

end LogRecord

end GatewayTunnel
