import GatewayTunnel.IoError
import GatewayTunnel.Validation

namespace GatewayTunnel

inductive ConfigError where
  | unreadable (path : String) (source : IoError)
  | parse
  | invalidPrivateKey (reason : String)
  | invalidPublicKey (line : Nat) (reason : String)
  | validation (e : ValidationError)
  deriving DecidableEq, Repr

namespace ConfigError

/-- The text of a configuration error. What is wrong with a document is not worded. -/
def message : ConfigError → String
  | unreadable path source => "Failed to read config file '" ++ path ++ "': " ++ source.message
  | parse => "Failed to parse config"
  | invalidPrivateKey reason => "invalid private key: " ++ reason
  | invalidPublicKey line reason =>
    "invalid public key on line " ++ Text.Numeral.text line ++ ": " ++ reason
  | validation e => "Invalid config: " ++ e.message

def sources : ConfigError → List String
  | unreadable _ source => [source.message]
  | validation e => [e.message]
  | _ => []

end ConfigError

end GatewayTunnel
