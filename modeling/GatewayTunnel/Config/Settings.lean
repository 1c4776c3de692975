import GatewayTunnel.Config.Error
import GatewayTunnel.Config.Outbound
import GatewayTunnel.Toml.Document

namespace GatewayTunnel.Config

structure Forward where
  listen : String
  target : String
  deriving DecidableEq, Repr

namespace Forward

def ofValue? (surplus : Surplus) (v : Value) : Option Forward := do
  let r ← v.record? surplus ["listen", "target"]
  return ⟨← r.require 0 Value.text?, ← r.require 1 Value.text?⟩

def validate (f : Forward) : Except ValidationError Unit := do
  let _ ← Validation.inField "forward.listen" (Validation.checkAddress f.listen)
  let _ ← Validation.inField "forward.target" (Validation.checkAddress f.target)

end Forward

structure Settings where
  outbound : Outbound
  transport : Transport
  policy : PolicyTable
  forwards : List Forward
  deriving DecidableEq, Repr

namespace Settings

def keys : List String := ["outbound", "transport", "policy", "forward"]

def ofValue? (v : Value) : Option Settings := do
  let r ← v.record? .ignored keys
  let forwards (v : Value) : Option (List Forward) :=
    v.items?.bind fun items => items.mapM (Forward.ofValue? .ignored)
  return {
    outbound := ← r.require 0 (Outbound.ofValue? .ignored)
    transport := ← r.getD 1 (Transport.ofValue? .ignored) default
    policy := ← r.getD 2 (PolicyTable.ofValue? .ignored) default
    forwards := ← r.getD 3 forwards [] }

def checkLevels (policy : PolicyTable) : Except ValidationError Unit :=
  match policy.invalidLevels with
  | [] => .ok ()
  | key :: _ => Validation.inField "policy.levels" (.error (.badLevel key))

def validate (s : Settings) : Except ValidationError Unit := do
  s.outbound.validate
  checkLevels s.policy
  s.forwards.forM Forward.validate

def parse (text : String) : Except ConfigError Settings := do
  match (Toml.read? text).bind ofValue? with
  | none => throw .parse
  | some s =>
    s.validate.mapError .validation
    return s

def notText : IoError :=
  .described .invalidData "stream did not contain valid UTF-8"

def textOfFile (contents : Except IoError Bytes) : Except IoError String := do
  match Bytes.toString? (← contents) with
  | some text => return text
  | none => throw notText

def load (path : String) (contents : Except IoError Bytes) : Except ConfigError Settings := do
  parse (← (textOfFile contents).mapError (.unreadable path))

end Settings

end GatewayTunnel.Config
