import GatewayTunnel.Config.Value
import GatewayTunnel.Identity
import GatewayTunnel.Policy

namespace GatewayTunnel.Config

structure Outbound where
  address : String
  port : UInt16
  user : String
  password : Option String
  privateKey : Option String
  /-- The keys that the gateway may have, one entry on each line. -/
  publicKey : String
  userLevel : UInt32
  deriving DecidableEq, Repr

namespace Outbound

def defaultPort : UInt16 := 22

def keys : List String :=
  ["address", "port", "user", "password", "private_key", "public_key", "user_level"]

def ofValue? (surplus : Surplus) (v : Value) : Option Outbound := do
  let r ← v.record? surplus keys
  let secret (v : Value) : Option (Option String) := v.text?.map some
  return {
    address := ← r.require 0 Value.text?
    port := ← r.getD 1 (fun v => (v.natural? Address.maxPort).map UInt16.ofNat) defaultPort
    user := ← r.getD 2 Value.text? ""
    password := ← r.getD 3 secret none
    privateKey := ← r.getD 4 secret none
    publicKey := ← r.getD 5 Value.text? ""
    userLevel := ← r.getD 6 (fun v => (v.natural? maxWord32).map UInt32.ofNat) 0 }

def endpoint (o : Outbound) : Address :=
  ⟨Text.trim o.address, o.port⟩

def identity (o : Outbound) : Except ConfigError Identity :=
  Identity.resolve o.user o.password o.privateKey o.publicKey

/-- A password or a private key is given that is not empty. -/
def hasCredentials (o : Outbound) : Bool :=
  [o.password, o.privateKey].any fun secret => secret.any fun s => !s.isEmpty

def validate (o : Outbound) : Except ValidationError Unit := do
  Validation.inField "outbound.address" (Validation.checkHost o.address)
  Validation.inField "outbound.port" (Validation.checkPort o.port)
  Validation.inField "outbound.user" (Validation.checkUser o.user)

def entryCount (o : Outbound) : Nat :=
  (Text.lines o.publicKey.toList).countP fun line => !line.all Text.isBlank

def shown (o : Outbound) : String :=
  let hidden (secret : Option String) : String :=
    Text.shownOption (secret.map fun _ => Text.quoted "[REDACTED]")
  Text.shownRecord "OutboundConfig" [
    ("address", Text.quoted o.address),
    ("port", Text.Numeral.text o.port.toNat),
    ("user", Text.quoted o.user),
    ("password", hidden o.password),
    ("private_key", hidden o.privateKey),
    ("public_key", Text.Numeral.text o.entryCount),
    ("user_level", Text.Numeral.text o.userLevel.toNat)]

end Outbound

structure Transport where
  connectTimeoutSecs : UInt64
  /-- Zero means that silence is never tested. -/
  keepaliveSecs : UInt64
  deriving DecidableEq, Repr

namespace Transport

def standard : Transport := ⟨10, 30⟩

instance : Inhabited Transport := ⟨standard⟩

def keys : List String := ["connect_timeout_secs", "keepalive_interval_secs"]

def ofValue? (surplus : Surplus) (v : Value) : Option Transport := do
  let r ← v.record? surplus keys
  let word (i : Nat) (default : UInt64) : Option UInt64 :=
    r.getD i (fun v => (v.natural? maxWord64).map UInt64.ofNat) default
  return ⟨← word 0 standard.connectTimeoutSecs, ← word 1 standard.keepaliveSecs⟩

end Transport

end GatewayTunnel.Config
