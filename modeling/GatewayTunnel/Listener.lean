import GatewayTunnel.Address.IpLiteral
import GatewayTunnel.Config.Settings
import GatewayTunnel.IoError
import GatewayTunnel.TunnelError

namespace GatewayTunnel

inductive LocalHost where
  | v4 (text : String)
  /-- Every host, with IPv6. -/
  | any
  | v6 (text : String)
  deriving DecidableEq, Repr

namespace LocalHost

def ofLiteral? (cs : List Char) : Option LocalHost :=
  if IpLiteral.isV4 cs then some (v4 (String.ofList cs))
  else if IpLiteral.isV6 cs then
    some (if cs.all fun c => c == '0' || c == ':' || c == '.' then any else v6 (String.ofList cs))
  else none

def isAny : LocalHost → Bool
  | v4 text => text == "0.0.0.0"
  | any => true
  | v6 _ => false

def isLoopback : LocalHost → Bool
  | v4 text => text.startsWith "127."
  | any => false
  | v6 text => text == "::1"

def render : LocalHost → String
  | v4 text => text
  | any => "::"
  | v6 text => text

end LocalHost

structure LocalAddress where
  host : LocalHost
  port : UInt16
  deriving DecidableEq, Repr

namespace LocalAddress

def render (a : LocalAddress) : String :=
  Address.render ⟨a.host.render, a.port⟩

def noPort : IoError := .described .invalidInput "invalid socket address"

def badPort : IoError := .described .invalidInput "invalid port value"

def notFound (reason : String) : IoError :=
  .described .uncategorized ("failed to lookup address information: " ++ reason)

def lookup (host : List Char) : Except IoError LocalHost :=
  match LocalHost.ofLiteral? host with
  | some h => .ok h
  | none =>
    if host.isEmpty then .error (notFound "Name or service not known")
    else if String.ofList host == "localhost" then .ok (.v4 "127.0.0.1")
    else .error (notFound "Temporary failure in name resolution")

def bracketed? : List Char → Option LocalAddress
  | '[' :: rest =>
    match rest.dropWhile (· != ']') with
    | ']' :: ':' :: port => do
      let digits ← Text.Numeral.value? port
      let host ← LocalHost.ofLiteral? (rest.takeWhile (· != ']'))
      if digits ≤ Address.maxPort ∧ (host = .any ∨ host matches .v6 _) then
        some ⟨host, UInt16.ofNat digits⟩
      else none
    | _ => none
  | _ => none

def read (cs : List Char) : Except IoError LocalAddress :=
  match bracketed? cs with
  | some a => .ok a
  | none =>
    match cs.reverse.dropWhile (· != ':') with
    | ':' :: host =>
      match Text.Numeral.read Address.maxPort (cs.reverse.takeWhile (· != ':')).reverse with
      | some port => (lookup host.reverse).map (⟨·, UInt16.ofNat port⟩)
      | none => .error badPort
    | _ => .error noPort

def clashes (a b : LocalAddress) : Bool :=
  a.port == b.port && (a.host == b.host || a.host.isAny || b.host.isAny)

end LocalAddress

structure Listeners where
  addresses : List LocalAddress
  refusal : Option IoError := none
  deriving DecidableEq, Repr

namespace Listeners

def inUse : IoError := .system 98

def notAvailable : IoError := .system 99

def firstPort : Nat := 32768

def freePort (l : Listeners) : UInt16 :=
  let taken := l.addresses.map fun a => a.port.toNat
  let free := (List.range (taken.length + 1)).find? fun k => !taken.contains (firstPort + k)
  UInt16.ofNat (firstPort + free.getD 0)

/-- Listens on an address. The port 0 stands for a free one. -/
def listen (l : Listeners) (a : LocalAddress) : Except IoError (LocalAddress × Listeners) :=
  match l.refusal, a.host with
  | some e, _ => .error e
  | none, .v6 _ => .error notAvailable
  | none, _ =>
    let a := if a.port = 0 then { a with port := l.freePort } else a
    if l.addresses.any a.clashes then .error inUse
    else .ok (a, { l with addresses := a :: l.addresses })

end Listeners

structure LocalForward where
  address : LocalAddress
  target : Destination
  deriving DecidableEq, Repr

namespace LocalForward

def badTarget (target : String) : IoError :=
  .described .invalidInput ("forward target must be host:port, got '" ++ target ++ "'")

/-- Listens as an entry of the configuration says. The target is looked at first. -/
def bind (l : Listeners) (f : Config.Forward) : Except IoError (LocalForward × Listeners) :=
  match Destination.parseTcp? f.target with
  | none => .error (badTarget f.target)
  | some target => do
    let (address, l) ← l.listen (← LocalAddress.read (Text.trimmed f.listen.toList))
    return (⟨address, target⟩, l)

end LocalForward

end GatewayTunnel
