import GatewayTunnel.Config.Value
import GatewayTunnel.Text.Blank
import GatewayTunnel.Text.Numeral

namespace GatewayTunnel

inductive Network where
  | tcp
  | udp
  deriving DecidableEq, Repr, Inhabited

namespace Network

def name : Network → String
  | tcp => "tcp"
  | udp => "udp"

def ofName? (s : String) : Option Network :=
  [tcp, udp].find? fun network => network.name = s

/-- A network is written as its name, or as a table with that one key and no value. -/
def ofValue? : Config.Value → Option Network
  | .text s => ofName? s
  | .table [(key, .null)] => ofName? key
  | _ => none

theorem ofName?_name (network : Network) : ofName? network.name = some network := by
  cases network <;> decide

end Network

structure Address where
  host : String
  port : UInt16
  deriving DecidableEq, Repr

namespace Address

def split? : List Char → Option (List Char × List Char)
  | '[' :: rest =>
    match rest.dropWhile (· != ']') with
    | ']' :: ':' :: port => some (rest.takeWhile (· != ']'), port)
    | _ => none
  | cs =>
    match cs.reverse.dropWhile (· != ':') with
    | ':' :: host => some (host.reverse, (cs.reverse.takeWhile (· != ':')).reverse)
    | _ => none

def maxPort : Nat := 65535

/-- Reads a written address. White space around it does not count, and the host is not empty. -/
def parse? (s : String) : Option Address :=
  match split? (Text.trimmed s.toList) with
  | none => none
  | some (host, port) =>
    if host.isEmpty then none
    else (Text.Numeral.read maxPort port).map fun n => ⟨String.ofList host, UInt16.ofNat n⟩

def renderChars (a : Address) : List Char :=
  let host := a.host.toList
  (if host.contains ':' then '[' :: host ++ [']'] else host) ++
    ':' :: Text.Numeral.digits a.port.toNat

def render (a : Address) : String :=
  String.ofList a.renderChars

end Address

structure Destination where
  network : Network
  address : Address
  deriving DecidableEq, Repr

namespace Destination

def tcp (host : String) (port : UInt16) : Destination :=
  ⟨.tcp, ⟨host, port⟩⟩

def udp (host : String) (port : UInt16) : Destination :=
  ⟨.udp, ⟨host, port⟩⟩

def parseTcp? (s : String) : Option Destination :=
  (Address.parse? s).map (⟨.tcp, ·⟩)

/-- The written form leaves the network out. -/
def render (d : Destination) : String :=
  d.address.render

end Destination

end GatewayTunnel
