import GatewayTunnel.Address
import GatewayTunnel.Address.IpLiteral

namespace GatewayTunnel

inductive Fault where
  | hostMissing
  | hostTooLong
  | badLabel (label : String)
  | portZero
  | badUser (user : String)
  | notAnAddress (text : String)
  | badLevel (key : String)
  deriving DecidableEq, Repr

def Fault.message : Fault → String
  | hostMissing => "host is required"
  | hostTooLong => "host exceeds maximum length of 253 characters"
  | badLabel label => "invalid host label '" ++ label ++ "'"
  | portZero => "port must be between 1 and 65535"
  | badUser user => "invalid user name '" ++ user ++ "'"
  | notAnAddress text => "expected host:port, got '" ++ text ++ "'"
  | badLevel key => "level '" ++ key ++ "' is not an unsigned integer"

structure ValidationError where
  field : String
  detail : String
  deriving DecidableEq, Repr

namespace ValidationError

def ofFault (field : String) (fault : Fault) : ValidationError :=
  ⟨field, fault.message⟩

def message (e : ValidationError) : String :=
  e.field ++ ": " ++ e.detail

end ValidationError

namespace Validation

/-! ## Hosts -/

def isLabel (cs : List Char) : Bool :=
  1 ≤ cs.length && cs.length ≤ 63 && cs.all (fun c => c.isAlphanum || c == '-') &&
    cs.head? != some '-' && cs.getLast? != some '-'

def labels (host : List Char) : List (List Char) :=
  Text.splitWhere (· == '.') host

def maxHostBytes : Nat := 253

/-- White space around the host does not count. -/
def checkHost (s : String) : Except Fault Unit :=
  let host := Text.trimmed s.toList
  if host.isEmpty then .error .hostMissing
  else if (String.ofList host).utf8ByteSize > maxHostBytes then .error .hostTooLong
  else if IpLiteral.isLiteral host then .ok ()
  else
    match (labels host).find? fun label => !isLabel label with
    | some label => .error (.badLabel (String.ofList label))
    | none => .ok ()

/-! ## Ports and users -/

/-- Port 0 names no service. -/
def checkPort (port : UInt16) : Except Fault Unit :=
  if port = 0 then .error .portZero else .ok ()

def isUserStart (c : Char) : Bool :=
  c.isAlpha || c == '_'

def isUserRest (c : Char) : Bool :=
  c.isAlphanum || c == '_' || c == '.' || c == '-'

def isUserName : List Char → Bool
  | [] => false
  | c :: rest => isUserStart c && rest.length ≤ 31 && rest.all isUserRest

/-- A blank user name is allowed: it stands for the default one. -/
def checkUser (s : String) : Except Fault Unit :=
  let user := Text.trimmed s.toList
  if user.isEmpty || isUserName user then .ok () else .error (.badUser (String.ofList user))

/-! ## Written addresses -/

def checkAddress (s : String) : Except Fault Address := do
  let some address := Address.parse? s | .error (.notAnAddress s)
  checkHost address.host
  checkPort address.port
  return address

def inField {α : Type} (field : String) (check : Except Fault α) : Except ValidationError α :=
  check.mapError (ValidationError.ofFault field)

end Validation

end GatewayTunnel
