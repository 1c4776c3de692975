import GatewayTunnel.HostKey

namespace GatewayTunnel

inductive Severity where
  | error
  | warn
  | info
  | debug
  deriving DecidableEq, Repr

def Severity.name : Severity → String
  | error => "ERROR"
  | warn => "WARN"
  | info => "INFO"
  | debug => "DEBUG"

inductive AuditEvent where
  | authAttempt (gateway username method : String)
  | authSuccess (gateway username method : String)
  | authFailure (gateway username method reason : String)
  | hostKeyPresented (gateway keyType key : String)
  | hostKeyRejected (gateway keyType key : String)
  | transportEstablished (gateway username : String)
  | transportClosed (gateway : String) (byClient : Bool)
  deriving DecidableEq, Repr

inductive AuditValue where
  | text (s : String)
  | flag (b : Bool)
  deriving DecidableEq, Repr

namespace AuditEvent

def name : AuditEvent → String
  | authAttempt .. => "auth_attempt"
  | authSuccess .. => "auth_success"
  | authFailure .. => "auth_failure"
  | hostKeyPresented .. => "host_key_presented"
  | hostKeyRejected .. => "host_key_rejected"
  | transportEstablished .. => "transport_established"
  | transportClosed .. => "transport_closed"

def severity : AuditEvent → Severity
  | authFailure .. | hostKeyRejected .. => .warn
  | _ => .info

def message : AuditEvent → String
  | authAttempt .. => "SSH authentication attempt"
  | authSuccess .. => "SSH authentication succeeded"
  | authFailure .. => "SSH authentication failed"
  | hostKeyPresented _ keyType key => "ssh: server sent " ++ keyType ++ " " ++ key
  | hostKeyRejected .. => "Host key not in allow-list"
  | transportEstablished .. => "SSH transport established"
  | transportClosed .. => "SSH transport closed"

def fields : AuditEvent → List (String × AuditValue)
  | authAttempt gateway username method | authSuccess gateway username method =>
    [("gateway", .text gateway), ("username", .text username), ("method", .text method)]
  | authFailure gateway username method reason =>
    [("gateway", .text gateway), ("username", .text username), ("method", .text method),
      ("reason", .text reason)]
  | hostKeyPresented gateway keyType key | hostKeyRejected gateway keyType key =>
    [("gateway", .text gateway), ("key_type", .text keyType), ("key", .text key)]
  | transportEstablished gateway username =>
    [("gateway", .text gateway), ("username", .text username)]
  | transportClosed gateway byClient => [("gateway", .text gateway), ("by_client", .flag byClient)]

def ofTrust : TrustEvent → AuditEvent
  | .presented gateway key => hostKeyPresented gateway key.type key.base64
  | .rejected gateway key => hostKeyRejected gateway key.type key.base64

end AuditEvent

end GatewayTunnel
