import GatewayTunnel.Key.Authorized
import GatewayTunnel.Text.Shown
import GatewayTunnel.TunnelError

namespace GatewayTunnel

structure HostKeyInfo where
  type : String
  base64 : String
  fingerprint : String
  deriving DecidableEq, Repr

def HostKeyInfo.ofKey (k : PublicKey) : HostKeyInfo :=
  ⟨k.algorithm, k.base64, k.fingerprint⟩

inductive TrustEvent where
  | presented (gateway : String) (key : HostKeyInfo)
  | rejected (gateway : String) (key : HostKeyInfo)
  deriving DecidableEq, Repr

structure HostKeyVerifier where
  allowed : List PublicKey
  deriving DecidableEq, Repr

namespace HostKeyVerifier

def acceptAny : HostKeyVerifier := ⟨[]⟩

def ofAuthorizedKeys (text : String) : Except ConfigError HostKeyVerifier :=
  (AuthorizedKeys.parse text).map (⟨·⟩)

def isPinned (v : HostKeyVerifier) : Bool :=
  !v.allowed.isEmpty

def allows (v : HostKeyVerifier) (key : PublicKey) : Bool :=
  v.allowed.any fun k => k.encode == key.encode

structure Verdict where
  result : Except TunnelError Unit
  events : List TrustEvent

def mismatch (key : PublicKey) : TunnelError :=
  .trust ("host key mismatch, server sent " ++ key.algorithm ++ " " ++ key.base64)

def verify (v : HostKeyVerifier) (gateway : String) (key : PublicKey) : Verdict :=
  if !v.isPinned then ⟨.ok (), [.presented gateway (.ofKey key)]⟩
  else if v.allows key then ⟨.ok (), []⟩
  else ⟨.error (mismatch key), [.rejected gateway (.ofKey key)]⟩

/-- The types of the allowed keys; the keys themselves are not shown. -/
def shown (v : HostKeyVerifier) : String :=
  Text.shownRecord "HostKeyVerifier" [
    ("allowed", Text.shownList (v.allowed.map fun k => Text.quoted k.algorithm)),
    ("observer", Text.quoted "<observer>")]

end HostKeyVerifier

end GatewayTunnel
