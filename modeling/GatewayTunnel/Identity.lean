import GatewayTunnel.HostKey
import GatewayTunnel.Key.Private

namespace GatewayTunnel

inductive AuthMethod where
  | password (secret : String)
  | publicKey (key : PrivateKey)
  deriving DecidableEq, Repr

namespace AuthMethod

def name : AuthMethod → String
  | password _ => "password"
  | publicKey _ => "publickey"

def isRsa : PublicKey → Bool
  | .rsa .. => true
  | _ => false

def hash? : AuthMethod → Option String
  | password _ => none
  | publicKey key => if isRsa key.publicKey then some "sha512" else none

def signer? : AuthMethod → Option (PrivateKey × Option String)
  | password _ => none
  | publicKey key => some (key, hash? (publicKey key))

def algorithm? : AuthMethod → Option String
  | password _ => none
  | publicKey key =>
    some (if isRsa key.publicKey then "rsa-sha2-512" else key.publicKey.algorithm)

def shown : AuthMethod → String
  | password _ => Text.shownCase "Password" (Text.quoted "[REDACTED]")
  | publicKey _ => Text.shownCase "PublicKey" (Text.quoted "[KEY]")

/-! ## Private keys -/

def publicStarts : List String := ["ssh-", "ecdsa-"]

def hasRun (run : List Char) : List Char → Bool
  | [] => run.isEmpty
  | c :: cs => run.isPrefixOf (c :: cs) || hasRun run cs

def mentions (part text : String) : Bool :=
  hasRun part.toList (text.toList.map Char.toLower)

def isAboutEncryption (message : String) : Bool :=
  ["encrypted", "passphrase", "cryptographic"].any fun part => mentions part message

def keyFault (passphrase : Option String) (e : KeyError) : ConfigError :=
  if isAboutEncryption e.message && passphrase.isNone then
    .invalidPrivateKey ("key is encrypted and no passphrase was given (" ++ e.message ++ ")")
  else .invalidPrivateKey e.message

def ofPrivateKey (text : String) (passphrase : Option String) : Except ConfigError AuthMethod :=
  let start := Text.trimStart text.toList
  if publicStarts.any fun s => s.toList.isPrefixOf start then
    .error (.invalidPrivateKey "value is a PUBLIC key, not a private key")
  else ((PrivateKey.decode (Text.trim text) passphrase).mapError (keyFault passphrase)).map publicKey

end AuthMethod

structure Identity where
  username : String
  methods : List AuthMethod
  verifier : HostKeyVerifier
  deriving DecidableEq, Repr

namespace Identity

def defaultUsername : String := "root"

def ofParts (username : String) (methods : List AuthMethod) (verifier : HostKeyVerifier) :
    Identity :=
  let name := Text.trim username
  ⟨if name.isEmpty then defaultUsername else name, methods, verifier⟩

def methodsOf (password privateKey : Option String) : Except ConfigError (List AuthMethod) :=
  let password := password.filter fun s => !s.isEmpty
  let privateKey := privateKey.filter fun s => !Text.isBlankText s
  match privateKey, password with
  | some key, passphrase => (AuthMethod.ofPrivateKey key passphrase).map ([·])
  | none, some secret => .ok [.password secret]
  | none, none => .ok []

/-- The identity that configured texts stand for. The private key is read before the keys of the
gateway. -/
def resolve (username : String) (password privateKey : Option String) (authorizedKeys : String) :
    Except ConfigError Identity := do
  let methods ← methodsOf password privateKey
  let verifier ← HostKeyVerifier.ofAuthorizedKeys authorizedKeys
  return ofParts username methods verifier

def shown (i : Identity) : String :=
  Text.shownRecord "Identity" [
    ("username", Text.quoted i.username),
    ("methods", Text.shownList (i.methods.map AuthMethod.shown)),
    ("verifier", i.verifier.shown)]

end Identity

end GatewayTunnel
