import GatewayTunnel.Crypto.Aes
import GatewayTunnel.Crypto.Blowfish
import GatewayTunnel.Crypto.Ed25519
import GatewayTunnel.Crypto.Weierstrass
import GatewayTunnel.Key.Public

namespace GatewayTunnel

structure PrivateKey where
  publicKey : PublicKey
  /-- The secret number is one of the group; with any other number signing fails. -/
  canSign : Bool
  deriving DecidableEq, Repr

def Curve.params : Curve → Crypto.Weierstrass.Params
  | p256 => Crypto.Weierstrass.p256
  | p384 => Crypto.Weierstrass.p384
  | p521 => Crypto.Weierstrass.p521

namespace Container

/-! ## Ciphers -/

inductive Mode where
  | chained
  | counter
  | tagged
  deriving DecidableEq, Repr

inductive Cipher where
  | clear
  | aes (mode : Mode) (keySize : Nat)
  /-- A cipher that cannot be undone here, with its block size and the size of its tag. -/
  | other (block tag : Nat)
  deriving DecidableEq, Repr

def ciphers : List (String × Cipher) := [
  ("none", .clear),
  ("aes128-cbc", .aes .chained 16),
  ("aes192-cbc", .aes .chained 24),
  ("aes256-cbc", .aes .chained 32),
  ("aes128-ctr", .aes .counter 16),
  ("aes192-ctr", .aes .counter 24),
  ("aes256-ctr", .aes .counter 32),
  ("aes128-gcm@openssh.com", .aes .tagged 16),
  ("aes256-gcm@openssh.com", .aes .tagged 32),
  ("chacha20-poly1305@openssh.com", .other 8 16),
  ("3des-cbc", .other 8 0)]

namespace Cipher

def blockSize : Cipher → Nat
  | clear => 8
  | aes .. => 16
  | other block _ => block

def tagSize : Cipher → Nat
  | aes .tagged _ => 16
  | other _ tag => tag
  | _ => 0

end Cipher

inductive Derivation where
  | absent
  | blowfish (salt : Bytes) (rounds : Nat)
  deriving DecidableEq, Repr

def readCipher : Wire.Read Cipher := do
  let name ← Wire.readName
  match ciphers.lookup name with
  | some cipher => return cipher
  | none => throw (.label name)

def readWithin {α : Type} (step : Wire.Read α) : Wire.Read α := do
  let (a, rest) ← step.run (← Wire.readString)
  if rest.isEmpty then return a else throw (.trailing rest.length)

def readDerivation : Wire.Read Derivation := do
  let name ← Wire.readName
  match name with
  | "none" =>
    let size ← Wire.readWord
    if Wire.maxLength < size then throw .overflow
    if size = 0 then return .absent else throw .crypto
  | "bcrypt" => readWithin do return .blowfish (← Wire.readString) (← Wire.readWord)
  | _ => throw (.label name)

/-! ## The private section -/

def shortestSecret : Nat := 64

def secretSize (curve : Curve) (length : Nat) : Nat :=
  if curve = .p521 then if length < shortestSecret then 0 else min length curve.coordinateSize
  else curve.coordinateSize

/-- Takes the secret number of a key on a curve. On the largest curve a number may be short, and is
then read as if zero bytes followed it. -/
def readCurveSecret (curve : Curve) : Wire.Read Nat := do
  let bs ← Wire.readString
  let size := secretSize curve bs.length
  if bs.length = curve.coordinateSize + 1 ∧ bs.head? ≠ some 0 then throw .format
  let digits := if bs.length = curve.coordinateSize + 1 then bs.drop 1 else bs
  if digits.length < size then throw .length
  if size < digits.length then throw (.trailing (digits.length - size))
  return Bytes.toNat (digits ++ List.replicate (curve.coordinateSize - size) 0)

def readEd25519 : Wire.Read PublicKey := do
  let key ← Wire.readFixed PublicKey.ed25519Size
  let pair ← Wire.readFixed (2 * PublicKey.ed25519Size)
  let seed := pair.take PublicKey.ed25519Size
  if pair.drop PublicKey.ed25519Size ≠ key ∨ Crypto.Ed25519.publicKey seed ≠ key then
    throw .crypto
  return .ed25519 key

def readHandle : Wire.Read Unit := do
  let _ ← Wire.take 1
  let _ ← Wire.readString
  let _ ← Wire.readString

def readSecret (name : String) : Wire.Read PrivateKey :=
  match name with
  | "ssh-ed25519" => do return ⟨← readEd25519, true⟩
  | "ssh-rsa" | "rsa-sha2-256" | "rsa-sha2-512" => do
    let n ← Wire.readNumber
    let e ← Wire.readNumber
    for _ in [0, 1, 2, 3] do
      let _ ← Wire.readNumber
    return ⟨.rsa e n, true⟩
  | "ssh-dss" => do
    let key ← PublicKey.readFields name
    let _ ← Wire.readNumber
    return ⟨key, true⟩
  | "sk-ssh-ed25519@openssh.com" | "sk-ecdsa-sha2-nistp256@openssh.com" => do
    let key ← PublicKey.readFields name
    readHandle
    return ⟨key, true⟩
  | _ => do
    let key ← PublicKey.readFields name
    match key with
    | .ecdsa curve _ => return ⟨key, curve.params.isSecret (← readCurveSecret curve)⟩
    | _ =>
      let _ ← Wire.readString
      return ⟨key, true⟩

def readSection (key : PublicKey) (blockSize : Nat) : Wire.Read PrivateKey := do
  if (← get).length % blockSize ≠ 0 then throw .length
  let check ← Wire.readWord
  if (← Wire.readWord) ≠ check then throw .crypto
  let name ← Wire.readName
  let secret ← readSecret name
  if secret.publicKey ≠ key then throw .publicKey
  let _ ← Wire.readText
  let padding ← get
  if blockSize ≤ padding.length then throw .length
  if padding ≠ (List.range padding.length).map (fun i => UInt8.ofNat (i + 1)) then throw .format
  set ([] : Bytes)
  return secret

/-! ## Containers -/

structure Sealed where
  key : PublicKey
  cipher : Cipher
  derivation : Derivation
  contents : Bytes
  tag : Bytes

inductive Contents where
  | opened (key : PrivateKey)
  | closed (s : Sealed)

def magic : Bytes :=
  Bytes.ofString "openssh-key-v1" ++ [0]

def read : Wire.Read Contents := do
  if (← Wire.take magic.length) ≠ magic then throw .format
  let cipher ← readCipher
  let derivation ← readDerivation
  let count ← Wire.readWord
  if Wire.maxLength < count then throw .overflow
  if count ≠ 1 then throw .length
  let key ← readWithin PublicKey.read
  if cipher = .clear then
    if derivation ≠ .absent then throw .crypto
    let secret ← readWithin (readSection key cipher.blockSize)
    let rest ← get
    if rest.isEmpty then return .opened secret else throw (.trailing rest.length)
  else
    let contents ← Wire.readString
    if contents.length % cipher.blockSize ≠ 0 then throw .crypto
    let tag ← Wire.take cipher.tagSize
    let rest ← get
    if rest.isEmpty then return .closed ⟨key, cipher, derivation, contents, tag⟩
    else throw (.trailing rest.length)

def Sealed.decrypt (s : Sealed) (passphrase : Bytes) : Except KeyError Bytes := do
  let .aes mode keySize := s.cipher | throw .crypto
  let .blowfish salt rounds := s.derivation | throw .crypto
  let startSize := if mode = .tagged then 12 else 16
  let some secret := Crypto.BlowfishKdf.derive passphrase salt rounds (keySize + startSize)
    | throw .crypto
  let key := secret.take keySize
  let start := secret.drop keySize
  match mode with
  | .chained => return Crypto.Aes.unchain key start s.contents
  | .counter => return Crypto.Aes.counter key start s.contents
  | .tagged =>
    match Crypto.Aes.openTagged key start s.contents s.tag with
    | some bs => return bs
    | none => throw .crypto

/-- The key of a container. A passphrase is used only if it is needed. -/
def decode (bs : Bytes) (passphrase : Option Bytes) : Except KeyError PrivateKey := do
  match (← read.run bs).1 with
  | .opened key => return key
  | .closed s =>
    let some passphrase := passphrase | throw .encrypted
    return (← (readSection s.key s.cipher.blockSize).run (← s.decrypt passphrase)).1

end Container

end GatewayTunnel
