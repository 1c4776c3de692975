import GatewayTunnel.Bytes.Der
import GatewayTunnel.Crypto.Aes
import GatewayTunnel.Crypto.Ed25519
import GatewayTunnel.Crypto.Md5
import GatewayTunnel.Crypto.Pbkdf2
import GatewayTunnel.Key.Armor
import GatewayTunnel.Key.Container

namespace GatewayTunnel

namespace PrivateKey

/-! ## Names of objects -/

def rsaName : Bytes := [42, 134, 72, 134, 247, 13, 1, 1, 1]

def ed25519Name : Bytes := [43, 101, 112]

def curveKeyName : Bytes := [42, 134, 72, 206, 61, 2, 1]

def curveNames : List (Bytes × Curve) := [
  ([42, 134, 72, 206, 61, 3, 1, 7], .p256),
  ([43, 129, 4, 0, 34], .p384),
  ([43, 129, 4, 0, 35], .p521)]

def passphraseName : Bytes := [42, 134, 72, 134, 247, 13, 1, 5, 13]

def derivationName : Bytes := [42, 134, 72, 134, 247, 13, 1, 5, 12]

def hmacName : Bytes := [42, 134, 72, 134, 247, 13, 2, 9]

def chainedNames : List (Bytes × Nat) := [
  ([96, 134, 72, 1, 101, 3, 4, 1, 2], 16),
  ([96, 134, 72, 1, 101, 3, 4, 1, 22], 24),
  ([96, 134, 72, 1, 101, 3, 4, 1, 42], 32)]

/-! ## Keys in the clear -/

def rsaNumbers : Der.Read PublicKey :=
  Der.sequence do
    let version ← Der.integer
    let n ← Der.integer
    let e ← Der.integer
    for _ in [0, 1, 2, 3, 4, 5] do
      let _ ← Der.integer
    if version = [0] then return .rsa e n else failure

def curveByName : Der.Read Curve := do
  StateT.lift (curveNames.lookup (← Der.objectName))

def curveNumber (known : Option Curve) : Der.Read PublicKey :=
  Der.sequence do
    let version ← Der.integer
    if version ≠ [1] then failure
    let secret ← Der.octets
    let named ← Der.element? 0xa0
    let _ ← Der.element? 0xa1
    let named ← match named with
      | some contents => some <$> StateT.lift (Der.whole curveByName contents)
      | none => pure none
    let curve ← StateT.lift (named.or known)
    let n := secret.toNat
    if secret.length = curve.coordinateSize ∧ curve.params.isSecret n then
      return .ecdsa curve (Crypto.Weierstrass.publicKey curve.params n)
    else failure

def wrappedKey : Der.Read PublicKey :=
  Der.sequence do
    let _ ← Der.integer
    let (name, parameters) ← Der.sequence do
      let name ← Der.objectName
      let parameters ← get
      set ([] : Bytes)
      return (name, parameters)
    let contents ← Der.octets
    set ([] : Bytes)
    if name = rsaName then StateT.lift (Der.whole rsaNumbers contents)
    else if name = ed25519Name then
      let seed ← StateT.lift (Der.whole Der.octets contents)
      if seed.length = 32 then return .ed25519 (Crypto.Ed25519.publicKey seed) else failure
    else if name = curveKeyName then
      let curve ← StateT.lift (Der.whole curveByName parameters)
      StateT.lift (Der.whole (curveNumber (some curve)) contents)
    else failure

/-! ## Encrypted keys -/

def unfill (bs : Bytes) : Option Bytes := do
  let last ← bs.getLast?
  let n := last.toNat
  if n = 0 ∨ 16 < n ∨ bs.length < n then none
  else if (bs.drop (bs.length - n)).all (· == last) then some (bs.take (bs.length - n))
  else none

def derivation : Der.Read (Bytes × Nat) :=
  Der.sequence do
    if (← Der.objectName) ≠ derivationName then failure
    Der.sequence do
      let salt ← Der.octets
      let rounds ← Der.integer
      let _ ← Der.element? 0x02
      let digest ← Der.sequence do
        let name ← Der.objectName
        set ([] : Bytes)
        return name
      if digest = hmacName then return (salt, rounds.toNat) else failure

def chaining : Der.Read (Nat × Bytes) :=
  Der.sequence do
    let size ← StateT.lift (chainedNames.lookup (← Der.objectName))
    return (size, ← Der.octets)

def unwrap (passphrase : Bytes) : Der.Read Bytes :=
  Der.sequence do
    let ((salt, rounds), (size, initial)) ← Der.sequence do
      if (← Der.objectName) ≠ passphraseName then failure
      Der.sequence do return (← derivation, ← chaining)
    let data ← Der.octets
    let key := Crypto.Pbkdf2.derive passphrase salt rounds size
    StateT.lift (unfill (Crypto.Aes.unchain key initial data))

def chainedRsaKey (passphrase initial : Bytes) : Bytes :=
  Crypto.Md5.digest (passphrase ++ initial.take 8)

def unchainRsa (passphrase initial bs : Bytes) : Option Bytes :=
  unfill (Crypto.Aes.unchain (chainedRsaKey passphrase initial) initial bs)

/-! ## All forms -/

def orMalformed (key : Option PublicKey) : Except KeyError PrivateKey :=
  key.elim (.error .malformed) fun k => .ok ⟨k, true⟩

def ofForm (bs : Bytes) : Armor.Form → (passphrase : Option Bytes) → Except KeyError PrivateKey
  | .container, passphrase => Container.decode bs passphrase
  | .rsa, _ => orMalformed (Der.whole rsaNumbers bs)
  | .chainedRsa initial, some passphrase =>
    orMalformed ((unchainRsa passphrase initial bs).bind (Der.whole rsaNumbers))
  | .chainedRsa _, none => .error .encrypted
  | .wrapped, some passphrase =>
    orMalformed ((Der.whole (unwrap passphrase) bs).bind (Der.whole wrappedKey))
  | .wrapped, none => orMalformed (Der.whole wrappedKey bs)
  | .curve, _ => orMalformed (Der.whole (curveNumber none) bs)

def decode (text : String) (passphrase : Option String) : Except KeyError PrivateKey := do
  let (form, bs) ← Armor.read text.toList
  ofForm bs form (passphrase.map Bytes.ofString)

end PrivateKey

end GatewayTunnel
