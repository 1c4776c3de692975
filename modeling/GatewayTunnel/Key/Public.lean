import GatewayTunnel.Bytes.Wire
import GatewayTunnel.Crypto.Sha256

namespace GatewayTunnel

inductive Curve where
  | p256
  | p384
  | p521
  deriving DecidableEq, Repr

namespace Curve

def all : List Curve := [p256, p384, p521]

def name : Curve → String
  | p256 => "nistp256"
  | p384 => "nistp384"
  | p521 => "nistp521"

def algorithm (c : Curve) : String :=
  "ecdsa-sha2-" ++ c.name

def coordinateSize : Curve → Nat
  | p256 => 32
  | p384 => 48
  | p521 => 66

def ofCoordinateSize? (n : Nat) : Option Curve :=
  all.find? fun c => c.coordinateSize == n

def read : Wire.Read Curve := do
  let name ← Wire.readName
  match all.find? fun c => c.name == name with
  | some c => return c
  | none => throw (.label name)

/-- The form of a point is known from its first byte: its length for coordinates of a given size. -/
def pointLength? (coordinate : Nat) : UInt8 → Option Nat
  | 0 => some 1
  | 2 | 3 | 5 => some (1 + coordinate)
  | 4 => some (1 + 2 * coordinate)
  | _ => none

def checkPoint (coordinate : Nat) (point : Bytes) : Except KeyError Unit :=
  match point with
  | [] => .error .point
  | tag :: _ =>
    if pointLength? coordinate tag = some point.length then .ok () else .error .point

def ofPoint (point : Bytes) : Except KeyError Curve :=
  match point with
  | [] => .error .length
  | tag :: rest => do
    let size ← match tag with
      | 2 | 3 => Except.ok rest.length
      | 4 => .ok (rest.length / 2)
      | 0 | 5 => .error .unknownAlgorithm
      | _ => .error .point
    match ofCoordinateSize? size with
    | some c => do checkPoint size point; return c
    | none => .error .length

def maxPointLength : Nat := 133

def readPoint : Wire.Read (Curve × Bytes) := do
  let c ← read
  let point ← Wire.readStringUpTo maxPointLength
  let on ← ofPoint point
  if on = c then return (c, point) else throw .unknownAlgorithm

end Curve

inductive PublicKey where
  | ed25519 (key : Bytes)
  | rsa (e n : Bytes)
  | dsa (p q g y : Bytes)
  | ecdsa (curve : Curve) (point : Bytes)
  | securityEd25519 (key : Bytes) (application : String)
  | securityEcdsa (point : Bytes) (application : String)
  | foreign (name : String) (data : Bytes)
  deriving DecidableEq, Repr

namespace PublicKey

def algorithm : PublicKey → String
  | ed25519 _ => "ssh-ed25519"
  | rsa .. => "ssh-rsa"
  | dsa .. => "ssh-dss"
  | ecdsa curve _ => curve.algorithm
  | securityEd25519 .. => "sk-ssh-ed25519@openssh.com"
  | securityEcdsa .. => "sk-ecdsa-sha2-nistp256@openssh.com"
  | foreign name _ => name

def fields : PublicKey → Bytes
  | ed25519 key => Wire.string key
  | rsa e n => Wire.string e ++ Wire.string n
  | dsa p q g y => Wire.string p ++ Wire.string q ++ Wire.string g ++ Wire.string y
  | ecdsa curve point => Wire.text curve.name ++ Wire.string point
  | securityEd25519 key application => Wire.string key ++ Wire.text application
  | securityEcdsa point application =>
    Wire.text Curve.p256.name ++ Wire.string point ++ Wire.text application
  | foreign _ data => Wire.string data

def encode (k : PublicKey) : Bytes :=
  Wire.text k.algorithm ++ k.fields

/-! ## Reading -/

def ed25519Size : Nat := 32

def maxForeignName : Nat := 64

def isForeignName (s : String) : Bool :=
  let cs := s.toList
  let before := cs.takeWhile (· != '@')
  let after := (cs.dropWhile (· != '@')).drop 1
  cs.all (fun c => c.toNat < 128) && cs.length ≤ maxForeignName && !before.isEmpty &&
    !after.isEmpty && !after.contains '@'

def readEcdsa (curve : Curve) : Wire.Read PublicKey := do
  let (on, point) ← Curve.readPoint
  if on = curve then return ecdsa curve point else throw .unknownAlgorithm

def readFields (name : String) : Wire.Read PublicKey :=
  match name with
  | "ssh-ed25519" => return ed25519 (← Wire.readFixed ed25519Size)
  | "ssh-rsa" | "rsa-sha2-256" | "rsa-sha2-512" =>
    return rsa (← Wire.readNumber) (← Wire.readNumber)
  | "ssh-dss" =>
    return dsa (← Wire.readNumber) (← Wire.readNumber) (← Wire.readNumber) (← Wire.readNumber)
  | "ecdsa-sha2-nistp256" => readEcdsa .p256
  | "ecdsa-sha2-nistp384" => readEcdsa .p384
  | "ecdsa-sha2-nistp521" => readEcdsa .p521
  | "sk-ssh-ed25519@openssh.com" =>
    return securityEd25519 (← Wire.readFixed ed25519Size) (← Wire.readText)
  | "sk-ecdsa-sha2-nistp256@openssh.com" => do
    if (← Curve.read) ≠ .p256 then throw .crypto
    let point ← Wire.readStringUpTo 65
    Curve.checkPoint Curve.p256.coordinateSize point
    return securityEcdsa point (← Wire.readText)
  | _ =>
    if isForeignName name then return foreign name (← Wire.readString) else throw (.label name)

def read : Wire.Read PublicKey := do
  readFields (← Wire.readName)

/-- The key at the front of a run; bytes left over do not count. -/
def decode (bs : Bytes) : Except KeyError PublicKey :=
  (read.run bs).map (·.1)

def ofBase64 (s : String) : Except KeyError PublicKey := do
  let bs ← (Base64.decode (Bytes.ofString s)).mapError .base64
  decode bs

/-! ## Showing -/

def base64 (k : PublicKey) : String :=
  Base64.text k.encode

def fingerprint (k : PublicKey) : String :=
  "SHA256:" ++ String.ofList (Base64.encode false (Crypto.Sha256.digest k.encode))

end PublicKey

end GatewayTunnel
