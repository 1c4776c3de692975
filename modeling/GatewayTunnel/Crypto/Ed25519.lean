import GatewayTunnel.Crypto.Residue
import GatewayTunnel.Crypto.Sha512

namespace GatewayTunnel.Crypto.Ed25519

open Residue

def prime : Nat := Nat.pow 2 255 - 19

def constant : Nat :=
  sub prime 0 (121665 * inverse prime 121666)

/-- A point in extended coordinates: `x / z`, `y / z` and their product `t / z`. -/
structure Point where
  x : Nat
  y : Nat
  z : Nat
  t : Nat

def Point.zero : Point := ⟨0, 1, 1, 0⟩

def Point.base : Point :=
  let x := 15112221349535400772501151409588531511454012693041857206046113283949847762202
  let y := 46316835694926478169428394003475163141307993866256225615783033603165251855960
  ⟨x, y, 1, x * y % prime⟩

def Point.add (p q : Point) : Point :=
  let a := sub prime p.y p.x * sub prime q.y q.x % prime
  let b := (p.y + p.x) * (q.y + q.x) % prime
  let c := 2 * constant * p.t * q.t % prime
  let d := 2 * p.z * q.z % prime
  let e := sub prime b a
  let f := sub prime d c
  let g := d + c
  let h := b + a
  ⟨e * f % prime, g * h % prime, f * g % prime, e * h % prime⟩

def Point.mul (n : Nat) (p : Point) : Point :=
  if n = 0 then .zero
  else
    let half := mul (n / 2) p
    let double := half.add half
    if n % 2 = 1 then double.add p else double

/-- The form of a point: `y`, with the lowest bit of `x` at the top, the lowest byte first. -/
def Point.encode (p : Point) : Bytes :=
  let inverseZ := inverse prime p.z
  let x := p.x * inverseZ % prime
  let y := p.y * inverseZ % prime
  (Bytes.ofNat 32 (y + x % 2 * Nat.pow 2 255)).reverse

def scalar (seed : Bytes) : Nat :=
  let n := Bytes.toNat ((Sha512.digest seed).take 32).reverse
  n % Nat.pow 2 254 / 8 * 8 + Nat.pow 2 254

def publicKey (seed : Bytes) : Bytes :=
  (Point.mul (scalar seed) .base).encode

end GatewayTunnel.Crypto.Ed25519
