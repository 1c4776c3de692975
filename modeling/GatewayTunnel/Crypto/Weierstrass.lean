import GatewayTunnel.Bytes
import GatewayTunnel.Crypto.Residue

namespace GatewayTunnel.Crypto.Weierstrass

open Residue

structure Params where
  prime : Nat
  order : Nat
  x : Nat
  y : Nat
  size : Nat

def p256 : Params where
  prime := Nat.pow 2 256 - Nat.pow 2 224 + Nat.pow 2 192 + Nat.pow 2 96 - 1
  order := 0xffffffff00000000ffffffffffffffffbce6faada7179e84f3b9cac2fc632551
  x := 0x6b17d1f2e12c4247f8bce6e563a440f277037d812deb33a0f4a13945d898c296
  y := 0x4fe342e2fe1a7f9b8ee7eb4a7c0f9e162bce33576b315ececbb6406837bf51f5
  size := 32

def p384 : Params where
  prime := Nat.pow 2 384 - Nat.pow 2 128 - Nat.pow 2 96 + Nat.pow 2 32 - 1
  order := 0xffffffffffffffffffffffffffffffffffffffffffffffffc7634d81f4372ddf581a0db248b0a77aecec196accc52973
  x := 0xaa87ca22be8b05378eb1c71ef320ad746e1d3b628ba79b9859f741e082542a385502f25dbf55296c3a545e3872760ab7
  y := 0x3617de4a96262c6f5d9e98bf9292dc29f8f41dbd289a147ce9da3113b5f0b8c00a60b1ce1d7e819d7a431d7c90ea0e5f
  size := 48

def p521 : Params where
  prime := Nat.pow 2 521 - 1
  order := 0x1fffffffffffffffffffffffffffffffffffffffffffffffffffffffffffffffffa51868783bf2f966b7fcc0148f709a5d03bb5c9b8899c47aebb6fb71e91386409
  x := 0xc6858e06b70404e9cd9e3ecb662395b4429c648139053fb521f828af606b4d3dbaa14b5e77efe75928fe1dc127a2ffa8de3348b3c1856a429bf97e7e31c2e5bd66
  y := 0x11839296a789a3bc0045c8a5fb42c7d1bd998f54449579b446817afbd17273e662c97ee72995ef42640c550b9013fad0761353c7086a272c24088be94769fd16650
  size := 66

def add (c : Params) : Option (Nat × Nat) → Option (Nat × Nat) → Option (Nat × Nat)
  | none, q => q
  | p, none => p
  | some (x1, y1), some (x2, y2) =>
    let p := c.prime
    if x1 = x2 ∧ (y1 + y2) % p = 0 then none
    else
      let slope :=
        if x1 = x2 then sub p (3 * x1 * x1) 3 * inverse p (2 * y1 % p) % p
        else sub p y2 y1 * inverse p (sub p x2 x1) % p
      let x3 := sub p (sub p (slope * slope) x1) x2
      some (x3, sub p (slope * sub p x1 x3) y1)

def mul (c : Params) (n : Nat) (point : Option (Nat × Nat)) : Option (Nat × Nat) :=
  if n = 0 then none
  else
    let half := mul c (n / 2) point
    let double := add c half half
    if n % 2 = 1 then add c double point else double

def Params.isSecret (c : Params) (n : Nat) : Bool :=
  0 < n && n < c.order

def publicKey (c : Params) (n : Nat) : Bytes :=
  match mul c n (some (c.x, c.y)) with
  | none => [0]
  | some (x, y) => 4 :: Bytes.ofNat c.size x ++ Bytes.ofNat c.size y

end GatewayTunnel.Crypto.Weierstrass
