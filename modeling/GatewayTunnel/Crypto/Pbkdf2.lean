import GatewayTunnel.Crypto.Sha256

namespace GatewayTunnel.Crypto

def hmacBlock : Nat := 64

def hmac (key message : Bytes) : Bytes :=
  let key := if hmacBlock < key.length then Sha256.digest key else key
  let key := key ++ List.replicate (hmacBlock - key.length) 0
  Sha256.digest (key.map (· ^^^ 0x5c) ++ Sha256.digest (key.map (· ^^^ 0x36) ++ message))

namespace Pbkdf2

def chain (password : Bytes) : (rounds : Nat) → (last sum : Bytes) → Bytes
  | 0, _, sum => sum
  | rounds + 1, last, sum =>
    let next := hmac password last
    chain password rounds next (Bytes.xor sum next)

def block (password salt : Bytes) (rounds i : Nat) : Bytes :=
  let first := hmac password (salt ++ Bytes.ofNat 4 i)
  chain password (rounds - 1) first first

def derive (password salt : Bytes) (rounds length : Nat) : Bytes :=
  ((List.range ((length + 31) / 32)).flatMap fun i => block password salt rounds (i + 1)).take length

end Pbkdf2

end GatewayTunnel.Crypto
