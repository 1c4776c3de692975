namespace GatewayTunnel.Crypto.Residue

def sub (m a b : Nat) : Nat :=
  (a + (m - b % m)) % m

def pow (m base exponent : Nat) : Nat :=
  if exponent = 0 then 1 % m
  else
    let half := pow m base (exponent / 2)
    let square := half * half % m
    if exponent % 2 = 1 then square * base % m else square

def inverse (p a : Nat) : Nat :=
  pow p a (p - 2)

end GatewayTunnel.Crypto.Residue
