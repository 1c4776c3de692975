import GatewayTunnel.Bytes

namespace GatewayTunnel.Der

abbrev Read := StateT Bytes Option

def length? : Bytes → Option (Nat × Bytes)
  | [] => none
  | b :: rest =>
    if b < 0x80 then some (b.toNat, rest)
    else
      let size := b.toNat - 0x80
      let n := Bytes.toNat (rest.take size)
      let shortest := 128 ≤ n && (rest.head? != some 0)
      if size = 0 ∨ 4 < size ∨ rest.length < size ∨ !shortest then none
      else some (n, rest.drop size)

def element (tag : UInt8) : Read Bytes := do
  match ← get with
  | [] => failure
  | first :: rest =>
    if first ≠ tag then failure
    let (n, rest) ← StateT.lift (length? rest)
    if rest.length < n then failure
    set (rest.drop n)
    return rest.take n

def element? (tag : UInt8) : Read (Option Bytes) := do
  if (← get).head? = some tag then return some (← element tag) else return none

def whole {α : Type} (read : Read α) (bs : Bytes) : Option α :=
  match read.run bs with
  | some (a, []) => some a
  | _ => none

def front {α : Type} (read : Read α) (bs : Bytes) : Option α :=
  (read.run bs).map (·.1)

def sequence {α : Type} (read : Read α) : Read α := do
  let contents ← element 0x30
  StateT.lift (whole read contents)

def integer : Read Bytes := element 0x02

def octets : Read Bytes := element 0x04

def objectName : Read Bytes := element 0x06

end GatewayTunnel.Der
