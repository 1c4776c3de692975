import GatewayTunnel.Crypto.Sha512

namespace GatewayTunnel.Crypto

/-! ## The digits of π -/

namespace Pi

/-- The terms of the arc tangent of `1 / d` in units of `1 / one`, from the `k`th odd number on. -/
def arctanTerms (d : Nat) : (fuel power k : Nat) → Int
  | 0, _, _ => 0
  | fuel + 1, power, k =>
    if power = 0 then 0
    else
      let term : Int := power / (2 * k + 1)
      (if k % 2 = 0 then term else -term) + arctanTerms d fuel (power / (d * d)) (k + 1)

def arctan (d one : Nat) : Int :=
  arctanTerms d one.log2 (one / d) 0

def fractionBits (bits : Nat) : Nat :=
  let one := Nat.pow 2 (bits + 64)
  let value := (16 * arctan 5 one - 4 * arctan 239 one).toNat
  value / Nat.pow 2 64 % Nat.pow 2 bits

def words (n : Nat) : Array UInt32 :=
  let digits := fractionBits (32 * n)
  ((List.range n).map fun i => UInt32.ofNat (digits >>> (32 * (n - 1 - i)))).toArray

end Pi

namespace Blowfish

structure State where
  subkeys : Array UInt32
  boxes : Array UInt32

def subkeyCount : Nat := 18

def boxCount : Nat := 1024

def startWords : Array UInt32 := Pi.words (subkeyCount + boxCount)

def State.initial : State :=
  ⟨startWords.extract 0 subkeyCount, startWords.extract subkeyCount (subkeyCount + boxCount)⟩

@[inline] def mix (boxes : Array UInt32) (x : UInt32) : UInt32 :=
  let a := boxes.getD (x >>> 24).toNat 0
  let b := boxes.getD (256 + ((x >>> 16) &&& 0xff).toNat) 0
  let c := boxes.getD (512 + ((x >>> 8) &&& 0xff).toNat) 0
  let d := boxes.getD (768 + (x &&& 0xff).toNat) 0
  ((a + b) ^^^ c) + d

def rounds (subkeys boxes : Array UInt32) : (pairs i : Nat) → UInt32 → UInt32 → UInt32 × UInt32
  | 0, i, l, r => (r ^^^ subkeys.getD (i + 1) 0, l ^^^ subkeys.getD i 0)
  | pairs + 1, i, l, r =>
    let l := l ^^^ subkeys.getD i 0
    let r := r ^^^ mix boxes l
    let r := r ^^^ subkeys.getD (i + 1) 0
    let l := l ^^^ mix boxes r
    rounds subkeys boxes pairs (i + 2) l r

def encrypt (subkeys boxes : Array UInt32) (l r : UInt32) : UInt32 × UInt32 :=
  rounds subkeys boxes 8 0 l r

@[inline] def cyclic (ws : Array UInt32) (i : Nat) : UInt32 :=
  ws.getD (i % ws.size) 0

def fillSubkeys (boxes salt : Array UInt32) : (pairs i : Nat) → Array UInt32 → UInt32 → UInt32 →
    Array UInt32 × UInt32 × UInt32
  | 0, _, subkeys, l, r => (subkeys, l, r)
  | pairs + 1, i, subkeys, l, r =>
    let (l, r) := encrypt subkeys boxes (l ^^^ cyclic salt i) (r ^^^ cyclic salt (i + 1))
    fillSubkeys boxes salt pairs (i + 2) ((subkeys.setIfInBounds i l).setIfInBounds (i + 1) r) l r

def fillBoxes (subkeys salt : Array UInt32) : (pairs i : Nat) → Array UInt32 → UInt32 → UInt32 →
    Array UInt32
  | 0, _, boxes, _, _ => boxes
  | pairs + 1, i, boxes, l, r =>
    let (l, r) := encrypt subkeys boxes (l ^^^ cyclic salt (subkeyCount + i))
      (r ^^^ cyclic salt (subkeyCount + i + 1))
    fillBoxes subkeys salt pairs (i + 2) ((boxes.setIfInBounds i l).setIfInBounds (i + 1) r) l r

def expand (salt key : Array UInt32) (s : State) : State :=
  let subkeys := s.subkeys.mapIdx fun i x => x ^^^ cyclic key i
  let (subkeys, l, r) := fillSubkeys s.boxes salt (subkeyCount / 2) 0 subkeys 0 0
  ⟨subkeys, fillBoxes subkeys salt (boxCount / 2) 0 s.boxes l r⟩

end Blowfish

namespace BlowfishKdf

open Blowfish

def plaintext : Bytes := Bytes.ofString "OxychromaticBlowfishSwatDynamite"

def wordsOf (bs : Bytes) : Array UInt32 :=
  ((Bytes.pieces 4 bs).map fun w => UInt32.ofNat w.toNat).toArray

def mixMany (salt password : Array UInt32) : (n : Nat) → State → State
  | 0, s => s
  | n + 1, s => mixMany salt password n (expand #[] password (expand #[] salt s))

def encryptMany (s : State) : (n : Nat) → UInt32 × UInt32 → UInt32 × UInt32
  | 0, w => w
  | n + 1, (l, r) => encryptMany s n (encrypt s.subkeys s.boxes l r)

def encryptPairs (s : State) : List UInt32 → Bytes
  | l :: r :: rest =>
    let (l, r) := encryptMany s 64 (l, r)
    (Bytes.ofNat 4 l.toNat).reverse ++ (Bytes.ofNat 4 r.toNat).reverse ++ encryptPairs s rest
  | _ => []

def hash (password salt : Bytes) : Bytes :=
  let password := wordsOf password
  let salt := wordsOf salt
  let s := mixMany salt password 64 (expand salt password .initial)
  encryptPairs s (wordsOf plaintext).toList

def chain (password : Bytes) : (rounds : Nat) → (last sum : Bytes) → Bytes
  | 0, _, sum => sum
  | rounds + 1, last, sum =>
    let next := hash password (Sha512.digest last)
    chain password rounds next (Bytes.xor sum next)

def block (password salt : Bytes) (rounds i : Nat) : Bytes :=
  let password := Sha512.digest password
  let first := hash password (Sha512.digest (salt ++ Bytes.ofNat 4 i))
  chain password (rounds - 1) first first

def derive (password salt : Bytes) (rounds length : Nat) : Option Bytes :=
  if password.isEmpty ∨ salt.isEmpty ∨ rounds = 0 ∨ length = 0 then none
  else
    let count := (length + 31) / 32
    let blocks := ((List.range count).map fun i =>
      (block password salt rounds (i + 1)).toArray).toArray
    some ((List.range length).map fun i => (blocks.getD (i % count) #[]).getD (i / count) 0)

end BlowfishKdf

end GatewayTunnel.Crypto
