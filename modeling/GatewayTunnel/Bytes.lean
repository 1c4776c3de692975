namespace GatewayTunnel

abbrev Bytes := List UInt8

namespace Bytes

def ofString (s : String) : Bytes :=
  s.toList.flatMap String.utf8EncodeChar

def toString? (bs : Bytes) : Option String :=
  String.fromUTF8? ⟨bs.toArray⟩

def toNat (bs : Bytes) : Nat :=
  bs.foldl (fun acc b => acc * 256 + b.toNat) 0

def ofNat : (width : Nat) → Nat → Bytes
  | 0, _ => []
  | width + 1, n => ofNat width (n / 256) ++ [UInt8.ofNat n]

@[simp] theorem length_ofNat (width n : Nat) : (ofNat width n).length = width := by
  induction width generalizing n with
  | zero => rfl
  | succ width ih => simp [ofNat, ih]

def ofNatMinimal (n : Nat) : Bytes :=
  if n = 0 then [] else ofNatMinimal (n / 256) ++ [UInt8.ofNat n]

def xor (xs ys : Bytes) : Bytes :=
  List.zipWith (· ^^^ ·) xs ys

def pieces (size : Nat) (bs : Bytes) : List Bytes :=
  if size = 0 ∨ bs.isEmpty then [] else bs.take size :: pieces size (bs.drop size)
termination_by bs.length
decreasing_by
  cases bs with
  | nil => simp_all
  | cons b bs => simp only [List.length_drop, List.length_cons]; omega

end Bytes

end GatewayTunnel
