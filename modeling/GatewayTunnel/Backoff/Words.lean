import GatewayTunnel.Backoff

/-!
# Delays in machine words

`Backoff.delayInWords` is the delay as a processor computes it: seconds in 64 bits, nanoseconds and the
number of the attempt in 32. Seconds and nanoseconds are multiplied on their own, and whole seconds of the
nanoseconds are carried. A product or sum of seconds that does not fit in its word makes the delay the
longest one; nothing else may be too large for its word, or the computation ends in an `Overflow`.
-/

namespace GatewayTunnel

inductive Overflow where
  | product
  | carry
  deriving DecidableEq, Repr

namespace Checked

def ofNat? (n : Nat) : Option UInt64 :=
  if n < UInt64.size then some (.ofNat n) else none

def mul? (m n : UInt64) : Option UInt64 := ofNat? (m.toNat * n.toNat)

def add? (m n : UInt64) : Option UInt64 := ofNat? (m.toNat + n.toNat)

def shiftLeft? (m n : UInt32) : Option UInt32 :=
  if n < 32 then some (m <<< n) else none

end Checked

namespace Duration

structure Words where
  secs : UInt64
  nanos : UInt32
  deriving DecidableEq, Repr

def words (d : Duration) : Words := ⟨.ofNat d.secs, .ofNat d.nanos⟩

namespace Words

def perSec : UInt32 := 1000000000

def max : Words := ⟨18446744073709551615, 999999999⟩

def ofParts (secs : UInt64) (nanos : UInt32) : Except Overflow Words :=
  if nanos < perSec then .ok ⟨secs, nanos⟩
  else
    match Checked.add? secs (nanos / perSec).toUInt64 with
    | some whole => .ok ⟨whole, nanos % perSec⟩
    | none => .error .carry

def checkedScale (d : Words) (k : UInt32) : Except Overflow (Option Words) :=
  match Checked.mul? d.nanos.toUInt64 k.toUInt64 with
  | none => .error .product
  | some total =>
    let carry := total / perSec.toUInt64
    let nanos := (total % perSec.toUInt64).toUInt32
    match (Checked.mul? d.secs k.toUInt64).bind (Checked.add? · carry) with
    | none => .ok none
    | some secs => (ofParts secs nanos).map some

def scale (d : Words) (k : UInt32) : Except Overflow Words :=
  (d.checkedScale k).map (·.getD max)

end Words

end Duration

def Backoff.delayInWords (b : Backoff) (attempt : UInt32) : Except Overflow Duration.Words :=
  b.baseDelay.words.scale ((Checked.shiftLeft? 1 (min attempt 31)).getD 0xffffffff)

end GatewayTunnel
