import GatewayTunnel.Backoff.Words
import Mathlib.Algebra.Group.Nat.Defs

namespace GatewayTunnel

namespace Checked

theorem ofNat?_of_lt {k : Nat} (fits : k < UInt64.size) : ofNat? k = some (.ofNat k) :=
  if_pos fits

theorem ofNat?_of_le {k : Nat} (large : UInt64.size ≤ k) : ofNat? k = none :=
  if_neg (Nat.not_lt.2 large)

theorem mul?_bind_add? (m n c : UInt64) :
    ((mul? m n).bind fun product => add? product c) = ofNat? (m.toNat * n.toNat + c.toNat) := by
  unfold mul?
  by_cases fits : m.toNat * n.toNat < UInt64.size
  · rw [ofNat?_of_lt fits, Option.bind_some, add?, UInt64.toNat_ofNat_of_lt' fits]
  · have large : UInt64.size ≤ m.toNat * n.toNat := Nat.le_of_not_lt fits
    rw [ofNat?_of_le large, ofNat?_of_le (Nat.le_add_right_of_le large), Option.bind_none]

theorem shiftLeft?_one {n : UInt32} (fits : n.toNat < 32) :
    ∃ r : UInt32, shiftLeft? 1 n = some r ∧ r.toNat = 2 ^ n.toNat := by
  refine ⟨1 <<< n, if_pos (UInt32.lt_iff_toNat_lt.2 fits), ?_⟩
  rw [UInt32.toNat_shiftLeft, Nat.mod_eq_of_lt fits, UInt32.toNat_one, Nat.one_shiftLeft]
  exact Nat.mod_eq_of_lt (Nat.pow_lt_pow_right (by decide) fits)

end Checked

namespace Duration

variable {d d' : Duration} {j k secs nanos : Nat}

/-! ## Scaling -/

theorem totalNanos_max : max.totalNanos = secsLimit * nanosPerSec - 1 := by decide

theorem carried_lt_iff :
    secs + nanos / nanosPerSec < secsLimit ↔ secs * nanosPerSec + nanos ≤ max.totalNanos := by
  rw [totalNanos_max]
  simp only [secsLimit, nanosPerSec]
  omega

theorem totalNanos_ofParts (secs nanos : Nat) :
    (ofParts secs nanos).totalNanos = min (secs * nanosPerSec + nanos) max.totalNanos := by
  by_cases fits : secs + nanos / nanosPerSec < secsLimit
  · rw [Nat.min_eq_left (carried_lt_iff.1 fits), ofParts, dif_pos fits, totalNanos, Nat.add_mul,
      Nat.add_assoc, Nat.mul_comm (nanos / _), Nat.div_add_mod]
  · rw [Nat.min_eq_right (Nat.le_of_not_le (mt carried_lt_iff.2 fits)), ofParts, dif_neg fits]

theorem totalNanos_scale (d : Duration) (k : Nat) :
    (d.scale k).totalNanos = min (d.totalNanos * k) max.totalNanos := by
  have total : d.secs * k * nanosPerSec + d.nanos * k = d.totalNanos * k := by
    rw [totalNanos, Nat.add_mul, Nat.mul_right_comm]
  rw [scale, totalNanos_ofParts, total]

theorem totalNanos_scale_mono (shorter : d.totalNanos ≤ d'.totalNanos) (fewer : j ≤ k) :
    (d.scale j).totalNanos ≤ (d'.scale k).totalNanos := by
  have product : d.totalNanos * j ≤ d'.totalNanos * k := Nat.mul_le_mul shorter fewer
  rw [totalNanos_scale, totalNanos_scale]
  omega

theorem totalNanos_scale_double (d : Duration) (k : Nat) :
    (d.scale (k * 2)).totalNanos = min (2 * (d.scale k).totalNanos) max.totalNanos := by
  rw [totalNanos_scale, totalNanos_scale, ← Nat.mul_assoc]
  omega

/-! ## Scaling in words -/

theorem toNat_words_secs (d : Duration) : d.words.secs.toNat = d.secs :=
  UInt64.toNat_ofNat_of_lt d.secs_lt

theorem toNat_words_nanos (d : Duration) : d.words.nanos.toNat = d.nanos :=
  UInt32.toNat_ofNat_of_lt (Nat.lt_trans d.nanos_lt (by decide))

theorem words_nanos_lt (d : Duration) : d.words.nanos < Words.perSec := by
  rw [UInt32.lt_iff_toNat_lt, toNat_words_nanos]
  exact d.nanos_lt

theorem words_ofParts_of_lt (fits : secs + nanos / nanosPerSec < secsLimit) :
    (ofParts secs nanos).words =
      ⟨.ofNat (secs + nanos / nanosPerSec), .ofNat (nanos % nanosPerSec)⟩ := by
  rw [ofParts, dif_pos fits, words]

theorem words_ofParts_of_le (large : secsLimit ≤ secs + nanos / nanosPerSec) :
    (ofParts secs nanos).words = Words.max := by
  rw [ofParts, dif_neg (Nat.not_lt.2 large)]
  rfl

theorem product_lt (d : Duration) (k : UInt32) : d.nanos * k.toNat < UInt64.size :=
  calc d.nanos * k.toNat ≤ nanosPerSec * UInt32.size :=
        Nat.mul_le_mul (Nat.le_of_lt d.nanos_lt) (Nat.le_of_lt k.toNat_lt)
    _ < UInt64.size := by decide

theorem product_words (d : Duration) (k : UInt32) :
    ∃ total, Checked.mul? d.words.nanos.toUInt64 k.toUInt64 = some total ∧
      total.toNat = d.nanos * k.toNat := by
  refine ⟨.ofNat (d.nanos * k.toNat), ?_, UInt64.toNat_ofNat_of_lt' (product_lt d k)⟩
  rw [Checked.mul?, UInt32.toNat_toUInt64, UInt32.toNat_toUInt64, toNat_words_nanos,
    Checked.ofNat?_of_lt (product_lt d k)]

theorem checkedScale_words (d : Duration) (k : UInt32) : d.words.checkedScale k =
    .ok ((Checked.ofNat? (d.secs * k.toNat + d.nanos * k.toNat / nanosPerSec)).map fun whole =>
      ⟨whole, .ofNat (d.nanos * k.toNat % nanosPerSec)⟩) := by
  obtain ⟨total, product, exactly⟩ := product_words d k
  have carry : (total / Words.perSec.toUInt64).toNat = d.nanos * k.toNat / nanosPerSec := by
    rw [UInt64.toNat_div, exactly]
    rfl
  have rest : (total % Words.perSec.toUInt64).toUInt32 =
      .ofNat (d.nanos * k.toNat % nanosPerSec) := by
    apply UInt32.toNat_inj.1
    rw [UInt64.toNat_toUInt32, UInt64.toNat_mod, exactly]
    rfl
  have normal : UInt32.ofNat (d.nanos * k.toNat % nanosPerSec) < Words.perSec := by
    rw [UInt32.lt_iff_toNat_lt, UInt32.toNat_ofNat']
    exact Nat.lt_of_le_of_lt (Nat.mod_le _ _) (Nat.mod_lt _ (by decide))
  have secs : ((Checked.mul? d.words.secs k.toUInt64).bind fun product =>
      Checked.add? product (total / Words.perSec.toUInt64)) =
      Checked.ofNat? (d.secs * k.toNat + d.nanos * k.toNat / nanosPerSec) := by
    rw [Checked.mul?_bind_add?, toNat_words_secs, UInt32.toNat_toUInt64, carry]
  simp only [Words.checkedScale, product, secs, rest, Words.ofParts, if_pos normal]
  cases Checked.ofNat? _ <;> rfl

theorem scale_words (d : Duration) (k : UInt32) :
    d.words.scale k = .ok (d.scale k.toNat).words := by
  rw [Words.scale, checkedScale_words, scale]
  by_cases fits : d.secs * k.toNat + d.nanos * k.toNat / nanosPerSec < secsLimit
  · rw [Checked.ofNat?_of_lt fits, words_ofParts_of_lt fits]
    rfl
  · have large := Nat.le_of_not_lt fits
    rw [Checked.ofNat?_of_le large, words_ofParts_of_le large]
    rfl

end Duration

namespace Backoff

variable {b b' : Backoff} {attempt later : Nat}

theorem totalNanos_delayFor (b : Backoff) (attempt : Nat) :
    (b.delayFor attempt).totalNanos =
      min (b.baseDelay.totalNanos * 2 ^ min attempt 31) Duration.max.totalNanos :=
  Duration.totalNanos_scale ..

theorem delayFor_mono (shorter : b.baseDelay.totalNanos ≤ b'.baseDelay.totalNanos)
    (earlier : attempt ≤ later) :
    (b.delayFor attempt).totalNanos ≤ (b'.delayFor later).totalNanos := by
  have fewer : min attempt maxDoublings ≤ min later maxDoublings := by omega
  exact Duration.totalNanos_scale_mono shorter (Nat.pow_le_pow_right (by decide) fewer)

theorem delayFor_succ (b : Backoff) (early : attempt < 31) :
    (b.delayFor (attempt + 1)).totalNanos =
      min (2 * (b.delayFor attempt).totalNanos) Duration.max.totalNanos := by
  have next : min (attempt + 1) maxDoublings = min attempt maxDoublings + 1 := by
    simp only [maxDoublings]
    omega
  rw [delayFor, next]
  exact Duration.totalNanos_scale_double ..

/-- The shift never moves a bit out of its word. -/
theorem delayInWords_eq (b : Backoff) (attempt : UInt32) :
    b.delayInWords attempt = .ok (b.delayFor attempt.toNat).words := by
  have clamped : (min attempt 31).toNat = min attempt.toNat maxDoublings := by
    change (if attempt ≤ 31 then attempt else 31).toNat = min attempt.toNat 31
    split
    · rename_i few
      exact (Nat.min_eq_left (UInt32.le_iff_toNat_le.1 few)).symm
    · rename_i many
      exact (Nat.min_eq_right (Nat.le_of_not_le (mt UInt32.le_iff_toNat_le.2 many))).symm
  have few : (min attempt 31).toNat < 32 := by
    rw [clamped]
    simp only [maxDoublings]
    omega
  obtain ⟨r, shifted, exactly⟩ := Checked.shiftLeft?_one few
  rw [delayInWords, shifted, Option.getD_some, Duration.scale_words, exactly, clamped]
  rfl

/-- The delay is computed in words without an overflow, and its nanoseconds are less than a second. It is
the base delay, doubled for each call before this one but at most 31 times, or the longest duration if that
is shorter. So it is never shorter after a later call or with a longer base delay, and each of the first 31
calls doubles it, up to the longest duration. -/
theorem delay_exact (b : Backoff) (attempt : UInt32) :
    b.delayInWords attempt = .ok (b.delayFor attempt.toNat).words ∧
    (b.delayFor attempt.toNat).words.nanos < 1000000000 ∧
    (b.delayFor attempt.toNat).totalNanos =
      min (b.baseDelay.totalNanos * 2 ^ min attempt.toNat 31) Duration.max.totalNanos ∧
    (∀ later : UInt32, attempt ≤ later →
      (b.delayFor attempt.toNat).totalNanos ≤ (b.delayFor later.toNat).totalNanos) ∧
    (∀ b' : Backoff, b.baseDelay.totalNanos ≤ b'.baseDelay.totalNanos →
      (b.delayFor attempt.toNat).totalNanos ≤ (b'.delayFor attempt.toNat).totalNanos) ∧
    (attempt < 31 → (b.delayFor (attempt + 1).toNat).totalNanos =
      min (2 * (b.delayFor attempt.toNat).totalNanos) Duration.max.totalNanos) := by
  refine ⟨delayInWords_eq b attempt, Duration.words_nanos_lt _, totalNanos_delayFor b _,
    fun later after => ?_, fun b' longer => delayFor_mono longer (Nat.le_refl _), fun early => ?_⟩
  · exact delayFor_mono (Nat.le_refl _) (UInt32.le_iff_toNat_le.1 after)
  · have small : attempt.toNat < 31 := UInt32.lt_iff_toNat_lt.1 early
    have next : (attempt + 1).toNat = attempt.toNat + 1 := by
      rw [UInt32.toNat_add]
      exact Nat.mod_eq_of_lt (Nat.lt_of_lt_of_le (Nat.succ_lt_succ small) (by decide))
    rw [next]
    exact delayFor_succ b small

/-- The longest base delay that 31 doublings leave below the longest duration. -/
def nearlyLongest : Backoff := ⟨⟨8589934591, 999999999, by decide, by decide⟩, 3⟩

def tooLong : Backoff := ⟨⟨8589934592, 0, by decide, by decide⟩, 3⟩

theorem delay_exact_border :
    nearlyLongest.delayInWords 30 = .ok ⟨9223372036854775806, 926258176⟩ ∧
    (30 : UInt32) ≤ 40 ∧
    (nearlyLongest.delayFor 30).totalNanos ≤ (nearlyLongest.delayFor 40).totalNanos ∧
    nearlyLongest.baseDelay.totalNanos ≤ tooLong.baseDelay.totalNanos ∧
    (nearlyLongest.delayFor 30).totalNanos ≤ (tooLong.delayFor 30).totalNanos ∧
    (30 : UInt32) < 31 ∧
    (nearlyLongest.delayFor 31).totalNanos =
      min (2 * (nearlyLongest.delayFor 30).totalNanos) Duration.max.totalNanos ∧
    (nearlyLongest.delayFor 31).words = ⟨18446744073709551613, 852516352⟩ ∧
    tooLong.delayFor 31 = Duration.max := by
  obtain ⟨inWords, -, -, later, longer, doubled⟩ := delay_exact nearlyLongest 30
  have words : (nearlyLongest.delayFor 30).words = ⟨9223372036854775806, 926258176⟩ := by
    decide +kernel
  exact ⟨words ▸ inWords, by decide, later 40 (by decide), by decide, longer tooLong (by decide),
    by decide, doubled (by decide), by decide +kernel, by decide +kernel⟩

end Backoff

end GatewayTunnel
