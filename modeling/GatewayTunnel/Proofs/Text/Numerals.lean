import GatewayTunnel.Text.Numeral
import Mathlib.Data.List.Induction
import Mathlib.Data.Nat.Digits.Defs
import Mathlib.Tactic.IntervalCases
import Mathlib.Tactic.Ring

namespace GatewayTunnel.Text.Numeral

variable {acc bound m n : Nat} {c : Char} {cs ds : List Char}

def valueOf (ds : List Char) : Nat :=
  Nat.ofDigits 10 (ds.reverse.map fun c => c.toNat - '0'.toNat)

def IsNumeral (cs : List Char) (n : Nat) : Prop :=
  ∃ ds, ds ≠ [] ∧ (∀ c ∈ ds, c.isDigit = true) ∧ valueOf ds = n ∧ (cs = ds ∨ cs = '+' :: ds)

theorem valueOf_cons (c : Char) (ds : List Char) :
    valueOf (c :: ds) = (c.toNat - '0'.toNat) * 10 ^ ds.length + valueOf ds := by
  simp only [valueOf, List.reverse_cons, List.map_append, Nat.ofDigits_append, List.map_cons,
    List.map_nil, Nat.ofDigits_singleton, List.length_map, List.length_reverse]
  ring

theorem digitValue?_eq_some_iff : digitValue? c = some m ↔
    c.isDigit = true ∧ c.toNat - '0'.toNat = m := by
  have digit : c.isDigit = true ↔ '0' ≤ c ∧ c ≤ '9' := by
    rw [Char.isDigit, Bool.and_eq_true, decide_eq_true_eq, decide_eq_true_eq, Char.le_def, Char.le_def]
  rw [digit, digitValue?]
  split <;> simp_all

theorem valueFrom?_eq_some_iff : valueFrom? acc cs = some n ↔
    (∀ c ∈ cs, c.isDigit = true) ∧ acc * 10 ^ cs.length + valueOf cs = n := by
  induction cs generalizing acc with
  | nil => simp [valueFrom?, valueOf]
  | cons c cs ih =>
      rw [valueFrom?, List.forall_mem_cons, valueOf_cons, List.length_cons]
      cases digit : digitValue? c with
      | none =>
          refine iff_of_false (Option.some_ne_none n).symm ?_
          rintro ⟨digits, -⟩
          rw [digitValue?_eq_some_iff.2 ⟨digits.1, rfl⟩] at digit
          cases digit
      | some d =>
          obtain ⟨first, value⟩ := digitValue?_eq_some_iff.1 digit
          have sum : (acc * 10 + d) * 10 ^ cs.length + valueOf cs =
              acc * 10 ^ (cs.length + 1) + ((c.toNat - '0'.toNat) * 10 ^ cs.length + valueOf cs) := by
            rw [value]
            ring
          rw [ih, sum, and_iff_right first]

theorem value?_eq_some_iff : value? cs = some n ↔
    cs ≠ [] ∧ (∀ c ∈ cs, c.isDigit = true) ∧ valueOf cs = n := by
  cases cs with
  | nil => simp [value?]
  | cons c cs =>
      rw [value?, valueFrom?_eq_some_iff, Nat.zero_mul, Nat.zero_add]
      simp

theorem dropPlus_eq_self (digits : ∀ c ∈ ds, c.isDigit = true) : dropPlus ds = ds := by
  unfold dropPlus
  split
  · exact absurd (digits '+' List.mem_cons_self) (by decide)
  · rfl

theorem isNumeral_iff : IsNumeral cs n ↔ value? (dropPlus cs) = some n := by
  constructor
  · rintro ⟨ds, some, digits, value, rfl | rfl⟩
    · rw [dropPlus_eq_self digits]
      exact value?_eq_some_iff.2 ⟨some, digits, value⟩
    · exact value?_eq_some_iff.2 ⟨some, digits, value⟩
  · intro read
    obtain ⟨some, digits, value⟩ := value?_eq_some_iff.1 read
    refine ⟨dropPlus cs, some, digits, value, ?_⟩
    unfold dropPlus
    split
    · exact .inr rfl
    · exact .inl rfl

theorem read_eq_some_iff : read bound cs = some n ↔ IsNumeral cs n ∧ n ≤ bound := by
  rw [read, Option.filter_eq_some_iff, isNumeral_iff, decide_eq_true_eq]

/-! ## Numbers without leading zeros -/

theorem valueOf_concat (ds : List Char) (c : Char) :
    valueOf (ds ++ [c]) = 10 * valueOf ds + (c.toNat - '0'.toNat) := by
  rw [valueOf, List.reverse_concat, List.map_cons, Nat.ofDigits_cons, ← valueOf, Nat.add_comm]

theorem isDigit_iff : c.isDigit = true ↔ 48 ≤ c.toNat ∧ c.toNat ≤ 57 :=
  Char.isDigit_iff_toNat

theorem digit_lt (digit : c.isDigit = true) : c.toNat - '0'.toNat < 10 :=
  Nat.sub_lt_right_of_lt_add (isDigit_iff.1 digit).1 (Nat.lt_succ_of_le (isDigit_iff.1 digit).2)

theorem digitChar_of_isDigit (digit : c.isDigit = true) (m : Nat) :
    digitChar (10 * m + (c.toNat - '0'.toNat)) = c := by
  have code : '0'.toNat + (c.toNat - '0'.toNat) = c.toNat :=
    Nat.add_sub_of_le (isDigit_iff.1 digit).1
  rw [digitChar, Nat.mul_add_mod, Nat.mod_eq_of_lt (digit_lt digit), code, Char.ofNat_toNat]

theorem valueOf_pos (filled : ds ≠ []) (digits : ∀ c ∈ ds, c.isDigit = true)
    (first : ds.head? ≠ some '0') : 0 < valueOf ds := by
  obtain ⟨c, rest, rfl⟩ := List.exists_cons_of_ne_nil filled
  have least : '0'.toNat ≤ c.toNat := (isDigit_iff.1 (digits c List.mem_cons_self)).1
  have other : '0'.toNat ≠ c.toNat := fun same => first (congrArg some (Char.toNat_inj.1 same.symm))
  rw [valueOf_cons]
  exact Nat.add_pos_left (Nat.mul_pos (Nat.sub_pos_of_lt (Nat.lt_of_le_of_ne least other))
    (Nat.pow_pos (by decide))) _

theorem digits_valueOf (filled : ds ≠ []) (digits : ∀ c ∈ ds, c.isDigit = true)
    (first : ds.length = 1 ∨ ds.head? ≠ some '0') : Numeral.digits (valueOf ds) = ds := by
  -- Numbers are written by their last digit, so the digits are taken off at the end.
  induction ds using List.reverseRecOn with
  | nil => exact absurd rfl filled
  | append_singleton ds c ih =>
      obtain ⟨front, last⟩ := List.forall_mem_append.1 digits
      have digit := last c List.mem_cons_self
      rw [valueOf_concat, Numeral.digits, digitChar_of_isDigit digit]
      have small := digit_lt digit
      cases ds with
      | nil => rw [if_pos (by simpa [valueOf] using small), List.nil_append]
      | cons d rest =>
          have start : (d :: rest).head? ≠ some '0' := first.resolve_left (by simp)
          have large := valueOf_pos (List.cons_ne_nil d rest) front start
          rw [if_neg (by omega), Nat.mul_add_div (by decide), Nat.div_eq_of_lt small, Nat.add_zero,
            ih (List.cons_ne_nil d rest) front (.inr start)]

theorem head?_digits {n : Nat} (positive : 0 < n) : (digits n).head? ≠ some '0' := by
  fun_induction digits n with
  | case1 n small =>
      interval_cases n <;> decide
  | case2 n large ih =>
      have front := ih (Nat.div_pos (Nat.not_lt.1 large) (by decide))
      obtain ⟨c, rest, start⟩ := List.exists_cons_of_ne_nil (digits_ne_nil (n / 10))
      rw [start] at front ⊢
      exact front

theorem length_digits_le {k n : Nat} (positive : 0 < k) (small : n < 10 ^ k) :
    (digits n).length ≤ k := by
  induction k generalizing n with
  | zero => exact absurd positive (Nat.lt_irrefl 0)
  | succ k ih =>
      rw [digits]
      split
      · exact positive
      · rename_i large
        have quotient : n / 10 < 10 ^ k := Nat.div_lt_of_lt_mul (by rwa [pow_succ'] at small)
        have more : 0 < k := by
          rcases k with _ | k
          · exact absurd (by simpa using small) large
          · exact Nat.succ_pos k
        rw [List.length_append]
        exact Nat.add_le_add_right (ih more quotient) 1

end GatewayTunnel.Text.Numeral
