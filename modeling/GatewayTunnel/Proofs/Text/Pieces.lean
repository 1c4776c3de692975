import GatewayTunnel.Proofs.Text.Words
import Mathlib.Data.List.Basic

namespace GatewayTunnel.Text

variable {α : Type _} {p : α → Bool} {as : List α}

theorem splitWhere_eq_splitOnP (p : α → Bool) (as : List α) : splitWhere p as = as.splitOnP p := by
  induction as with
  | nil => rfl
  | cons a as ih =>
      rw [List.splitOnP_cons_eq_if_modifyHead, splitWhere, ih]
      split
      · rfl
      · cases pieces : as.splitOnP p with
        | nil => exact absurd pieces (List.splitOnP_ne_nil p as)
        | cons piece rest => rfl

theorem splitWhere_append {a : α} (cut : p a = true) (as bs : List α) :
    splitWhere p (as ++ a :: bs) = splitWhere p as ++ splitWhere p bs := by
  simp only [splitWhere_eq_splitOnP, List.splitOnP_append_cons as bs cut]

theorem intercalate_splitWhere (sep : Char) (cs : List Char) :
    [sep].intercalate (splitWhere (· == sep) cs) = cs := by
  rw [splitWhere_eq_splitOnP]
  exact List.intercalate_splitOn sep

theorem splitWhere_intercalate {sep : Char} {pieces : List (List Char)} (some : pieces ≠ [])
    (plain : ∀ piece ∈ pieces, sep ∉ piece) :
    splitWhere (· == sep) ([sep].intercalate pieces) = pieces := by
  rw [splitWhere_eq_splitOnP]
  exact List.splitOn_intercalate sep plain some

theorem eq_false_of_mem_splitWhere {piece : List α} (member : piece ∈ splitWhere p as) :
    ∀ a ∈ piece, p a = false := by
  induction as generalizing piece with
  | nil =>
      rw [List.mem_singleton.1 member]
      nofun
  | cons a as ih =>
      rw [splitWhere] at member
      by_cases h : p a
      · rw [if_pos h] at member
        rcases List.mem_cons.1 member with rfl | later
        · nofun
        · exact ih later
      · rw [if_neg h] at member
        cases split : splitWhere p as with
        | nil => exact absurd split (splitWhere_ne_nil p as)
        | cons first rest =>
            rw [split] at member ih
            rcases List.mem_cons.1 member with rfl | later
            · exact List.forall_mem_cons.2 ⟨by simpa using h, ih List.mem_cons_self⟩
            · exact ih (List.mem_cons_of_mem _ later)

/-- A text is cut into the pieces without separators that it is joined from. -/
theorem splitWhere_eq_iff {sep : Char} {cs : List Char} {pieces : List (List Char)} :
    splitWhere (· == sep) cs = pieces ↔
      pieces ≠ [] ∧ (∀ piece ∈ pieces, sep ∉ piece) ∧ cs = [sep].intercalate pieces := by
  constructor
  · rintro rfl
    refine ⟨splitWhere_ne_nil _ cs, fun piece member inside => ?_, (intercalate_splitWhere sep cs).symm⟩
    simpa using eq_false_of_mem_splitWhere member sep inside
  · rintro ⟨some, plain, rfl⟩
    exact splitWhere_intercalate some plain

theorem mem_intercalate {sep c : Char} {piece : List Char} {pieces : List (List Char)}
    (member : piece ∈ pieces) (inside : c ∈ piece) : c ∈ [sep].intercalate pieces := by
  induction pieces with
  | nil => cases member
  | cons first rest ih =>
      cases rest with
      | nil =>
          rw [List.mem_singleton.1 member] at inside
          simpa [List.intercalate] using inside
      | cons second rest =>
          rw [List.intercalate_cons_cons, List.mem_append]
          rcases List.mem_cons.1 member with rfl | later
          · exact .inl (List.mem_append_left _ inside)
          · exact .inr (ih later)

theorem forall_of_splitWhere {P : α → Prop} (cut : ∀ a, p a = true → P a)
    (pieces : ∀ piece ∈ splitWhere p as, ∀ a ∈ piece, P a) : ∀ a ∈ as, P a := by
  induction as with
  | nil => nofun
  | cons a as ih =>
      rw [splitWhere] at pieces
      by_cases h : p a
      · rw [if_pos h] at pieces
        exact List.forall_mem_cons.2 ⟨cut a h, ih (List.forall_mem_cons.1 pieces).2⟩
      · rw [if_neg h] at pieces
        cases split : splitWhere p as with
        | nil => exact absurd split (splitWhere_ne_nil p as)
        | cons piece rest =>
            rw [split] at pieces ih
            obtain ⟨first, others⟩ := List.forall_mem_cons.1 pieces
            obtain ⟨here, tail⟩ := List.forall_mem_cons.1 first
            exact List.forall_mem_cons.2 ⟨here, ih (List.forall_mem_cons.2 ⟨tail, others⟩)⟩

/-! ## Pieces of one kind -/

def Joined (sep : Char) (P : List Char → Prop) (n : Nat) (cs : List Char) : Prop :=
  ∃ pieces, pieces.length = n ∧ (∀ piece ∈ pieces, P piece) ∧ cs = [sep].intercalate pieces

variable {sep : Char} {P : List Char → Prop} {n : Nat} {cs : List Char}

theorem joined_zero_iff : Joined sep P 0 cs ↔ cs = [] := by
  constructor
  · rintro ⟨pieces, none, -, rfl⟩
    rw [List.length_eq_zero_iff.1 none]
    rfl
  · rintro rfl
    exact ⟨[], rfl, nofun, rfl⟩

theorem joined_iff (plain : ∀ piece, P piece → sep ∉ piece) (some : n ≠ 0) : Joined sep P n cs ↔
    (splitWhere (· == sep) cs).length = n ∧ ∀ piece ∈ splitWhere (· == sep) cs, P piece := by
  constructor
  · rintro ⟨pieces, rfl, fine, whole⟩
    have filled : pieces ≠ [] := fun none => some (by rw [none, List.length_nil])
    rw [splitWhere_eq_iff.2 ⟨filled, fun piece member => plain piece (fine piece member), whole⟩]
    exact ⟨rfl, fine⟩
  · exact fun ⟨number, fine⟩ => ⟨_, number, fine, (intercalate_splitWhere sep cs).symm⟩

end GatewayTunnel.Text
