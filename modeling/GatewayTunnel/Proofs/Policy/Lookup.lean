import GatewayTunnel.Policy
import GatewayTunnel.Proofs.Entries
import Mathlib.Data.List.Induction

namespace GatewayTunnel

variable {entry : String × LevelPolicy} {levels : List (String × LevelPolicy)} {n : UInt32}

namespace PolicyTable

def Apart (a b : String × LevelPolicy) : Prop :=
  ∀ n, levelOfKey? a.1 = some n → levelOfKey? b.1 ≠ some n

theorem apart_iff {a b : String × LevelPolicy} :
    Apart a b ↔ levelOfKey? a.1 = none ∨ levelOfKey? a.1 ≠ levelOfKey? b.1 := by
  unfold Apart
  cases levelOfKey? a.1 with
  | none => simp
  | some n => simp [eq_comm]

instance (a b : String × LevelPolicy) : Decidable (Apart a b) :=
  decidable_of_iff _ apart_iff.symm

theorem Apart.symm {a b : String × LevelPolicy} (apart : Apart a b) : Apart b a :=
  fun n second first => apart n first second

def Distinct (t : PolicyTable) : Prop :=
  t.levels.Pairwise Apart

instance (t : PolicyTable) : Decidable t.Distinct :=
  inferInstanceAs (Decidable (t.levels.Pairwise Apart))

theorem Distinct.perm {t : PolicyTable} (distinct : t.Distinct) (order : levels.Perm t.levels) :
    Distinct ⟨levels⟩ :=
  (order.pairwise_iff Apart.symm).2 distinct

end PolicyTable

namespace Policies

open PolicyTable (levelOfKey? Distinct)

variable {level : UInt32}

theorem forLevel_withLevel (ps : Policies) (level : UInt32) (policy : SessionPolicy) (n : UInt32) :
    (ps.withLevel level policy).forLevel n = if level = n then policy else ps.forLevel n := by
  unfold forLevel withLevel
  rw [lookup_replaced]
  split <;> rfl

theorem ofTable_concat (levels : List (String × LevelPolicy)) (entry : String × LevelPolicy) :
    ofTable ⟨levels ++ [entry]⟩ = match levelOfKey? entry.1 with
      | some n => (ofTable ⟨levels⟩).withLevel n entry.2.toSession
      | none => ofTable ⟨levels⟩ := by
  simp only [ofTable, List.foldl_append]
  rfl

theorem forLevel_ofTable_concat (levels : List (String × LevelPolicy)) (entry : String × LevelPolicy)
    (n : UInt32) : (ofTable ⟨levels ++ [entry]⟩).forLevel n =
      if levelOfKey? entry.1 = some n then entry.2.toSession else (ofTable ⟨levels⟩).forLevel n := by
  rw [ofTable_concat]
  cases named : levelOfKey? entry.1 with
  | none => simp
  | some m => simp [forLevel_withLevel]

theorem forLevel_ofTable_of_not_named (unnamed : ∀ entry ∈ levels, levelOfKey? entry.1 ≠ some n) :
    (ofTable ⟨levels⟩).forLevel n = .standard := by
  induction levels using List.reverseRecOn with
  | nil => rfl
  | append_singleton levels entry ih =>
      rw [forLevel_ofTable_concat, if_neg (unnamed entry (by simp))]
      exact ih fun entry' member => unnamed entry' (List.mem_append_left _ member)

theorem forLevel_ofTable_of_named (distinct : Distinct ⟨levels⟩) (member : entry ∈ levels)
    (named : levelOfKey? entry.1 = some n) :
    (ofTable ⟨levels⟩).forLevel n = entry.2.toSession := by
  induction levels using List.reverseRecOn with
  | nil => cases member
  | append_singleton levels last ih =>
      obtain ⟨inner, -, apart⟩ := List.pairwise_append.1 distinct
      rw [forLevel_ofTable_concat]
      rcases List.mem_append.1 member with earlier | equal
      · rw [if_neg (apart entry earlier last (List.mem_singleton_self last) n named)]
        exact ih inner earlier
      · rw [← List.mem_singleton.1 equal, if_pos named]

end Policies

end GatewayTunnel
