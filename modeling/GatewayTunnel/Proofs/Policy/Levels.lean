import GatewayTunnel.Policy
import GatewayTunnel.Proofs.Bytes.Order
import GatewayTunnel.Proofs.Text.Numerals
import Mathlib.Data.String.Basic

namespace GatewayTunnel.PolicyTable

variable {t : PolicyTable} {levels : List (String × LevelPolicy)} {key : String} {n : UInt32}

def Names (key : String) (n : UInt32) : Prop :=
  Text.Numeral.IsNumeral (Text.trimmed key.toList) n.toNat

theorem levelOfKey?_eq_some_iff : levelOfKey? key = some n ↔ Names key n := by
  rw [levelOfKey?, Option.map_eq_some_iff, Names]
  constructor
  · rintro ⟨m, read, rfl⟩
    obtain ⟨numeral, small⟩ := Text.Numeral.read_eq_some_iff.1 read
    rwa [UInt32.toNat_ofNat_of_lt' (Nat.lt_succ_of_le small)]
  · intro numeral
    exact ⟨n.toNat, Text.Numeral.read_eq_some_iff.2 ⟨numeral, Nat.le_of_lt_succ n.toNat_lt⟩,
      UInt32.ofNat_toNat⟩

theorem levelOfKey?_eq_none_iff : levelOfKey? key = none ↔ ∀ n, ¬Names key n := by
  simp only [← levelOfKey?_eq_some_iff, Option.eq_none_iff_forall_ne_some, ne_eq]

theorem invalidLevels_perm_filter (t : PolicyTable) : t.invalidLevels.Perm
    ((t.levels.map (·.1)).filter fun key => (levelOfKey? key).isNone) :=
  List.mergeSort_perm ..

theorem mem_invalidLevels : key ∈ t.invalidLevels ↔
    key ∈ t.levels.map (·.1) ∧ ∀ n, ¬Names key n := by
  rw [(invalidLevels_perm_filter t).mem_iff, List.mem_filter, Option.isNone_iff_eq_none,
    levelOfKey?_eq_none_iff]

theorem pairwise_invalidLevels (t : PolicyTable) : t.invalidLevels.Pairwise (· ≤ ·) := by
  have sorted : t.invalidLevels.Pairwise fun a b => decide (a ≤ b) = true :=
    List.pairwise_mergeSort (fun a b c => by simpa using le_trans) (fun a b => by simpa using le_total a b) _
  exact sorted.imp of_decide_eq_true

theorem invalidLevels_perm (order : levels.Perm t.levels) :
    invalidLevels ⟨levels⟩ = t.invalidLevels := by
  have keys : ((levels.map (·.1)).filter fun key => (levelOfKey? key).isNone).Perm
      ((t.levels.map (·.1)).filter fun key => (levelOfKey? key).isNone) := (order.map _).filter _
  exact List.Perm.eq_of_pairwise (fun a b _ _ => le_antisymm) (pairwise_invalidLevels _)
    (pairwise_invalidLevels t)
    ((invalidLevels_perm_filter _).trans (keys.trans (invalidLevels_perm_filter t).symm))

def IsLeastInvalid (t : PolicyTable) (key : String) : Prop :=
  (key ∈ t.levels.map (·.1) ∧ ∀ n, ¬Names key n) ∧
    ∀ other ∈ t.levels.map (·.1), (∀ n, ¬Names other n) → Bytes.ofString key ≤ Bytes.ofString other

instance (t : PolicyTable) (key : String) : Decidable (t.IsLeastInvalid key) :=
  decidable_of_iff ((key ∈ t.levels.map Prod.fst ∧ levelOfKey? key = none) ∧
      ∀ other ∈ t.levels.map Prod.fst, levelOfKey? other = none →
        Bytes.ofString key ≤ Bytes.ofString other)
    (by simp only [levelOfKey?_eq_none_iff, IsLeastInvalid])

theorem isLeastInvalid_iff : t.IsLeastInvalid key ↔ ∃ rest, t.invalidLevels = key :: rest := by
  simp only [IsLeastInvalid, Bytes.ofString_le_iff, ← and_imp, ← mem_invalidLevels]
  have sorted := pairwise_invalidLevels t
  cases list : t.invalidLevels with
  | nil => simp
  | cons first rest =>
      rw [list] at sorted
      have least := (List.pairwise_cons.1 sorted).1
      constructor
      · rintro ⟨member, below⟩
        rcases List.mem_cons.1 member with rfl | later
        · exact ⟨rest, rfl⟩
        · rw [le_antisymm (below first List.mem_cons_self) (least key later)]
          exact ⟨rest, rfl⟩
      · rintro ⟨_, ⟨⟩⟩
        exact ⟨List.mem_cons_self, List.forall_mem_cons.2 ⟨le_refl _, least⟩⟩

theorem invalidLevels_eq_nil_iff : t.invalidLevels = [] ↔ ∀ entry ∈ t.levels, ∃ n, Names entry.1 n := by
  simp only [List.eq_nil_iff_forall_not_mem, mem_invalidLevels, List.mem_map]
  constructor
  · intro named entry member
    by_contra unnamed
    exact named entry.1 ⟨⟨entry, member, rfl⟩, not_exists.1 unnamed⟩
  · rintro named _ ⟨⟨entry, member, rfl⟩, unnamed⟩
    obtain ⟨n, name⟩ := named entry member
    exact unnamed n name

end GatewayTunnel.PolicyTable
