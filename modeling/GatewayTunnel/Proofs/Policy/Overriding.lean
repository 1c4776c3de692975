import GatewayTunnel.Proofs.Config.Verdict
import GatewayTunnel.Proofs.Policy.Lookup

namespace GatewayTunnel

def Duration.IsSecs (d : Duration) (n : UInt64) : Prop :=
  d.secs = n.toNat ∧ d.nanos = 0

def LevelPolicy.Gives (level : LevelPolicy) (p : SessionPolicy) : Prop :=
  p.connectionIdle.IsSecs level.connectionIdleSecs ∧ p.uplinkOnly.IsSecs level.uplinkOnlySecs ∧
    p.downlinkOnly.IsSecs level.downlinkOnlySecs

theorem Duration.isSecs_iff {d : Duration} {n : UInt64} : d.IsSecs n ↔ ofSecs n.toNat = d := by
  have fits : n.toNat + 0 / nanosPerSec < secsLimit := n.toNat_lt
  rw [ofSecs, ofParts, dif_pos fits, Duration.ext_iff, IsSecs, eq_comm, @eq_comm _ d.nanos]
  rfl

theorem LevelPolicy.gives_iff {level : LevelPolicy} {p : SessionPolicy} :
    level.Gives p ↔ level.toSession = p := by
  obtain ⟨idle, up, down⟩ := p
  simp only [Gives, Duration.isSecs_iff, toSession, SessionPolicy.mk.injEq]

namespace Policies

open PolicyTable (levelOfKey? Names Distinct levelOfKey?_eq_some_iff levelOfKey?_eq_none_iff)

variable {t : PolicyTable} {levels : List (String × LevelPolicy)} {ps : Policies}
  {overrides : List (UInt32 × SessionPolicy)} {key : String} {n : UInt32} {p : SessionPolicy}

def withLevels (ps : Policies) (overrides : List (UInt32 × SessionPolicy)) : Policies :=
  overrides.foldl (fun ps override => ps.withLevel override.1 override.2) ps

/-- The policy that a level has: the last that it was given, or else what the table has for it, or else 300
seconds, and one for either direction. -/
inductive Governs (t : PolicyTable) (overrides : List (UInt32 × SessionPolicy)) (n : UInt32)
    (p : SessionPolicy) : Prop
  | override (before after : List (UInt32 × SessionPolicy)) (split : overrides = before ++ (n, p) :: after)
      (last : ∀ later ∈ after, later.1 ≠ n) : Governs t overrides n p
  | entry (key : String) (level : LevelPolicy) (none : ∀ override ∈ overrides, override.1 ≠ n)
      (member : (key, level) ∈ t.levels) (name : Names key n) (gives : level.Gives p) :
      Governs t overrides n p
  | standard (none : ∀ override ∈ overrides, override.1 ≠ n)
      (unnamed : ∀ entry ∈ t.levels, ¬Names entry.1 n)
      (gives : LevelPolicy.Gives ⟨300, 1, 1⟩ p) : Governs t overrides n p

/-- Whatever a table has under the key, its policies are those of the table without it. -/
def Ignored (key : String) : Prop :=
  ∀ before level after, ofTable ⟨before ++ (key, level) :: after⟩ = ofTable ⟨before ++ after⟩

/-! ## Overrides -/

theorem forLevel_withLevels_of_none (none : ∀ override ∈ overrides, override.1 ≠ n) :
    (ps.withLevels overrides).forLevel n = ps.forLevel n := by
  induction overrides generalizing ps with
  | nil => rfl
  | cons first rest ih =>
      obtain ⟨other, others⟩ := List.forall_mem_cons.1 none
      rw [withLevels, List.foldl_cons, ← withLevels, ih others, forLevel_withLevel, if_neg other]

theorem forLevel_withLevels_of_last (before after : List (UInt32 × SessionPolicy))
    (last : ∀ later ∈ after, later.1 ≠ n) :
    (ps.withLevels (before ++ (n, p) :: after)).forLevel n = p := by
  rw [withLevels, List.foldl_append, List.foldl_cons, ← withLevels, ← withLevels,
    forLevel_withLevels_of_none last, forLevel_withLevel, if_pos rfl]

theorem last_or_none (overrides : List (UInt32 × SessionPolicy)) (n : UInt32) :
    (∃ before p after, overrides = before ++ (n, p) :: after ∧ ∀ later ∈ after, later.1 ≠ n) ∨
      ∀ override ∈ overrides, override.1 ≠ n := by
  induction overrides with
  | nil => exact .inr nofun
  | cons first rest ih =>
      rcases ih with ⟨before, p, after, rfl, last⟩ | none
      · exact .inl ⟨first :: before, p, after, rfl, last⟩
      · obtain ⟨level, p⟩ := first
        by_cases same : level = n
        · exact .inl ⟨[], p, rest, by rw [same]; rfl, none⟩
        · exact .inr (List.forall_mem_cons.2 ⟨same, none⟩)

theorem forLevel_iff (distinct : t.Distinct) (order : levels.Perm t.levels) :
    ((ofTable ⟨levels⟩).withLevels overrides).forLevel n = p ↔ Governs t overrides n p := by
  have named : ∀ {key level}, (key, level) ∈ t.levels → Names key n →
      (ofTable ⟨levels⟩).forLevel n = level.toSession := fun member name =>
    forLevel_ofTable_of_named (distinct.perm order) (order.mem_iff.2 member)
      (levelOfKey?_eq_some_iff.2 name)
  have unnamed : (∀ entry ∈ t.levels, ¬Names entry.1 n) →
      (ofTable ⟨levels⟩).forLevel n = .standard := fun unnamed =>
    forLevel_ofTable_of_not_named fun entry member name =>
      unnamed entry (order.mem_iff.1 member) (levelOfKey?_eq_some_iff.1 name)
  constructor
  · rintro rfl
    rcases last_or_none overrides n with ⟨before, p, after, rfl, last⟩ | none
    · rw [forLevel_withLevels_of_last before after last]
      exact .override before after rfl last
    · rw [forLevel_withLevels_of_none none]
      by_cases found : ∃ entry ∈ t.levels, Names entry.1 n
      · obtain ⟨⟨key, level⟩, member, name⟩ := found
        exact .entry key level none member name (LevelPolicy.gives_iff.2 (named member name).symm)
      · have unfound : ∀ entry ∈ t.levels, ¬Names entry.1 n := by simpa using found
        exact .standard none unfound (LevelPolicy.gives_iff.2 (unnamed unfound).symm)
  · intro governs
    cases governs with
    | override before after split last =>
        rw [split]
        exact forLevel_withLevels_of_last before after last
    | entry key level none member name gives =>
        rw [forLevel_withLevels_of_none none, named member name]
        exact LevelPolicy.gives_iff.1 gives
    | standard none unfound gives =>
        rw [forLevel_withLevels_of_none none, unnamed unfound]
        exact LevelPolicy.gives_iff.1 gives

/-! ## Keys that make no difference -/

theorem ignored_iff : Ignored key ↔ levelOfKey? key = none := by
  constructor
  · intro ignored
    by_contra named
    obtain ⟨n, name⟩ := Option.ne_none_iff_exists'.1 named
    -- A level without time is not the default, so this entry shows.
    have given := forLevel_ofTable_concat [] (key, ⟨0, 0, 0⟩) n
    rw [List.nil_append, if_pos name] at given
    have same := ignored [] ⟨0, 0, 0⟩ []
    rw [List.nil_append] at same
    rw [same] at given
    have equal : SessionPolicy.standard = LevelPolicy.toSession ⟨0, 0, 0⟩ := given
    exact absurd equal (by decide)
  · intro none before level after
    simp only [ofTable, List.foldl_append, List.foldl_cons, none]

instance (key : String) : Decidable (Ignored key) :=
  decidable_of_iff (levelOfKey? key = none) ignored_iff.symm

theorem invalidLevels_perm_ignored (t : PolicyTable) :
    t.invalidLevels.Perm ((t.levels.map (·.1)).filter fun key => Ignored key) := by
  have same : (fun key => decide (Ignored key)) = fun key => (levelOfKey? key).isNone := by
    funext key
    rw [Bool.eq_iff_iff, decide_eq_true_eq, ignored_iff, Option.isNone_iff_eq_none]
  rw [same]
  exact PolicyTable.invalidLevels_perm_filter t

/-- Of a table whose keys name different levels, taken in any order, and of any overrides, every level has
the policy that governs it. The keys of the table that make no difference are those that are listed as
naming no level, in the order of their bytes; settings that passed have none, so every entry counts. -/
theorem levels_resolved (distinct : t.Distinct) (order : levels.Perm t.levels)
    (overrides : List (UInt32 × SessionPolicy)) :
    (∀ n p, ((ofTable ⟨levels⟩).withLevels overrides).forLevel n = p ↔ Governs t overrides n p) ∧
    (t.invalidLevels.Perm ((t.levels.map (·.1)).filter fun key => Ignored key) ∧
      (t.invalidLevels.Pairwise fun a b => Bytes.ofString a ≤ Bytes.ofString b) ∧
      PolicyTable.invalidLevels ⟨levels⟩ = t.invalidLevels) ∧
    ∀ s : Config.Settings, s.policy = t → s.validate = .ok () → t.invalidLevels = [] ∧
      ∀ entry ∈ t.levels, ∃ n, Names entry.1 n ∧ entry.2.Gives ((ofTable ⟨levels⟩).forLevel n) := by
  refine ⟨fun n p => forLevel_iff distinct order, ⟨invalidLevels_perm_ignored t, ?_,
    PolicyTable.invalidLevels_perm order⟩, ?_⟩
  · exact (PolicyTable.pairwise_invalidLevels t).imp Bytes.ofString_le_iff.2
  · rintro s rfl valid
    have named := (Config.Settings.validate_eq_ok_iff_fit.1 valid).2.1
    refine ⟨PolicyTable.invalidLevels_eq_nil_iff.2 named, fun entry member => ?_⟩
    obtain ⟨n, name⟩ := named entry member
    refine ⟨n, name, LevelPolicy.gives_iff.2 ?_⟩
    exact (forLevel_ofTable_of_named (distinct.perm order) (order.mem_iff.2 member)
      (levelOfKey?_eq_some_iff.2 name)).symm

def ranks : PolicyTable :=
  ⟨[(" +07", ⟨60, 5, 2⟩), ("gold", ⟨1, 2, 3⟩), ("8", ⟨9, 9, 9⟩)]⟩

def numbered : Config.Settings :=
  ⟨⟨"10.0.0.5", 22, "", none, none, "", 7⟩, .standard, ⟨[(" +07", ⟨60, 5, 2⟩)]⟩, []⟩

/-- Level 8 has the last of its overrides, level 7 what the table has for it, and level 9 the default. -/
theorem levels_resolved_ranks : ranks.Distinct ∧ ranks.levels.reverse.Perm ranks.levels ∧
    [7, 8, 9].map ((ofTable ⟨ranks.levels.reverse⟩).withLevels
      [(8, .standard), (10, .standard), (8, LevelPolicy.toSession ⟨4, 4, 4⟩)]).forLevel =
      [LevelPolicy.toSession ⟨60, 5, 2⟩, LevelPolicy.toSession ⟨4, 4, 4⟩,
        LevelPolicy.toSession ⟨300, 1, 1⟩] ∧
    numbered.validate = .ok () ∧
    ∃ n, Names " +07" n ∧ LevelPolicy.Gives ⟨60, 5, 2⟩ ((ofTable numbered.policy).forLevel n) := by
  have distinct : ranks.Distinct := by decide
  have order := List.reverse_perm ranks.levels
  obtain ⟨governs, -⟩ := levels_resolved distinct order
    [(8, .standard), (10, .standard), (8, LevelPolicy.toSession ⟨4, 4, 4⟩)]
  have seven := (governs 7 (LevelPolicy.toSession ⟨60, 5, 2⟩)).2
    (.entry " +07" ⟨60, 5, 2⟩ (by decide) (by decide) (levelOfKey?_eq_some_iff.1 (by decide))
      (LevelPolicy.gives_iff.2 rfl))
  have eight := (governs 8 (LevelPolicy.toSession ⟨4, 4, 4⟩)).2
    (.override [(8, .standard), (10, .standard)] [] rfl nofun)
  have nine := (governs 9 (LevelPolicy.toSession ⟨300, 1, 1⟩)).2
    (.standard (by decide) (by simp only [← levelOfKey?_eq_some_iff]; decide)
      (LevelPolicy.gives_iff.2 rfl))
  have valid : numbered.validate = .ok () := by decide +kernel
  have kept := levels_resolved (t := numbered.policy) (by decide) (.refl _) []
  refine ⟨distinct, order, ?_, valid, ?_⟩
  · rw [List.map_cons, List.map_cons, List.map_cons, List.map_nil, seven, eight, nine]
  · exact (kept.2.2 numbered rfl valid).2 (" +07", ⟨60, 5, 2⟩) List.mem_cons_self

end Policies

end GatewayTunnel
