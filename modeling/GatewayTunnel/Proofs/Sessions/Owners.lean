import GatewayTunnel.Proofs.Tokens

namespace GatewayTunnel.Sessions

abbrev Owner := TokenId × Option TokenId

variable {ts : Tokens} {owners : List Owner} {i j : Nat} {t u caller : TokenId} {own : Option TokenId}

def ownAt (owners : List Owner) (i : Nat) : Option TokenId :=
  owners[i]?.bind Prod.snd

def Free (ts : Tokens) (owners : List Owner) (t : TokenId) : Prop :=
  t < ts.count ∧ ∀ i, ownAt owners i ≠ some t

structure Owned (ts : Tokens) (owners : List Owner) : Prop where
  closed : ∀ t < ts.count, ∀ u ∈ ts.line t, u < ts.count
  callers : ∀ x ∈ owners, Free ts owners x.1
  made : ∀ i t, ownAt owners i = some t → t < ts.count
  line : ∀ x ∈ owners, ∀ t, x.2 = some t → ts.line t = t :: ts.line x.1
  alone : ∀ i t, ownAt owners i = some t → ∀ u < ts.count, t ∈ ts.line u → u = t
  distinct : ∀ i j t, ownAt owners i = some t → ownAt owners j = some t → i = j

theorem ownAt_append : ownAt (owners ++ [(caller, none)]) i = ownAt owners i := by
  unfold ownAt
  rcases Nat.lt_trichotomy i owners.length with inside | rfl | outside
  · rw [List.getElem?_append_left inside]
  · rw [List.getElem?_concat_length, List.getElem?_eq_none (Nat.le_refl _)]
    rfl
  · rw [List.getElem?_eq_none, List.getElem?_eq_none (Nat.le_of_lt outside)]
    simpa using Nat.succ_le_of_lt outside

theorem ownAt_set (owned : ownAt (owners.set i (caller, some t)) j = some u) :
    (j = i ∧ u = t) ∨ ownAt owners j = some u := by
  unfold ownAt at owned
  by_cases same : i = j
  · subst same
    obtain ⟨x, there, new⟩ := Option.bind_eq_some_iff.1 owned
    rw [List.getElem?_set_self'] at there
    obtain ⟨_, _, rfl⟩ := Option.map_eq_some_iff.1 there
    exact .inl ⟨rfl, (Option.some.inj new).symm⟩
  · rw [List.getElem?_set_ne same] at owned
    exact .inr owned

namespace Free

theorem child (free : Free ts owners t) : Free (ts.child u) owners t :=
  ⟨by simpa using Nat.lt_succ_of_lt free.1, free.2⟩

theorem append (free : Free ts owners t) : Free ts (owners ++ [(caller, none)]) t :=
  ⟨free.1, fun i => by rw [ownAt_append]; exact free.2 i⟩

end Free

namespace Owned

theorem lone : Owned .lone [] where
  closed := by decide
  callers := nofun
  made := nofun
  line := nofun
  alone := nofun
  distinct := nofun

theorem cancel (owned : Owned ts owners) : Owned (ts.cancel t) owners := by
  obtain ⟨closed, callers, made, line, alone, distinct⟩ := owned
  refine ⟨?_, fun x member => ?_, ?_, ?_, ?_, distinct⟩
  · simpa using closed
  · simpa [Free] using callers x member
  · simpa using made
  · simpa using line
  · simpa using alone

theorem append (owned : Owned ts owners) (free : Free ts owners caller) :
    Owned ts (owners ++ [(caller, none)]) where
  closed := owned.closed
  callers := by
    refine List.forall_mem_append.2 ⟨fun x member => (owned.callers x member).append, ?_⟩
    exact List.forall_mem_singleton.2 free.append
  made i t own := owned.made i t (ownAt_append ▸ own)
  line := by
    refine List.forall_mem_append.2 ⟨owned.line, ?_⟩
    exact List.forall_mem_singleton.2 nofun
  alone i t own := owned.alone i t (ownAt_append ▸ own)
  distinct i j t first second := owned.distinct i j t (ownAt_append ▸ first) (ownAt_append ▸ second)

theorem closed_child (owned : Owned ts owners) (made : t < ts.count) :
    ∀ u < (ts.child t).count, ∀ v ∈ (ts.child t).line u, v < (ts.child t).count := by
  intro u inside v member
  rw [Tokens.count_child]
  rcases Tokens.line_child_cases inside with ⟨old, line⟩ | ⟨rfl, line⟩ <;> rw [line] at member
  · exact Nat.lt_succ_of_lt (owned.closed u old v member)
  · rcases List.mem_cons.1 member with rfl | above
    · exact Nat.lt_succ_self _
    · exact Nat.lt_succ_of_lt (owned.closed t made v above)

theorem alone_child (owned : Owned ts owners) (free : Free ts owners t)
    (own : ownAt owners i = some u) :
    ∀ v < (ts.child t).count, u ∈ (ts.child t).line v → v = u := by
  intro v inside member
  rcases Tokens.line_child_cases inside with ⟨old, line⟩ | ⟨rfl, line⟩ <;> rw [line] at member
  · exact owned.alone i u own v old member
  · rcases List.mem_cons.1 member with rfl | above
    · rfl
    · obtain rfl := owned.alone i u own t free.1 above
      exact absurd own (free.2 i)

theorem line_of_child (owned : Owned ts owners) : ∀ x ∈ owners, ∀ u, x.2 = some u →
    (ts.child t).line u = u :: (ts.child t).line x.1 := by
  intro x member u own
  obtain ⟨i, there⟩ := List.getElem?_of_mem member
  have made : u < ts.count := owned.made i u (by rw [ownAt, there]; exact own)
  rw [Tokens.line_child made, Tokens.line_child (owned.callers x member).1, owned.line x member u own]

theorem child (owned : Owned ts owners) (free : Free ts owners t) : Owned (ts.child t) owners where
  closed := owned.closed_child free.1
  callers x member := (owned.callers x member).child
  made i u own := by simpa using Nat.lt_succ_of_lt (owned.made i u own)
  line := owned.line_of_child
  alone _ _ := owned.alone_child free
  distinct := owned.distinct

theorem adopt (owned : Owned ts owners) (there : owners[i]? = some (caller, own)) :
    Owned (ts.child caller) (owners.set i (caller, some ts.count)) := by
  have member : (caller, own) ∈ owners := List.mem_of_getElem? there
  have free : Free ts owners caller := owned.callers _ member
  have child := owned.child free
  have kept : ∀ x ∈ owners, Free (ts.child caller) (owners.set i (caller, some ts.count)) x.1 := by
    refine fun x member => ⟨(child.callers x member).1, fun j own => ?_⟩
    rcases ownAt_set own with ⟨-, new⟩ | old
    · exact Nat.ne_of_lt (owned.callers x member).1 new
    · exact (owned.callers x member).2 j old
  refine ⟨child.closed, fun x member => ?_, fun j u own => ?_, fun x member u own => ?_,
    fun j u own v inside above => ?_, fun j k u first second => ?_⟩
  · rcases List.mem_or_eq_of_mem_set member with old | rfl
    · exact kept x old
    · exact kept (caller, own) ‹_›
  · rcases ownAt_set own with ⟨-, rfl⟩ | old
    · simp
    · exact child.made j u old
  · rcases List.mem_or_eq_of_mem_set member with old | rfl
    · exact child.line x old u own
    · cases own
      rw [Tokens.line_child_new, Tokens.line_child free.1]
  · rcases ownAt_set own with ⟨-, rfl⟩ | old
    -- The new token is above none of those that were there.
    · rcases Tokens.line_child_cases inside with ⟨old, line⟩ | ⟨new, -⟩
      · rw [line] at above
        exact absurd (owned.closed v old _ above) (Nat.lt_irrefl _)
      · exact new
    · exact child.alone j u old v inside above
  · have fresh : ∀ l, ownAt owners l ≠ some ts.count :=
      fun l own => Nat.lt_irrefl _ (owned.made l _ own)
    rcases ownAt_set first with ⟨rfl, rfl⟩ | old
    · rcases ownAt_set second with ⟨rfl, -⟩ | old
      · rfl
      · exact absurd old (fresh k)
    · rcases ownAt_set second with ⟨-, rfl⟩ | old'
      · exact absurd old (fresh j)
      · exact owned.distinct j k u old old'

end Owned

end GatewayTunnel.Sessions
