import GatewayTunnel.Proofs.Sessions.Transition

namespace GatewayTunnel.Sessions

variable {g : String} {s s' : State} {now i : Nat} {a : Action} {as : List (Nat × Action)}
  {x y : Session} {before after : Tokens} {t : TokenId} {es : List Transport.Event}

structure Told (ts : Tokens) (x : Session) : Prop where
  heard : x.relay.cancelled = ts.isCancelled x.caller
  has : x.token.isSome = x.relay.relay.copies?.isSome
  own : ∀ t, x.token = some t → ts.isCancelled t = x.relay.relay.stopped
  stops : x.relay.relay.StopsAtEnd

theorem Told.frame (told : Told before x)
    (caller : after.isCancelled x.caller = before.isCancelled x.caller)
    (own : ∀ t, x.token = some t → after.isCancelled t = before.isCancelled t) : Told after x :=
  ⟨told.heard.trans caller.symm, told.has, fun t same => (own t same).trans (told.own t same),
    told.stops⟩

theorem Told.become {e : Relay.Event} {relay : Relay.State} (told : Told s.tokens x)
    (owned : Owned s.tokens s.owners) (there : s.sessions[i]? = some x)
    (cancels : e.isCancel = false) (moved : Relay.step x.policy x.relay now e = some relay)
    (became : Became x relay s.tokens y after) : Told after y := by
  have change := Relay.Change.of_step moved
  have stops := change.stopsAtEnd told.stops
  have free := owned.caller (List.mem_of_getElem? there)
  have still : relay.cancelled = x.relay.cancelled := by
    rw [Relay.cancelled_step moved, cancels, Bool.or_false]
  have heard : relay.cancelled = after.isCancelled x.caller := by
    rw [became.isCancelled owned there free.1 (became.token_ne there free), still, told.heard]
  cases became with
  | closed absent =>
      have had : x.token.isSome = false := by
        rw [told.has]
        refine eq_false_of_ne_true fun had => ?_
        have has := change.copies?_isSome had
        rw [absent] at has
        cases has
      refine ⟨heard, by rw [had, absent]; rfl, fun t own => ?_, stops⟩
      rw [own] at had
      cases had
  | @kept t has own =>
      refine ⟨heard, by rw [own, has]; rfl, fun u same => ?_, stops⟩
      obtain rfl : t = u := Option.some.inj (own.symm.trans same)
      have made : t < s.tokens.count := owned.made i t (State.ownAt_of_mem there own)
      rw [Tokens.isCancelled_ite made, told.own t own]
      exact Bool.or_eq_right_iff_imp.2 change.stopped
  | made has own =>
      refine ⟨heard, has.symm, fun u same => ?_, stops⟩
      cases same
      rw [Tokens.isCancelled_ite (by simp), Tokens.isCancelled_child_new, ← told.heard]
      -- the channel may have been opened for a caller who had given up
      refine Bool.or_eq_right_iff_imp.2 fun given => ?_
      rw [given] at change
      refine change.stopped_of_opened ?_ has
      rw [← Option.not_isSome_iff_eq_none, ← told.has, own]
      exact Bool.false_ne_true

/-! ## What a session hears -/

theorem Session.hear_cases (h : x.hear now before after = some y) :
    (after.isCancelled x.caller = true ∧ before.isCancelled x.caller = false ∧
      ∃ relay, Relay.step x.policy x.relay now .cancel = some relay ∧ y = { x with relay }) ∨
    ((after.isCancelled x.caller = true → before.isCancelled x.caller = true) ∧ x = y) := by
  unfold hear at h
  split at h
  · rename_i told
    simp only [Bool.and_eq_true, Bool.not_eq_true'] at told
    obtain ⟨relay, moved, rfl⟩ := Option.map_eq_some_iff.1 h
    exact .inl ⟨told.1, told.2, relay, moved, rfl⟩
  · rename_i untold
    cases h
    exact .inr ⟨by simpa using untold, rfl⟩

theorem Told.hear (told : Told s.tokens x) (owned : Owned s.tokens s.owners)
    (member : x ∈ s.sessions) (free : Free s.tokens s.owners t)
    (h : x.hear now s.tokens (s.tokens.cancel t) = some y) : Told (s.tokens.cancel t) y := by
  have line {u : TokenId} (own : x.token = some u) :
      s.tokens.line u = u :: s.tokens.line x.caller :=
    owned.line (x.caller, x.token) (List.mem_map.2 ⟨x, member, rfl⟩) u own
  have own {u : TokenId} (own : x.token = some u) : (s.tokens.cancel t).isCancelled u =
      (s.tokens.isCancelled u || decide (t ∈ s.tokens.line x.caller)) := by
    have other : t ≠ u := by
      obtain ⟨i, there⟩ := List.getElem?_of_mem member
      rintro rfl
      exact free.2 i (State.ownAt_of_mem there own)
    rw [Tokens.isCancelled_cancel free.1, line own]
    simp [other]
  have caller := Tokens.isCancelled_cancel (u := x.caller) free.1
  rcases Session.hear_cases h with ⟨given, notBefore, relay, moved, rfl⟩ | ⟨before, rfl⟩
  · have change := Relay.Change.of_step moved
    have has : x.token.isSome = relay.relay.copies?.isSome := by
      rw [told.has, change.copies?_of_cancel]
    refine ⟨?_, has, fun u same => ?_, change.stopsAtEnd told.stops⟩
    · rw [Relay.cancelled_step moved, given]
      exact Bool.or_true _
    · rw [notBefore, Bool.false_or, given] at caller
      rw [own same, ← caller, Bool.or_true]
      refine (change.stopped_of_cancel told.stops ?_).symm
      rw [← has, same]
      rfl
  · have same : (s.tokens.isCancelled x.caller || decide (t ∈ s.tokens.line x.caller)) =
        s.tokens.isCancelled x.caller := by
      rw [caller] at before
      cases cancelled : s.tokens.isCancelled x.caller <;> simp_all
    refine told.frame (caller.trans same) fun u given => ?_
    rw [own given, Tokens.isCancelled_of_line (line given), Bool.or_assoc, same]

theorem Session.hear_owner (h : x.hear now before after = some y) :
    y.policy = x.policy ∧ y.caller = x.caller ∧ y.token = x.token := by
  rcases Session.hear_cases h with ⟨-, -, relay, -, rfl⟩ | ⟨-, rfl⟩
  · exact ⟨rfl, rfl, rfl⟩
  · exact ⟨rfl, rfl, rfl⟩

/-! ## Steps -/

theorem State.owners_append : State.owners { s with sessions := s.sessions ++ [x] } =
    s.owners ++ [(x.caller, x.token)] := by
  simp [State.owners]

theorem State.owners_set {tokens : Tokens} :
    State.owners { s with tokens, sessions := s.sessions.set i y } =
      s.owners.set i (y.caller, y.token) := by
  simp [State.owners, List.map_set]

theorem State.owners_hear {tokens : Tokens} {sessions : List Session}
    (heard : s.sessions.map (Session.hear now s.tokens after) = sessions.map some) :
    State.owners { s with tokens, sessions } = s.owners := by
  refine List.ext_getElem? fun i => ?_
  simp only [State.owners, List.getElem?_map, getElem?_of_map_eq heard i]
  cases there : s.sessions[i]? with
  | none => rfl
  | some x =>
      have told : Session.hear now s.tokens after x ∈ sessions.map some :=
        heard ▸ List.mem_map_of_mem (List.mem_of_getElem? there)
      obtain ⟨y, -, hears⟩ := List.mem_map.1 told
      obtain ⟨-, caller, token⟩ := Session.hear_owner hears.symm
      rw [Option.bind_some, ← hears, Option.map_some, Option.map_some, caller, token]

theorem Became.owned (owned : Owned s.tokens s.owners) (there : s.sessions[i]? = some x)
    {relay : Relay.State} (became : Became x relay s.tokens y after) :
    Owned after (s.owners.set i (y.caller, y.token)) := by
  have pair : s.owners[i]? = some (x.caller, x.token) := by
    simp [State.owners, there]
  have same : s.owners.set i (x.caller, x.token) = s.owners := by
    obtain ⟨inside, eq⟩ := List.getElem?_eq_some_iff.1 pair
    rw [← eq, List.set_getElem_self]
  cases became with
  | closed =>
      rw [same]
      exact owned
  | kept =>
      rw [same]
      split
      · exact owned.cancel
      · exact owned
  | made =>
      split
      · exact (owned.adopt pair).cancel
      · exact owned.adopt pair

structure Held (s : State) : Prop where
  owned : Owned s.tokens s.owners
  told : ∀ x ∈ s.sessions, Told s.tokens x

namespace Held

theorem start : Held (.start g) where
  owned := .lone
  told x member := by cases member

theorem told_other {relay : Relay.State} (held : Held s) (there : s.sessions[i]? = some x)
    (became : Became x relay s.tokens y after) {j : Nat} {z : Session}
    (other : s.sessions[j]? = some z) (different : i ≠ j) : Told after z := by
  have member := List.mem_of_getElem? other
  have free := held.owned.caller member
  refine (held.told z member).frame
    (became.isCancelled held.owned there free.1 (became.token_ne there free)) fun t own => ?_
  have ownAt : ownAt s.owners j = some t := State.ownAt_of_mem other own
  refine became.isCancelled held.owned there (held.owned.made j t ownAt) fun same => ?_
  cases became with
  | closed | kept =>
      exact different (held.owned.distinct i j t (State.ownAt_of_mem there same) ownAt)
  | made =>
      cases same
      exact Nat.lt_irrefl _ (held.owned.made j _ ownAt)

theorem step (held : Held s) (h : Transition s now a s' es) : Held s' := by
  have ⟨owned, told⟩ := held
  cases h with
  | @begun p d caller free =>
      refine ⟨State.owners_append ▸ owned.append free, List.forall_mem_append.2 ⟨told, ?_⟩⟩
      refine List.forall_mem_singleton.2 ⟨Relay.cancelled_start, ?_, nofun, ?_⟩
      · rw [Relay.copies?_start]
        rfl
      · exact Relay.stopsAtEnd_of_none Relay.copies?_start
  | @moved i e x y relay tokens there cancels moved became =>
      refine ⟨State.owners_set ▸ became.owned owned there, fun z member => ?_⟩
      obtain ⟨j, place⟩ := List.getElem?_of_mem member
      by_cases same : i = j
      · subst same
        obtain rfl : y = z := by
          rw [List.getElem?_set_self'] at place
          obtain ⟨_, _, rfl⟩ := Option.map_eq_some_iff.1 place
          rfl
        exact (told x (List.mem_of_getElem? there)).become owned there cancels moved became
      · rw [List.getElem?_set_ne same] at place
        exact held.told_other there became place same
  | derived free =>
      refine ⟨owned.child free, fun x member => (told x member).frame ?_ fun u own => ?_⟩
      · exact Tokens.isCancelled_child (owned.caller member).1
      · obtain ⟨i, there⟩ := List.getElem?_of_mem member
        exact Tokens.isCancelled_child (owned.made i u (State.ownAt_of_mem there own))
  | cancelled free heard =>
      refine ⟨State.owners_hear heard ▸ owned.cancel, fun y member => ?_⟩
      have : some y ∈ s.sessions.map _ := heard ▸ List.mem_map_of_mem member
      obtain ⟨x, member, h⟩ := List.mem_map.1 this
      exact (told x member).hear owned member free h
  | transported => exact ⟨owned, told⟩

end Held

/-! ## Who cancels tokens -/

theorem Transition.frame (held : Held s) (h : Transition s now a s' es) : ∃ own,
    Frame s.tokens s'.tokens own ∧
      ∀ t, own = some t → (∃ i, ownAt s'.owners i = some t) ∨ a = .cancel t := by
  cases h with
  | begun | transported => exact ⟨none, .refl, nofun⟩
  | @moved i e x y relay tokens there _ _ became =>
      refine ⟨y.token, became.frame held.owned there, fun t own => .inl ⟨i, ?_⟩⟩
      obtain ⟨inside, -⟩ := List.getElem?_eq_some_iff.1 there
      exact State.ownAt_of_mem (List.getElem?_set_self inside) own
  | derived => exact ⟨none, .child, nofun⟩
  | @cancelled t _ free => exact ⟨some t, .cancel free.1, fun u same => .inr (by cases same; rfl)⟩

theorem Transition.free (h : Transition s now a s' es) (free : Free s'.tokens s'.owners t)
    (made : t < s.tokens.count) : Free s.tokens s.owners t := by
  refine ⟨made, fun i own => free.2 i ?_⟩
  cases h with
  | begun => rwa [State.owners_append, ownAt_append]
  | @moved j e x y relay tokens there _ _ became =>
      rw [State.ownAt_owners] at own ⊢
      by_cases same : j = i
      · subst same
        obtain ⟨inside, -⟩ := List.getElem?_eq_some_iff.1 there
        rw [there, Option.bind_some] at own
        rw [List.getElem?_set_self inside, Option.bind_some]
        cases became with
        | closed | kept => exact own
        | made _ none =>
            rw [none] at own
            cases own
      · rwa [List.getElem?_set_ne same]
  | derived | transported => exact own
  | cancelled _ heard => rwa [State.owners_hear heard]

structure Blamed (as : List (Nat × Action)) (s : State) : Prop where
  stops : ∀ now t, (now, .cancel t) ∈ as → s.tokens.stopped t = true
  cause : ∀ t, Free s.tokens s.owners t → s.tokens.stopped t = true → ∃ now, (now, .cancel t) ∈ as

theorem Blamed.step (blamed : Blamed as s) (held : Held s) (h : Transition s now a s' es) :
    Blamed (as ++ [(now, a)]) s' := by
  obtain ⟨own, frame, owns⟩ := h.frame held
  refine ⟨fun time t member => ?_, fun t free stopped => ?_⟩
  · rcases List.mem_append.1 member with old | new
    · exact frame.still t (blamed.stops time t old)
    · cases List.mem_singleton.1 new
      cases h with
      | cancelled free => simp [Tokens.stopped_cancel free.1]
  · by_cases same : own = some t
    · rcases owns t same with ⟨i, owned⟩ | rfl
      · exact absurd owned (free.2 i)
      · exact ⟨now, by simp⟩
    · rw [frame.stopped t same] at stopped
      have made : t < s.tokens.count := by
        by_contra unmade
        rw [Tokens.stopped_of_le (Nat.le_of_not_lt unmade)] at stopped
        cases stopped
      obtain ⟨time, member⟩ := blamed.cause t (h.free free made) stopped
      exact ⟨time, List.mem_append_left _ member⟩

/-! ## Runs -/

theorem run_iff : run s as = some (s', es) ↔ Reaches step s as s' es :=
  reaches_iff (fun _ => rfl) fun s a as => by
    simp only [run, Option.bind_eq_bind, Option.map_eq_bind]
    rfl

theorem held_of_reached (reached : Reaches step (.start g) as s es) : Held s := by
  induction reached with
  | refl => exact .start
  | snoc before moved ih => exact ih.step (.of_step ih.owned moved)

theorem blamed_of_reached (reached : Reaches step (.start g) as s es) : Blamed as s := by
  induction reached with
  | refl =>
      refine ⟨nofun, fun t _ stopped => ?_⟩
      rw [State.start, Tokens.stopped_lone] at stopped
      cases stopped
  | snoc before moved ih =>
      have held := held_of_reached before
      exact ih.step held (.of_step held.owned moved)

theorem Blamed.isCancelled_iff (blamed : Blamed as s) (held : Held s)
    (free : Free s.tokens s.owners t) : s.tokens.isCancelled t = true ↔
      ∃ u ∈ s.tokens.line t, ∃ now, (now, .cancel u) ∈ as := by
  rw [Tokens.isCancelled_iff]
  refine exists_congr fun u => and_congr_right fun above => ⟨fun stopped => ?_, ?_⟩
  · refine blamed.cause u ⟨held.owned.closed t free.1 u above, fun i own => ?_⟩ stopped
    obtain rfl := held.owned.alone i u own t free.1 above
    exact free.2 i own
  · rintro ⟨now, member⟩
    exact blamed.stops now u member

end GatewayTunnel.Sessions
