import GatewayTunnel.Proofs.Relay.Stopping
import GatewayTunnel.Proofs.Run
import GatewayTunnel.Proofs.Sessions.Owners

namespace GatewayTunnel

theorem mapM_eq_some {α β : Type} {f : α → Option β} {l : List α} {l' : List β} :
    l.mapM f = some l' ↔ l.map f = l'.map some := by
  induction l generalizing l' with
  | nil => cases l' <;> simp
  | cons x l ih =>
      simp only [List.mapM_cons, Option.pure_def, Option.bind_eq_bind, Option.bind_eq_some_iff,
        List.map_cons, Option.some.injEq]
      constructor
      · rintro ⟨y, first, rest, others, rfl⟩
        rw [first, ih.1 others, List.map_cons]
      · intro same
        cases l' with
        | nil => cases same
        | cons y rest =>
            obtain ⟨first, others⟩ := List.cons.inj same
            exact ⟨y, first, rest, ih.2 others, rfl⟩

theorem getElem?_of_map_eq {α β : Type} {f : α → Option β} {l : List α} {l' : List β}
    (h : l.map f = l'.map some) (i : Nat) : l'[i]? = l[i]?.bind f := by
  have same := congrArg (·[i]?) h
  simp only [List.getElem?_map] at same
  cases first : l[i]? <;> cases second : l'[i]? <;> simp_all

namespace Sessions

variable {s s' : State} {now i : Nat} {a : Action} {x y : Session} {relay : Relay.State}
  {before after : Tokens} {t u : TokenId} {own : Option TokenId} {es : List Transport.Event}

def State.owners (s : State) : List Owner :=
  s.sessions.map fun x => (x.caller, x.token)

theorem State.ownAt_owners : ownAt s.owners i = s.sessions[i]?.bind Session.token := by
  rw [ownAt, State.owners, List.getElem?_map]
  cases s.sessions[i]? <;> rfl

theorem State.ownAt_of_mem (there : s.sessions[i]? = some x) (own : x.token = some t) :
    ownAt s.owners i = some t := by
  rw [ownAt_owners, there]
  exact own

theorem State.isFree_iff : s.isFree t = true ↔ Free s.tokens s.owners t := by
  simp only [State.isFree, Bool.and_eq_true, decide_eq_true_iff, List.all_eq_true, Free,
    State.ownAt_owners, ne_eq, Option.bind_eq_some_iff, not_exists, not_and]
  refine and_congr_right fun _ => ⟨fun none i x there => none x (List.mem_of_getElem? there), ?_⟩
  intro none x member
  obtain ⟨i, there⟩ := List.getElem?_of_mem member
  exact none i x there

/-! ## What a session does to the tokens -/

inductive Became (x : Session) (relay : Relay.State) (ts : Tokens) : Session → Tokens → Prop where
  | closed : relay.relay.copies? = none → Became x relay ts { x with relay } ts
  | kept {t : TokenId} : relay.relay.copies?.isSome = true → x.token = some t →
      Became x relay ts { x with relay } (if relay.relay.stopped then ts.cancel t else ts)
  | made : relay.relay.copies?.isSome = true → x.token = none →
      Became x relay ts { x with relay, token := some ts.count }
        (if relay.relay.stopped then (ts.child x.caller).cancel ts.count else ts.child x.caller)

theorem Became.of_become : Became x relay before (x.become relay before).1 (x.become relay before).2 := by
  cases has : relay.relay.copies? with
  | none =>
      simp only [Session.become, has]
      exact .closed has
  | some c =>
      have stopped : relay.relay.stopped = c.timer.isExpired := by
        rw [Relay.stopped, has, Option.any_some]
      cases own : x.token with
      | none =>
          simp only [Session.become, has, own, ← stopped]
          exact .made (by rw [has]; rfl) own
      | some t =>
          simp only [Session.become, has, own, ← stopped]
          have became : Became x relay before { x with relay }
              (if relay.relay.stopped then before.cancel t else before) :=
            .kept (by rw [has]; rfl) own
          rwa [own] at became

structure Frame (before after : Tokens) (own : Option TokenId) : Prop where
  count : before.count ≤ after.count
  line : ∀ u < before.count, after.line u = before.line u
  stopped : ∀ u, own ≠ some u → after.stopped u = before.stopped u
  still : ∀ u, before.stopped u = true → after.stopped u = true

theorem Frame.isCancelled (frame : Frame before after own) (made : u < before.count)
    (apart : ∀ t, own = some t → t ∉ before.line u) :
    after.isCancelled u = before.isCancelled u := by
  rw [Bool.eq_iff_iff, Tokens.isCancelled_iff, Tokens.isCancelled_iff, frame.line u made]
  refine exists_congr fun v => and_congr_right fun member => ?_
  rw [frame.stopped v fun same => apart v same member]

theorem Frame.child : Frame before (before.child t) none where
  count := by simp
  line _ := Tokens.line_child
  stopped _ _ := Tokens.stopped_child
  still _ stopped := Tokens.stopped_child.trans stopped

theorem Frame.cancel (made : t < before.count) : Frame before (before.cancel t) (some t) where
  count := by simp
  line _ _ := Tokens.line_cancel
  stopped u other := by
    have different : u ≠ t := fun same => other (congrArg some same.symm)
    simp [Tokens.stopped_cancel made, different]
  still u stopped := by simp [Tokens.stopped_cancel made, stopped]

theorem Frame.weaken (frame : Frame before after none) : Frame before after own :=
  ⟨frame.count, frame.line, fun u _ => frame.stopped u nofun, frame.still⟩

theorem Frame.trans {middle : Tokens} (first : Frame before middle own)
    (second : Frame middle after own) : Frame before after own where
  count := Nat.le_trans first.count second.count
  line u made := by rw [second.line u (Nat.lt_of_lt_of_le made first.count), first.line u made]
  stopped u other := by rw [second.stopped u other, first.stopped u other]
  still u stopped := second.still u (first.still u stopped)

theorem Frame.refl : Frame before before own :=
  ⟨Nat.le_refl _, fun _ _ => rfl, fun _ _ => rfl, fun _ => id⟩

theorem Became.frame (owned : Owned s.tokens s.owners) (there : s.sessions[i]? = some x)
    (became : Became x relay s.tokens y after) : Frame s.tokens after y.token := by
  cases became with
  | closed => exact .refl
  | @kept t _ own =>
      split
      · rw [own]
        exact .cancel (owned.made i t (State.ownAt_of_mem there own))
      · exact .refl
  | made =>
      have child : Frame s.tokens (s.tokens.child x.caller) (some s.tokens.count) := Frame.child.weaken
      split
      · exact child.trans (.cancel (by simp))
      · exact child

theorem Became.alone (owned : Owned s.tokens s.owners) (there : s.sessions[i]? = some x)
    (became : Became x relay s.tokens y after) (made : u < s.tokens.count)
    (other : y.token ≠ some u) : ∀ t, y.token = some t → t ∉ s.tokens.line u := by
  intro t own above
  have old {t : TokenId} (own : x.token = some t) (above : t ∈ s.tokens.line u) : u = t :=
    owned.alone i t (State.ownAt_of_mem there own) u made above
  cases became with
  | closed | kept =>
      obtain rfl := old own above
      exact other own
  | made =>
      cases own
      exact Nat.lt_irrefl _ (owned.closed u made _ above)

theorem Became.isCancelled (owned : Owned s.tokens s.owners) (there : s.sessions[i]? = some x)
    (became : Became x relay s.tokens y after) (made : u < s.tokens.count)
    (other : y.token ≠ some u) : after.isCancelled u = s.tokens.isCancelled u :=
  (became.frame owned there).isCancelled made (became.alone owned there made other)

theorem Became.caller_eq (became : Became x relay before y after) : y.caller = x.caller := by
  cases became <;> rfl

theorem Became.policy_eq (became : Became x relay before y after) : y.policy = x.policy := by
  cases became <;> rfl

theorem Became.relay_eq (became : Became x relay before y after) : y.relay = relay := by
  cases became <;> rfl

theorem Became.token_ne (there : s.sessions[i]? = some x) (became : Became x relay s.tokens y after)
    (free : Free s.tokens s.owners t) : y.token ≠ some t := by
  have other : x.token ≠ some t := fun own => free.2 i (State.ownAt_of_mem there own)
  cases became with
  | closed | kept => exact other
  | made =>
      intro same
      cases same
      exact Nat.lt_irrefl _ free.1

/-! ## Steps -/

theorem Session.hear_eq_self (same : after.isCancelled x.caller = before.isCancelled x.caller) :
    x.hear now before after = some x := by
  rw [hear, same, Bool.and_not_self]
  rfl

inductive Transition (s : State) (now : Nat) : Action → State → List Transport.Event → Prop where
  | begun {p : SessionPolicy} {d : Destination} {caller : TokenId} :
      Free s.tokens s.owners caller →
      Transition s now (.begin p d caller) { s with
        sessions := s.sessions ++
          [⟨p, caller, none, .start now d (s.tokens.isCancelled caller)⟩] } []
  | moved {i : Nat} {e : Relay.Event} {x y : Session} {relay : Relay.State} {tokens : Tokens} :
      s.sessions[i]? = some x → e.isCancel = false →
      Relay.step x.policy x.relay now e = some relay → Became x relay s.tokens y tokens →
      Transition s now (.session i e) { s with tokens, sessions := s.sessions.set i y } []
  | derived {t : TokenId} : Free s.tokens s.owners t →
      Transition s now (.derive t) { s with tokens := s.tokens.child t } []
  | cancelled {t : TokenId} {sessions : List Session} : Free s.tokens s.owners t →
      s.sessions.map (Session.hear now s.tokens (s.tokens.cancel t)) = sessions.map some →
      Transition s now (.cancel t) { s with tokens := s.tokens.cancel t, sessions } []
  | transported {a : Transport.Action} {transport : Transport.State} {es : List Transport.Event} :
      Transport.step s.transport a = some (transport, es) →
      Transition s now (.transport a) { s with transport } es

theorem State.change_eq {tokens : Tokens}
    (same : ∀ x ∈ s.sessions, tokens.isCancelled x.caller = s.tokens.isCancelled x.caller) :
    s.change now tokens = some { s with tokens } := by
  have heard : s.sessions.mapM (Session.hear now s.tokens tokens) = some s.sessions :=
    mapM_eq_some.2 (List.map_congr_left fun x member => Session.hear_eq_self (same x member))
  rw [change, heard]
  rfl

theorem Owned.caller (owned : Owned s.tokens s.owners) (member : x ∈ s.sessions) :
    Free s.tokens s.owners x.caller :=
  owned.callers (x.caller, x.token) (List.mem_map.2 ⟨x, member, rfl⟩)

theorem Transition.of_move {e : Relay.Event} (owned : Owned s.tokens s.owners)
    (cancels : e.isCancel = false) (h : s.move now i e = some s') :
    Transition s now (.session i e) s' [] := by
  simp only [State.move, Option.bind_eq_bind, Option.bind_eq_some_iff] at h
  obtain ⟨x, there, relay, moved, h⟩ := h
  have became : Became x relay s.tokens _ _ := .of_become
  have untold {z : Session} (member : z ∈ s.sessions) :=
    became.isCancelled owned there (owned.caller member).1
      (became.token_ne there (owned.caller member))
  rw [State.change_eq] at h
  · cases h
    exact .moved there cancels moved became
  · intro z member
    rcases List.mem_or_eq_of_mem_set member with old | rfl
    · exact untold old
    · rw [became.caller_eq]
      exact untold (List.mem_of_getElem? there)

theorem Transition.of_step (owned : Owned s.tokens s.owners)
    (h : step s (now, a) = some (s', es)) : Transition s now a s' es := by
  cases a with
  | begin p d caller =>
      simp only [step] at h
      split at h <;> cases h
      exact .begun (State.isFree_iff.1 ‹_›)
  | session i e =>
      cases e with
      | cancel => cases h
      | opened | copied | notice =>
          obtain ⟨s', moved, same⟩ := Option.map_eq_some_iff.1 h
          cases same
          exact .of_move owned rfl moved
  | derive t =>
      simp only [step] at h
      split at h
      · rename_i free
        rw [State.change_eq fun x member => Tokens.isCancelled_child (owned.caller member).1] at h
        cases h
        exact .derived (State.isFree_iff.1 free)
      · cases h
  | cancel t =>
      simp only [step] at h
      split at h
      · rename_i free
        obtain ⟨s', changed, same⟩ := Option.map_eq_some_iff.1 h
        cases same
        obtain ⟨sessions, heard, rfl⟩ := Option.map_eq_some_iff.1 changed
        exact .cancelled (State.isFree_iff.1 free) (mapM_eq_some.1 heard)
      · cases h
  | transport a =>
      obtain ⟨⟨transport, shown⟩, moved, same⟩ := Option.map_eq_some_iff.1 h
      cases same
      exact .transported moved

end Sessions

end GatewayTunnel
