import GatewayTunnel.Proofs.Sessions.Cancelling

namespace GatewayTunnel

namespace Relay

variable {p : SessionPolicy} {s s' s'' : State} {gone : Bool} {events more : List (Nat × Event)}

def once : Bool → List (Nat × Event) → List (Nat × Event)
  | _, [] => []
  | gone, (now, e) :: rest =>
    if e.isCancel then
      if gone then once true rest else (now, e) :: once true rest
    else (now, e) :: once gone rest

theorem cancelled_run (ran : run p s events = some s') :
    s'.cancelled = (s.cancelled || events.any (·.2.isCancel)) := by
  induction events generalizing s with
  | nil =>
      cases ran
      simp
  | cons x rest ih =>
      obtain ⟨t, first, others⟩ := Option.bind_eq_some_iff.1 ran
      rw [ih others, cancelled_step first, List.any_cons, Bool.or_assoc]

theorem any_once : (gone || (once gone events).any (·.2.isCancel)) =
    (gone || events.any (·.2.isCancel)) := by
  induction events generalizing gone with
  | nil => rfl
  | cons x rest ih =>
      cases cancels : x.2.isCancel <;> cases gone <;> simp_all [once]

theorem once_append : once gone (events ++ more) =
    once gone events ++ once (gone || events.any (·.2.isCancel)) more := by
  induction events generalizing gone with
  | nil => simp [once]
  | cons x rest ih =>
      cases cancels : x.2.isCancel with
      | true => cases gone <;> simp [once, cancels, ih]
      | false =>
          rw [List.any_cons, cancels, Bool.false_or, List.cons_append, once, once, cancels]
          simp [ih]

theorem run_once (ran : run p s (once s.cancelled events) = some s')
    (next : run p s' (once s'.cancelled more) = some s'') :
    run p s (once s.cancelled (events ++ more)) = some s'' := by
  rw [once_append, run_append, ran, Option.bind_some]
  rwa [cancelled_run ran, any_once] at next

end Relay

namespace Sessions

variable {g : String} {s s' : State} {now i : Nat} {a : Action} {as : List (Nat × Action)}
  {x y : Session} {t : TokenId} {es fs : List Transport.Event}

/-! ## A session alone -/

def felt (i : Nat) (line : List TokenId) : Nat × Action → Option (Nat × Relay.Event)
  | (now, .session j e) => if j = i then some (now, e) else none
  | (now, .cancel t) => if t ∈ line then some (now, .cancel) else none
  | _ => none

theorem Session.hear_run (held : Held s) (member : x ∈ s.sessions)
    (free : Free s.tokens s.owners t) (h : x.hear now s.tokens (s.tokens.cancel t) = some y) :
    Relay.run x.policy x.relay (Relay.once x.relay.cancelled
      (felt i (s.tokens.line x.caller) (now, .cancel t)).toList) = some y.relay := by
  have caller := Tokens.isCancelled_cancel (u := x.caller) free.1
  rw [(held.told x member).heard]
  rcases Session.hear_cases h with ⟨given, notBefore, relay, moved, rfl⟩ | ⟨before, rfl⟩
  · have above : t ∈ s.tokens.line x.caller := by
      rw [notBefore, Bool.false_or, given] at caller
      exact of_decide_eq_true caller.symm
    simp [felt, above, notBefore, Relay.once, Relay.Event.isCancel, Relay.run, moved]
  · by_cases above : t ∈ s.tokens.line x.caller
    · have cancelled : s.tokens.isCancelled x.caller = true := before (by simp [caller, above])
      simp [felt, above, cancelled, Relay.once, Relay.Event.isCancel, Relay.run]
    · simp [felt, above, Relay.once, Relay.run]

theorem Transition.session_cases (held : Held s) (h : Transition s now a s' es)
    (there : s'.sessions[i]? = some y) :
    (∃ p d caller, a = .begin p d caller ∧ s.sessions.length = i ∧
      y = ⟨p, caller, none, .start now d (s.tokens.isCancelled caller)⟩) ∨
    ∃ x, s.sessions[i]? = some x ∧ y.policy = x.policy ∧ y.caller = x.caller ∧
      Relay.run x.policy x.relay (Relay.once x.relay.cancelled
        (felt i (s.tokens.line x.caller) (now, a)).toList) = some y.relay := by
  cases h with
  | @begun p d caller =>
      rcases Nat.lt_trichotomy i s.sessions.length with inside | rfl | outside
      · rw [List.getElem?_append_left inside] at there
        exact .inr ⟨y, there, rfl, rfl, rfl⟩
      · rw [List.getElem?_concat_length] at there
        cases there
        exact .inl ⟨p, d, caller, rfl, rfl, rfl⟩
      · rw [List.getElem?_eq_none (by simpa using Nat.succ_le_of_lt outside)] at there
        cases there
  | @moved j e x z relay tokens place cancels moved became =>
      by_cases same : j = i
      · subst same
        rw [List.getElem?_set_self', place] at there
        cases there
        refine .inr ⟨x, place, became.policy_eq, became.caller_eq, ?_⟩
        simp [felt, Relay.once, cancels, Relay.run, moved, became.relay_eq]
      · rw [List.getElem?_set_ne same] at there
        exact .inr ⟨y, there, rfl, rfl, by simp [felt, same, Relay.once, Relay.run]⟩
  | derived | transported => exact .inr ⟨y, there, rfl, rfl, rfl⟩
  | cancelled free heard =>
      -- All sessions hear of the tokens at once, each by itself.
      rw [getElem?_of_map_eq heard i] at there
      obtain ⟨x, place, hears⟩ := Option.bind_eq_some_iff.1 there
      obtain ⟨policy, caller, -⟩ := Session.hear_owner hears
      exact .inr ⟨x, place, policy, caller,
        Session.hear_run held (List.mem_of_getElem? place) free hears⟩

theorem Transition.line_eq (held : Held s) (h : Transition s now a s' es) (made : t < s.tokens.count) :
    s'.tokens.line t = s.tokens.line t := by
  cases h with
  | begun | transported => rfl
  | moved there _ _ became => exact (became.frame held.owned there).line t made
  | derived => exact Tokens.line_child made
  | cancelled => exact Tokens.line_cancel

/-- The relay of a session has done what it does alone, from the beginning of the session, with what the
actions have been to it. -/
def Followed (g : String) (as : List (Nat × Action)) (s : State) (i : Nat) (x : Session) : Prop :=
  ∃ before begun d after s₁ es₁, as = before ++ (begun, .begin x.policy d x.caller) :: after ∧
    run (.start g) before = some (s₁, es₁) ∧ s₁.sessions.length = i ∧
    Relay.run x.policy (.start begun d (s₁.tokens.isCancelled x.caller))
      (Relay.once (s₁.tokens.isCancelled x.caller)
        (after.filterMap (felt i (s.tokens.line x.caller)))) = some x.relay

theorem Followed.step (held : Held s) (reached : Reaches Sessions.step (.start g) as s es)
    (followed : ∀ i x, s.sessions[i]? = some x → Followed g as s i x)
    (h : Transition s now a s' fs) (there : s'.sessions[i]? = some y) :
    Followed g (as ++ [(now, a)]) s' i y := by
  rcases h.session_cases held there with ⟨p, d, caller, rfl, place, rfl⟩ |
    ⟨x, place, policy, caller, more⟩
  · exact ⟨as, now, d, [], s, es, rfl, run_iff.2 reached, place, rfl⟩
  · obtain ⟨before, begun, d, after, s₁, es₁, rfl, front, length, ran⟩ := followed i x place
    have line : s'.tokens.line x.caller = s.tokens.line x.caller :=
      h.line_eq held (held.owned.caller (List.mem_of_getElem? place)).1
    refine ⟨before, begun, d, after ++ [(now, a)], s₁, es₁, ?_, front, length, ?_⟩
    · rw [policy, caller, List.append_assoc]
      rfl
    · have whole := Relay.run_once (by rwa [Relay.cancelled_start]) more
      rw [Relay.cancelled_start] at whole
      rw [policy, caller, line, List.filterMap_append]
      cases last : felt i (s.tokens.line x.caller) (now, a) <;> simpa [last] using whole

theorem followed_of_reached (reached : Reaches step (.start g) as s es)
    (there : s.sessions[i]? = some x) : Followed g as s i x := by
  induction reached generalizing i x with
  | refl => cases there
  | snoc before moved ih =>
      have held := held_of_reached before
      exact Followed.step held before (fun _ _ => ih) (.of_step held.owned moved) there

end Sessions

end GatewayTunnel
