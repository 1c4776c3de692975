import GatewayTunnel.Handover
import GatewayTunnel.Proofs.Forwarding.Transition
import GatewayTunnel.Proofs.Tokens

namespace GatewayTunnel.Handover

open Forwarding (ConnectionId)

variable {f : LocalForward} {s s' : State} {a : Action} {as : List Action}
  {es : List Forwarding.Event}

inductive Transition (f : LocalForward) (s : State) :
    Action → State → List Forwarding.Event → Prop where
  | served {a : Forwarding.Action} {x : Forwarding.State} {es : List Forwarding.Event} :
      a ≠ .cancel → (∀ c origin, a ≠ .accept c origin) →
      Forwarding.step f s.forward a = some (x, es) →
      Transition f s (.forward a) { s with forward := x } es
  | accepted {c : ConnectionId} {origin : String} {x : Forwarding.State}
      {es : List Forwarding.Event} : c ∉ s.given.map Prod.fst →
      Forwarding.step f s.forward (.accept c origin) = some (x, es) →
      Transition f s (.forward (.accept c origin))
        ⟨x, s.tokens.child s.own, s.own, s.given ++ [(c, s.tokens.count)]⟩ es
  | derived {t : TokenId} : t < s.tokens.count →
      Transition f s (.derive t) { s with tokens := s.tokens.child t } []
  | cancelled {t : TokenId} : t < s.tokens.count →
      Transition f s (.cancel t) { s with
        tokens := s.tokens.cancel t
        forward := { s.forward with
          cancelled := s.forward.cancelled || (s.tokens.cancel t).isCancelled s.own } } []

theorem exists_served {a : Forwarding.Action} (h : s.serve f a = some (s', es)) :
    ∃ x, Forwarding.step f s.forward a = some (x, es) ∧ s' = { s with forward := x } := by
  obtain ⟨⟨x, shown⟩, moved, same⟩ := Option.map_eq_some_iff.1 h
  cases same
  exact ⟨x, moved, rfl⟩

theorem Transition.of_cancel {t : TokenId} (made : t < s.tokens.count)
    (h : s.cancel f t = some (s', es)) : Transition f s (.cancel t) s' es := by
  have moves := Transition.cancelled (f := f) made
  simp only [State.cancel] at h
  split at h
  · rename_i told
    simp only [Bool.and_eq_true] at told
    obtain ⟨x, moved, rfl⟩ := exists_served h
    cases moved
    rwa [told.1, Bool.or_true] at moves
  · rename_i untold
    cases h
    have same : (s.forward.cancelled || (s.tokens.cancel t).isCancelled s.own) =
        s.forward.cancelled := by
      revert untold
      cases s.forward.cancelled <;> simp
    rwa [same] at moves

theorem Transition.of_step (h : step f s a = some (s', es)) : Transition f s a s' es := by
  cases a with
  | forward a =>
      cases a with
      | cancel => cases h
      | accept c origin =>
          simp only [step, State.accept] at h
          split at h
          · cases h
          · rename_i fresh
            obtain ⟨x, moved, rfl⟩ := exists_served h
            exact .accepted fresh moved
      | start | stop | acceptFailed | returned | reap | finish =>
          obtain ⟨x, moved, rfl⟩ := exists_served h
          exact .served nofun nofun moved
  | derive t =>
      simp only [step] at h
      split at h <;> cases h
      exact .derived ‹_›
  | cancel t =>
      simp only [step] at h
      split at h
      · exact .of_cancel ‹_› h
      · cases h

/-! ## Runs -/

abbrev Reached (f : LocalForward) (tokens : Tokens) (own : TokenId) :
    List Action → State → List Forwarding.Event → Prop :=
  Reaches (step f) (.start tokens own)

theorem run_iff : run f s as = some (s', es) ↔ Reaches (step f) s as s' es :=
  reaches_iff (fun _ => rfl) fun s a as => by
    simp only [run, Option.bind_eq_bind, Option.map_eq_bind]
    rfl

theorem Transition.forwards (h : Transition f s a s' es) : (s'.forward = s.forward ∧ es = []) ∨
    ∃ b, Forwarding.step f s.forward b = some (s'.forward, es) := by
  cases h with
  | served _ _ moved | accepted _ moved => exact .inr ⟨_, moved⟩
  | derived => exact .inl ⟨rfl, rfl⟩
  | @cancelled t =>
      cases told : (s.tokens.cancel t).isCancelled s.own with
      | true => exact .inr ⟨.cancel, by simp [Forwarding.step]⟩
      | false => exact .inl ⟨by simp, rfl⟩

theorem exists_forwarded (reached : Reaches (step f) s as s' es) :
    ∃ bs, Forwarding.run f s.forward bs = some (s'.forward, es) := by
  simp only [Forwarding.run_iff]
  induction reached with
  | refl => exact ⟨[], .refl⟩
  | snoc before moved ih =>
      obtain ⟨bs, forwarded⟩ := ih
      rcases (Transition.of_step moved).forwards with ⟨same, rfl⟩ | ⟨b, next⟩
      · rw [same, List.append_nil]
        exact ⟨bs, forwarded⟩
      · exact ⟨bs ++ [b], forwarded.snoc next⟩

end GatewayTunnel.Handover
