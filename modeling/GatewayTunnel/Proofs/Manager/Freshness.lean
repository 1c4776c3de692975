import GatewayTunnel.Proofs.Manager.Creation
import GatewayTunnel.Proofs.Manager.Ending

namespace GatewayTunnel.Manager

variable {g : Gateway} {s s₀ s₁ s' : State} {a : Action} {as bs : List Action}
  {es es₀ es₁ fs : List Event} {c c' : CallId} {t : TransportId} {p q : Phase} {r : Reply}

def Phase.answer? : Phase → Option TransportId
  | watching t | leaving (.acquired t) | done (.acquired t) => some t
  | _ => none

theorem Alone.answer?_eq (h : Alone g c a p q es) : q.answer? = none := by
  cases h <;> rfl

theorem Leaving.answer?_eq (h : Leaving c p q es) : q.answer? = p.answer? := by
  cases h with
  | reply r => cases r <;> rfl
  | _ => rfl

theorem State.answer?_move (answer : ((s.move c' q).calls c).answer? = some t) :
    (s.calls c).answer? = some t ∨ c = c' ∧ q.answer? = some t := by
  by_cases h : c = c'
  · subst h
    rw [move_calls_self] at answer
    exact .inr ⟨rfl, answer⟩
  · rw [move_calls_ne h] at answer
    exact .inl answer

theorem State.answer?_release (answer : ((s.release c' q).1.calls c).answer? = some t) :
    (s.calls c).answer? = some t ∨ c = c' ∧ q.answer? = some t := by
  rw [release_calls] at answer
  split at answer
  · cases answer
  · exact answer?_move answer

theorem Transition.answer (h : Transition g s a s' fs) (answer : (s'.calls c).answer? = some t) :
    (s.calls c).answer? = some t ∨
      (s.slot = some t ∧ s.hasEnded t = false ∧ ∀ r, s.calls c ≠ .done r) ∨
      (s.calls c = .publishing t ∧ s'.slot = some t ∧ s'.calls c = .watching t) := by
  cases h with
  | alone own phase =>
      rcases State.answer?_move answer with old | ⟨-, new⟩
      · exact .inl old
      · rw [own.answer?_eq] at new
        cases new
  | hit phase slot live =>
      rcases State.answer?_move answer with old | ⟨rfl, new⟩
      · exact .inl old
      · cases new
        exact .inr (.inl ⟨slot, live, by simp [phase]⟩)
  | reuse phase slot live =>
      rcases State.answer?_move answer with old | ⟨rfl, new⟩
      · exact .inl old
      · cases new
        exact .inr (.inl ⟨slot, live, by simp [phase]⟩)
  | publish phase =>
      rcases State.answer?_move answer with old | ⟨rfl, new⟩
      · exact .inl old
      · cases new
        exact .inr (.inr ⟨phase, rfl, State.move_calls_self⟩)
  | watch phase =>
      rcases State.answer?_move answer with old | ⟨rfl, new⟩
      · exact .inl old
      · cases new
        exact .inl (by rw [phase]; rfl)
  | leave own phase =>
      rcases State.answer?_release answer with old | ⟨rfl, new⟩
      · exact .inl old
      · rw [own.answer?_eq, ← phase] at new
        exact .inl new
  | die => exact .inl answer
  | clear => exact .inl answer
  | pass => exact .inl answer
  | _ =>
      rcases State.answer?_move answer with old | ⟨-, new⟩
      · exact .inl old
      · cases new

theorem Transition.publishing (h : Transition g s a s' fs) (phase' : s'.calls c = .publishing t) :
    s.calls c = .publishing t ∨ t = s.transports.length := by
  cases h with
  | alone own phase =>
      rw [State.move_calls] at phase'
      split at phase'
      · subst phase'
        cases own
      · exact .inl phase'
  | create phase =>
      rw [State.move_calls] at phase'
      split at phase'
      · cases phase'
        exact .inr rfl
      · exact .inl phase'
  | leave own phase =>
      rw [State.release_calls] at phase'
      split at phase'
      · cases phase'
      · rw [State.move_calls] at phase'
        split at phase'
        · subst phase'
          cases own
        · exact .inl phase'
  | die => exact .inl phase'
  | clear => exact .inl phase'
  | pass => exact .inl phase'
  | _ =>
      rw [State.move_calls] at phase'
      split at phase'
      · cases phase'
      · exact .inl phase'

theorem Transition.length_le (h : Transition g s a s' fs) :
    s.transports.length ≤ s'.transports.length := by
  cases h <;> simp

theorem answer_lt_of_reached (reached : Reached g as s es) (answer : (s.calls c).answer? = some t) :
    t < s.transports.length := by
  induction reached with
  | refl => cases answer
  | snoc before moved ih =>
      have h := Transition.of_step moved
      have ledger := ledger_of_reached before
      rcases h.answer answer with old | ⟨slot, -, -⟩ | ⟨phase, -, -⟩
      · exact Nat.lt_of_lt_of_le (ih old) h.length_le
      · exact Nat.lt_of_lt_of_le (ledger.slot_lt slot) h.length_le
      · have built := (lockInv_of_reached before).built?_eq_some phase
        exact Nat.lt_of_lt_of_le (ledger.built_lt built) h.length_le

/-- Before the call returns, the actions lead through a state with the transport in the slot. -/
def InSlotDuring (g : Gateway) (s₁ : State) (c : CallId) (bs : List Action) (t : TransportId) :
    Prop :=
  ∃ bs₁ bs₂ u fs, bs = bs₁ ++ bs₂ ∧ run g s₁ bs₁ = some (u, fs) ∧ u.slot = some t ∧
    ∀ r, .returned c r ∉ fs

theorem InSlotDuring.snoc (held : InSlotDuring g s₁ c bs t) : InSlotDuring g s₁ c (bs ++ [a]) t := by
  obtain ⟨bs₁, bs₂, u, fs, rfl, ran, slot, unreturned⟩ := held
  exact ⟨bs₁, bs₂ ++ [a], u, fs, List.append_assoc .., ran, slot, unreturned⟩

/-- What a call that began in one state has in another: a transport of its own making, or an answer
that it may give. -/
structure Fresh (g : Gateway) (s₀ s₁ : State) (c : CallId) (bs : List Action) (s : State) :
    Prop where
  age : s₀.transports.length ≤ s.transports.length
  ended : ∀ t, s₀.hasEnded t = true → s.hasEnded t = true
  made : ∀ t, s.calls c = .publishing t → s₀.transports.length ≤ t
  answer : ∀ t, (s.calls c).answer? = some t → s₀.hasEnded t = false ∧ InSlotDuring g s₁ c bs t

theorem Fresh.step (fresh : Fresh g s₀ s₁ c bs s) (reached : Reached g as s₁ es₁)
    (since : Reaches (step g) s₁ bs s es) (moved : step g s a = some (s', fs)) :
    Fresh g s₀ s₁ c (bs ++ [a]) s' := by
  have h := Transition.of_step moved
  have undone : ∀ {bs u l}, Reaches (Manager.step g) s₁ bs u l → (∀ r, u.calls c ≠ .done r) →
      ∀ r, .returned c r ∉ l := fun path phase r shown =>
    phase r ((returned_iff_of_reached (reached.trans path)).1 (List.mem_append_right _ shown))
  refine ⟨Nat.le_trans fresh.age h.length_le,
    fun t old => h.hasEnded_iff.2 (.inl (fresh.ended t old)), fun t phase => ?_, fun t answer => ?_⟩
  · rcases h.publishing phase with old | rfl
    · exact fresh.made t old
    · exact fresh.age
  · rcases h.answer answer with old | ⟨slot, live, phase⟩ | ⟨phase, slot, phase'⟩
    · obtain ⟨live, held⟩ := fresh.answer t old
      exact ⟨live, held.snoc⟩
    · refine ⟨?_, bs, [a], s, es, rfl, run_iff.2 since, slot, undone since phase⟩
      rw [Bool.eq_false_iff]
      intro ended
      rw [fresh.ended t ended] at live
      cases live
    · have now := since.snoc moved
      refine ⟨?_, bs ++ [a], [], s', es ++ fs, (List.append_nil _).symm, run_iff.2 now, slot,
        undone now (by simp [phase'])⟩
      rw [Bool.eq_false_iff]
      intro ended
      exact absurd (State.hasEnded_lt ended) (Nat.not_lt.2 (fresh.made t phase))

/-- An acquire returns a transport that was alive when the acquire was called, and that was in the
slot during the call. -/
theorem acquire_fresh (before : run g .start as = some (s₀, es₀))
    (call : step g s₀ (.arrive c .acquire) = some (s₁, es₁))
    (during : run g s₁ bs = some (s, es)) (returned : .returned c (.acquired t) ∈ es) :
    s₀.hasEnded t = false ∧ InSlotDuring g s₁ c bs t := by
  have reached := (run_iff.1 before).snoc call
  have since := run_iff.1 during
  have arrived : s₁ = s₀.move c .entered := by
    cases phase : s₀.calls c <;> simp_all [step]
  have fresh : Fresh g s₀ s₁ c bs s := by
    clear during returned
    induction since with
    | refl =>
        subst arrived
        constructor <;> simp [Phase.answer?, State.hasEnded_congr State.move_transports]
    | snoc path moved ih => exact ih.step reached path moved
  apply fresh.answer t
  rw [(returned_iff_of_reached (reached.trans since)).1 (List.mem_append_right _ returned)]
  rfl

/-- The dead transport is still in the slot when call 1 is made. -/
theorem acquire_fresh_unnoticed : ∃ s₀ es₀ s₁ es₁ s es,
    run sampleGateway .start (acquireAlone 0 ++ [.die 0]) = some (s₀, es₀) ∧ s₀.slot = some 0 ∧
    step sampleGateway s₀ (.arrive 1 .acquire) = some (s₁, es₁) ∧
    run sampleGateway s₁ (acquireAlone 1).tail = some (s, es) ∧ .returned 1 (.acquired 1) ∈ es ∧
    s₀.hasEnded 0 = true ∧ s₀.hasEnded 1 = false ∧
    InSlotDuring sampleGateway s₁ 1 (acquireAlone 1).tail 1 := by
  refine ⟨_, _, _, _, _, _, rfl, rfl, rfl, rfl, List.mem_iff_getElem?.2 ⟨6, rfl⟩, rfl, ?_⟩
  exact acquire_fresh (rfl : run sampleGateway .start (acquireAlone 0 ++ [.die 0]) = some (_, _))
    rfl (rfl : run sampleGateway _ (acquireAlone 1).tail = some (_, _))
    (List.mem_iff_getElem?.2 ⟨6, rfl⟩)

end GatewayTunnel.Manager
