import GatewayTunnel.Proofs.Manager.Call
import GatewayTunnel.Request

namespace GatewayTunnel.Request

open Manager (CallId TransportId)

variable {g : Gateway} {s s' : State} {a : Action} {as : List Action} {es fs : List Event}
  {c c' : CallId} {d : Destination} {t : TransportId} {p : Phase} {r : Except TunnelError Unit}

/-! ## Changes of the state -/

@[simp] theorem State.move_manager : (s.move c p).manager = s.manager := rfl

@[simp] theorem State.move_self : (s.move c p).requests c = p := by
  simp [State.move]

theorem State.move_ne (other : c' ≠ c) : (s.move c p).requests c' = s.requests c' := by
  simp [State.move, other]

/-! ## Transitions -/

inductive Alone (manager : Manager.State) (c : CallId) :
    Action → Phase → Phase → List Event → Prop where
  | arrive (d : Destination) : Alone manager c (.arrive c d) .absent (.routing d) []
  | rejected {d : Destination} {e : TunnelError} : d.checkStream = .error e →
      Alone manager c (.proceed c) (.routing d) (.done (.error e)) [.returned c (.error e)]
  | acquired {d : Destination} {t : TransportId} : manager.calls c = .done (.acquired t) →
      Alone manager c (.proceed c) (.acquiring d) (.opening d t) [.openStarted c t d]
  | failed {d : Destination} {e : TunnelError} : manager.calls c = .done (.failed e) →
      Alone manager c (.proceed c) (.acquiring d) (.done (.error e)) [.returned c (.error e)]
  | opened (d : Destination) (t : TransportId) :
      Alone manager c (.openEnded c (.ok ())) (.opening d t) (.copying d t) [.copyStarted c]
  | refused (d : Destination) (t : TransportId) (e : TunnelError) :
      Alone manager c (.openEnded c (.error e)) (.opening d t) (.done (.error e))
        [.returned c (.error e)]
  | copied (d : Destination) (t : TransportId) (r : Except TunnelError Unit) :
      Alone manager c (.copyEnded c r) (.copying d t) (.done r) [.returned c r]

inductive Transition (g : Gateway) (s : State) : Action → State → List Event → Prop where
  | alone {c : CallId} {a : Action} {p q : Phase} {es : List Event} :
      Alone s.manager c a p q es → s.requests c = p → Transition g s a (s.move c q) es
  | acquire {c : CallId} {d : Destination} : s.requests c = .routing d → d.checkStream = .ok () →
      s.manager.calls c = .absent →
      Transition g s (.proceed c)
        { s.move c (.acquiring d) with manager := s.manager.move c .entered } []
  | managed {b : Manager.Action} {m : Manager.State} {es : List Manager.Event} :
      Manager.step g s.manager b = some (m, es) →
      Transition g s (.manager b) { s with manager := m } (es.map .manager)

theorem Transition.of_arrival (phase : s.requests c = .routing d) (stream : d.checkStream = .ok ())
    (h : (s.move c (.acquiring d)).manage g (.arrive c .acquire) = some (s', es)) :
    Transition g s (.proceed c) s' es := by
  simp only [State.manage, State.move_manager, Option.map_eq_some_iff, Prod.mk.injEq] at h
  obtain ⟨⟨m, shown⟩, called, rfl, rfl⟩ := h
  cases place : s.manager.calls c with
  | absent =>
      simp only [Manager.step, place, Option.some.injEq, Prod.mk.injEq] at called
      obtain ⟨rfl, rfl⟩ := called
      exact .acquire phase stream place
  | _ => simp [Manager.step, place] at called

theorem Transition.of_step (h : step g s a = some (s', es)) : Transition g s a s' es := by
  cases a with
  | arrive c d =>
      cases phase : s.requests c <;> simp only [step, phase] at h <;> cases h
      exact .alone (.arrive d) phase
  | proceed c =>
      cases phase : s.requests c <;> simp only [step, phase] at h
      case routing d =>
        split at h
        · rename_i e rejected
          cases h
          exact .alone (.rejected rejected) phase
        · rename_i stream
          exact .of_arrival phase stream h
      case acquiring d =>
        split at h
        · rename_i t replied
          cases h
          exact .alone (.acquired replied) phase
        · rename_i e replied
          cases h
          exact .alone (.failed replied) phase
        · cases h
      all_goals cases h
  | openEnded c r =>
      cases phase : s.requests c <;> cases r <;> simp only [step, phase] at h <;> cases h
      · exact .alone (.refused _ _ _) phase
      · exact .alone (.opened _ _) phase
  | copyEnded c r =>
      cases phase : s.requests c <;> simp only [step, phase] at h <;> cases h
      exact .alone (.copied _ _ r) phase
  | manager b =>
      simp only [step, State.manage, Option.map_eq_some_iff, Prod.mk.injEq] at h
      obtain ⟨⟨m, shown⟩, moved, rfl, rfl⟩ := h
      exact .managed moved

/-! ## The manager -/

def Action.caller? : Action → Option CallId
  | arrive c _ | proceed c | openEnded c _ | copyEnded c _ => some c
  | manager _ => none

def Event.manager? : Event → Option Manager.Event
  | manager e => some e
  | _ => none

theorem Alone.caller?_eq {m : Manager.State} {q : Phase} (h : Alone m c a p q es) :
    a.caller? = some c := by
  cases h <;> rfl

theorem Alone.unmanaged {m : Manager.State} {q : Phase} (h : Alone m c a p q es) :
    ∀ e ∈ es, e.manager? = none := by
  cases h <;> simp [Event.manager?]

theorem Transition.frame (h : Transition g s a s' es) (own : a.caller? = some c) :
    (∀ c' ≠ c, s'.requests c' = s.requests c') ∧ (∀ e ∈ es, e.manager? = none) ∧
      (s'.manager = s.manager ∨ ∃ d, a = .proceed c ∧ s.requests c = .routing d ∧
        d.checkStream = .ok () ∧ s'.manager = s.manager.move c .entered) := by
  cases h with
  | alone alone =>
      obtain rfl := Option.some.inj (alone.caller?_eq.symm.trans own)
      exact ⟨fun c' other => State.move_ne other, alone.unmanaged, .inl rfl⟩
  | acquire phase stream absent =>
      obtain rfl := Option.some.inj own
      exact ⟨fun c' other => State.move_ne other, nofun, .inr ⟨_, rfl, phase, stream, rfl⟩⟩
  | managed => cases own

theorem Alone.not_done {m : Manager.State} {q : Phase} : ¬ Alone m c a (.done r) q es := by
  intro alone
  cases alone

theorem ne_of_routing (phase : s.requests c' = .routing d) (elsewhere : s.requests c ≠ .routing d) :
    c ≠ c' := by
  rintro rfl
  exact elsewhere phase

theorem Transition.stays_done (h : Transition g s a s' es) (done : s.requests c = .done r) :
    s'.requests c = .done r := by
  cases h with
  | @alone c' _ p q _ alone phase =>
      by_cases here : c = c'
      · subst here
        rw [done] at phase
        subst phase
        exact absurd alone Alone.not_done
      · rw [State.move_ne here, done]
  | acquire phase =>
      have other := ne_of_routing (c := c) phase (by simp [done])
      exact (State.move_ne other).trans done
  | managed => exact done

theorem Transition.stays_absent (h : Transition g s a s' es) (own : ∀ d, a ≠ .arrive c d)
    (absent : s.requests c = .absent) : s'.requests c = .absent := by
  cases h with
  | @alone c' _ p q _ alone phase =>
      by_cases here : c = c'
      · subst here
        rw [absent] at phase
        subst phase
        cases alone
        exact absurd rfl (own _)
      · rw [State.move_ne here, absent]
  | acquire phase =>
      have other := ne_of_routing (c := c) phase (by simp [absent])
      exact (State.move_ne other).trans absent
  | managed => exact absent

/-! ## Runs -/

abbrev Reached (g : Gateway) : List Action → State → List Event → Prop :=
  Reaches (step g) .start

theorem run_iff : run g s as = some (s', es) ↔ Reaches (step g) s as s' es :=
  reaches_iff (fun _ => rfl) fun s a as => by
    simp only [run, Option.bind_eq_bind, Option.map_eq_bind]
    rfl

theorem filterMap_managed (es : List Manager.Event) :
    (es.map Event.manager).filterMap Event.manager? = es := by
  simp [List.filterMap_map, Function.comp_def, Event.manager?]

theorem exists_managed (reached : Reached g as s es) :
    ∃ bs, Manager.Reached g bs s.manager (es.filterMap Event.manager?) := by
  induction reached with
  | refl => exact ⟨[], .refl⟩
  | snoc before moved ih =>
      obtain ⟨bs, managed⟩ := ih
      rw [List.filterMap_append]
      cases Transition.of_step moved with
      | alone alone =>
          rw [List.filterMap_eq_nil_iff.2 alone.unmanaged, List.append_nil]
          exact ⟨bs, managed⟩
      | @acquire c d phase stream absent =>
          rename_i s _
          have called : Manager.step g s.manager (.arrive c .acquire) =
              some (s.manager.move c .entered, []) := by
            simp only [Manager.step, absent]
          exact ⟨bs ++ [.arrive c .acquire], managed.snoc called⟩
      | @managed b m shown happened =>
          rw [filterMap_managed]
          exact ⟨bs ++ [b], managed.snoc happened⟩

theorem lockInv_of_reached (reached : Reached g as s es) : Manager.LockInv s.manager := by
  obtain ⟨bs, managed⟩ := exists_managed reached
  exact Manager.lockInv_of_reached managed

end GatewayTunnel.Request
