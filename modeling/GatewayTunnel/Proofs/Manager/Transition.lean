import GatewayTunnel.Manager
import GatewayTunnel.Proofs.Run

/-!
# The transitions of the manager

`Transition` lists what a step of the manager can be, one constructor for each, with what the step
needs, what it changes and what it shows. `Transition.of_step` says that there are no other steps.
Proofs about runs go by cases on it and never open `step` again.

The steps of a call that touch neither the slot nor the lock nor the transports are in `Alone`, and
those with which a call gives the lock back are in `Leaving`.
-/

namespace GatewayTunnel.Manager

variable {g : Gateway} {s s' : State} {a : Action} {as : List Action} {es fs : List Event}
  {c c' : CallId} {t u : TransportId} {p q : Phase}

/-! ## Changes of the state -/

namespace State

@[simp] theorem move_slot : (s.move c p).slot = s.slot := rfl
@[simp] theorem move_holder : (s.move c p).holder = s.holder := rfl
@[simp] theorem move_queue : (s.move c p).queue = s.queue := rfl
@[simp] theorem move_transports : (s.move c p).transports = s.transports := rfl

theorem move_calls : (s.move c p).calls c' = if c' = c then p else s.calls c' := rfl

@[simp] theorem move_calls_self : (s.move c p).calls c = p := by
  simp [move_calls]

theorem move_calls_ne (other : c' ≠ c) : (s.move c p).calls c' = s.calls c' := by
  simp [move_calls, other]

@[simp] theorem change_length {f : Transport → Transport} :
    (s.change t f).transports.length = s.transports.length := by
  simp [change]

theorem hasEnded_congr (same : s'.transports = s.transports) : s'.hasEnded t = s.hasEnded t := by
  simp [hasEnded, same]

theorem hasEnded_lt (ended : s.hasEnded t) : t < s.transports.length := by
  unfold hasEnded at ended
  rcases Nat.lt_or_ge t s.transports.length with lt | ge
  · exact lt
  · simp [List.getElem?_eq_none ge] at ended

theorem hasEnded_change {f : Transport → Transport} (same : ∀ x, (f x).ended = x.ended) :
    (s.change u f).hasEnded t = s.hasEnded t := by
  simp only [hasEnded, change, List.getElem?_modify]
  cases s.transports[t]? with
  | none => rfl
  | some x => by_cases h : u = t <;> simp [h, same]

theorem hasEnded_kill (lt : u < s.transports.length) :
    (s.change u fun x => { x with ended := true }).hasEnded t = (s.hasEnded t || t == u) := by
  simp only [hasEnded, change, List.getElem?_modify]
  by_cases h : u = t
  · subst h
    simp [List.getElem?_eq_getElem lt]
  · cases s.transports[t]? <;> simp [h, Ne.symm h]

@[simp] theorem release_holder : (s.release c p).1.holder = s.queue.head? := by
  unfold release
  cases h : s.queue <;> simp [h]

@[simp] theorem release_queue : (s.release c p).1.queue = s.queue.tail := by
  unfold release
  cases h : s.queue <;> simp [h]

@[simp] theorem release_slot : (s.release c p).1.slot = s.slot := by
  unfold release
  cases h : s.queue <;> simp [h]

@[simp] theorem release_transports : (s.release c p).1.transports = s.transports := by
  unfold release
  cases h : s.queue <;> simp [h]

theorem release_shown : (s.release c p).2 = s.queue.head?.toList.map .handed := by
  unfold release
  cases h : s.queue <;> simp [h]

theorem release_calls : (s.release c p).1.calls c' =
    if s.queue.head? = some c' then .locked ((s.move c p).calls c').goal
    else (s.move c p).calls c' := by
  unfold release
  cases h : s.queue with
  | nil => simp [h, move_calls]
  | cons next rest =>
      by_cases first : next = c'
      · subst first
        simp [h, move_calls]
      · simp [h, move_calls, first, Ne.symm first]

end State

/-! ## Transitions -/

inductive Alone (g : Gateway) (c : CallId) : Action → Phase → Phase → List Event → Prop where
  | enter : Alone g c (.arrive c .acquire) .absent .entered []
  | approach : Alone g c (.arrive c .close) .absent (.asking .close) []
  | dial (p : Attempts) : Alone g c (.proceed c) (.ready p) (.dialing p) [.dialStarted c p.attempt]
  | connected (p : Attempts) : Alone g c (.dialEnded c (.ok ())) (.dialing p) .dialed []
  | retry {p : Attempts} {e : IoError} {pause : Duration} {next : Attempts} :
      p.fail g.backoff IoError.message e = .ok (pause, next) →
      Alone g c (.dialEnded c (.error e)) (.dialing p) (.pausing pause next)
        [.pauseStarted c pause]
  | exhausted {p : Attempts} {e : IoError} {spent : RetryError IoError} :
      p.fail g.backoff IoError.message e = .error spent →
      Alone g c (.dialEnded c (.error e)) (.dialing p)
        (.leaving (.failed (.connect g.endpoint.render spent))) []
  | resume (d : Duration) (p : Attempts) : Alone g c (.pauseEnded c) (.pausing d p) (.ready p) []
  | shake : Alone g c (.proceed c) .dialed .shaking [.shakeStarted c]
  | refused (e : TunnelError) :
      Alone g c (.shakeEnded c (.error e)) .shaking (.leaving (.failed e)) []
  | disconnect (t : TransportId) :
      Alone g c (.proceed c) (.toClose t) (.closing t) [.closeStarted c t]
  | disconnected (t : TransportId) (r : Except TunnelError Unit) :
      Alone g c (.closeEnded c r) (.closing t) (.done (.closed r)) [.returned c (.closed r)]

inductive Leaving (c : CallId) : Phase → Phase → List Event → Prop where
  | reply (r : Reply) : Leaving c (.leaving r) (.done r) [.returned c r]
  | nothing : Leaving c (.taken none) (.done (.closed (.ok ()))) [.returned c (.closed (.ok ()))]
  | close (t : TransportId) : Leaving c (.taken (some t)) (.toClose t) []

inductive Transition (g : Gateway) (s : State) : Action → State → List Event → Prop where
  | alone {c : CallId} {a : Action} {p q : Phase} {es : List Event} :
      Alone g c a p q es → s.calls c = p → Transition g s a (s.move c q) es
  /-- The first look at the slot finds a live transport. -/
  | hit {c : CallId} {t : TransportId} :
      s.calls c = .entered → s.slot = some t → s.hasEnded t = false →
      Transition g s (.proceed c) (s.move c (.done (.acquired t))) [.returned c (.acquired t)]
  | miss {c : CallId} :
      s.calls c = .entered → s.live? = none →
      Transition g s (.proceed c) (s.move c (.asking .acquire)) []
  | lock {c : CallId} {goal : Goal} :
      s.calls c = .asking goal → s.holder = none → s.queue = [] →
      Transition g s (.proceed c) ({ s with holder := some c }.move c (.locked goal)) []
  | wait {c : CallId} {goal : Goal} :
      s.calls c = .asking goal → ¬(s.holder = none ∧ s.queue = []) →
      Transition g s (.proceed c) ({ s with queue := s.queue ++ [c] }.move c (.waiting goal)) []
  /-- The second look at the slot finds a live transport. -/
  | reuse {c : CallId} {t : TransportId} :
      s.calls c = .locked .acquire → s.slot = some t → s.hasEnded t = false →
      Transition g s (.proceed c) (s.move c (.leaving (.acquired t))) []
  | vacant {c : CallId} :
      s.calls c = .locked .acquire → s.slot = none →
      Transition g s (.proceed c) (s.move c (.ready .start)) []
  | evict {c : CallId} {t : TransportId} :
      s.calls c = .locked .acquire → s.slot = some t → s.hasEnded t = true →
      Transition g s (.proceed c) ({ s with slot := none }.move c (.ready .start)) [.evicted c t]
  | takeNothing {c : CallId} :
      s.calls c = .locked .close → s.slot = none →
      Transition g s (.proceed c) (s.move c (.taken none)) []
  | take {c : CallId} {t : TransportId} :
      s.calls c = .locked .close → s.slot = some t →
      Transition g s (.proceed c) ({ s with slot := none }.move c (.taken (some t))) [.took c t]
  | create {c : CallId} :
      s.calls c = .shaking →
      Transition g s (.shakeEnded c (.ok ()))
        ({ s with transports := s.transports ++ [Transport.mk false .unwatched] }.move c
          (.publishing s.transports.length)) [.created c s.transports.length]
  | publish {c : CallId} {t : TransportId} :
      s.calls c = .publishing t →
      Transition g s (.proceed c) ({ s with slot := some t }.move c (.watching t)) [.published c t]
  | watch {c : CallId} {t : TransportId} :
      s.calls c = .watching t →
      Transition g s (.proceed c)
        ((s.change t fun x => { x with watch := .running }).move c (.leaving (.acquired t)))
        [.watched c t]
  | leave {c : CallId} {p q : Phase} {es : List Event} :
      Leaving c p q es → s.calls c = p →
      Transition g s (.proceed c) (s.release c q).1 ((s.release c q).2 ++ es)
  | die {t : TransportId} :
      t < s.transports.length →
      Transition g s (.die t) (s.change t fun x => { x with ended := true }) [.ended t]
  /-- The watcher sees the end of the transport in the slot. -/
  | clear {t : TransportId} :
      s.transports[t]? = some ⟨true, .running⟩ → s.slot = some t →
      Transition g s (.notice t)
        { (s.change t fun x => { x with watch := .finished }) with slot := none } [.cleared t]
  /-- The watcher sees the end of a transport that left the slot. -/
  | pass {t : TransportId} :
      s.transports[t]? = some ⟨true, .running⟩ → s.slot ≠ some t →
      Transition g s (.notice t) (s.change t fun x => { x with watch := .finished }) []

theorem State.live?_some (live : s.live? = some t) : s.slot = some t ∧ s.hasEnded t = false := by
  simpa [live?, Option.filter_eq_some_iff] using live

theorem State.live?_none (dead : s.live? = none) (slot : s.slot = some t) : s.hasEnded t = true := by
  simpa [live?, slot] using dead

theorem Transition.of_recheck (phase : s.calls c = .locked .acquire)
    (h : s.recheck c = (s', es)) : Transition g s (.proceed c) s' es := by
  unfold State.recheck at h
  split at h
  · rename_i t live
    cases h
    exact .reuse phase (State.live?_some live).1 (State.live?_some live).2
  · rename_i dead
    cases h
    cases slot : s.slot with
    | none =>
        have same : { s with slot := none } = s := by cases s; cases slot; rfl
        rw [same]
        exact .vacant phase slot
    | some t => exact .evict phase slot (State.live?_none dead slot)

theorem Transition.of_proceed (h : s.proceed c = some (s', es)) :
    Transition g s (.proceed c) s' es := by
  unfold State.proceed at h
  split at h
  · rename_i phase
    split at h
    · rename_i t live
      cases h
      exact .hit phase (State.live?_some live).1 (State.live?_some live).2
    · rename_i dead
      cases h
      exact .miss phase dead
  · rename_i goal phase
    cases h
    unfold State.ask
    split
    · rename_i free
      simp only [Bool.and_eq_true, Option.isNone_iff_eq_none, List.isEmpty_iff] at free
      exact .lock phase free.1 free.2
    · rename_i busy
      simp only [Bool.and_eq_true, Option.isNone_iff_eq_none, List.isEmpty_iff] at busy
      exact .wait phase busy
  · rename_i phase
    exact .of_recheck phase (Option.some.inj h)
  · rename_i phase
    cases h
    cases slot : s.slot with
    | none =>
        have same : { s with slot := none } = s := by cases s; cases slot; rfl
        rw [same]
        exact .takeNothing phase slot
    | some t => exact .take phase slot
  · rename_i phase
    cases h
    exact .alone (.dial _) phase
  · rename_i phase
    cases h
    exact .alone .shake phase
  · rename_i phase
    cases h
    exact .publish phase
  · rename_i phase
    cases h
    exact .watch phase
  · rename_i phase
    cases h
    exact .leave (.reply _) phase
  · rename_i phase
    cases h
    exact .leave .nothing phase
  · rename_i t phase
    have same : s.release c (.toClose t) = (s', es) := Option.some.inj h
    simpa only [same, List.append_nil] using Transition.leave (g := g) (.close t) phase
  · rename_i phase
    cases h
    exact .alone (.disconnect _) phase
  · cases h

theorem Transition.of_step (h : step g s a = some (s', es)) : Transition g s a s' es := by
  unfold step at h
  split at h
  · split at h
    · rename_i phase
      cases h
      exact .alone .enter phase
    · rename_i phase
      cases h
      exact .alone .approach phase
    · cases h
  · exact .of_proceed h
  · split at h
    · rename_i phase
      cases h
      exact .alone (.connected _) phase
    · rename_i p e phase
      unfold State.afterDial at h
      split at h
      · rename_i retried
        cases h
        exact .alone (.retry retried) phase
      · rename_i spent
        cases h
        exact .alone (.exhausted spent) phase
    · cases h
  · split at h
    · rename_i phase
      cases h
      exact .alone (.resume _ _) phase
    · cases h
  · split at h
    · rename_i phase
      cases h
      exact .create phase
    · rename_i phase
      cases h
      exact .alone (.refused _) phase
    · cases h
  · split at h
    · rename_i phase
      cases h
      exact .alone (.disconnected _ _) phase
    · cases h
  · split at h
    · rename_i lt
      cases h
      exact .die lt
    · cases h
  · split at h
    · rename_i ended
      dsimp only at h
      split at h
      · rename_i slot
        cases h
        exact .clear ended slot
      · rename_i slot
        cases h
        exact .pass ended slot
    · cases h

theorem Leaving.shown (h : Leaving c p q es) {e : Event} (mem : e ∈ (s.release c q).2 ++ es) :
    (∃ next, e = .handed next) ∨ ∃ r, e = .returned c r := by
  rw [State.release_shown] at mem
  rcases List.mem_append.1 mem with handed | shown
  · obtain ⟨next, -, rfl⟩ := List.mem_map.1 handed
    exact .inl ⟨next, rfl⟩
  · cases h <;> simp_all

theorem Alone.single (h : Alone g c a p q es) {e : Event} (mem : e ∈ es) : es = [e] := by
  cases h <;> simp_all

theorem Transition.single (h : Transition g s a s' es) {e : Event} (mem : e ∈ es) :
    es = [e] ∨ (∃ c, e = .handed c) ∨ ∃ c r, e = .returned c r := by
  cases h with
  | alone own => exact .inl (own.single mem)
  | leave own =>
      rcases own.shown mem with handed | ⟨r, returned⟩
      · exact .inr (.inl handed)
      · exact .inr (.inr ⟨_, r, returned⟩)
  | _ => simp_all

/-! ## Runs -/

abbrev Reached (g : Gateway) : List Action → State → List Event → Prop :=
  Reaches (step g) .start

theorem Reached.upTo {l₁ l₂ : List Event} {e : Event} (reached : Reached g as s (l₁ ++ e :: l₂))
    (handed : ∀ c, e ≠ .handed c) (returned : ∀ c r, e ≠ .returned c r) :
    ∃ bs u a u', Reached g bs u l₁ ∧ Transition g u a u' [e] := by
  obtain ⟨bs, u, es₁, a, u', d₁, d₂, _, _, before, moved, -, -, rfl, -⟩ := reached.split
  have h := Transition.of_step moved
  rcases h.single (e := e) (by simp) with only | ⟨c, same⟩ | ⟨c, r, same⟩
  · have first : d₁ = [] := by
      cases d₁ with
      | nil => rfl
      | cons x d => simp at only
    rw [only] at h
    rw [first, List.append_nil]
    exact ⟨bs, u, a, u', before, h⟩
  · exact absurd same (handed c)
  · exact absurd same (returned c r)

theorem run_iff : run g s as = some (s', es) ↔ Reaches (step g) s as s' es :=
  reaches_iff (fun _ => rfl) fun s a as => by
    simp only [run, Option.bind_eq_bind, Option.map_eq_bind]
    rfl

end GatewayTunnel.Manager
