import GatewayTunnel.Proofs.Manager.Calm
import GatewayTunnel.Proofs.Manager.Ownership

namespace GatewayTunnel.Manager

variable {g : Gateway} {s s' : State} {a : Action} {as : List Action} {es fs l : List Event}
  {c c' : CallId} {t u : TransportId} {p q : Phase}

def State.watch? (s : State) (t : TransportId) : Option Watch :=
  s.transports[t]?.map (·.watch)

namespace Event

def guards : Event → Bool
  | published .. | watched .. => true
  | _ => false

def watches (t : TransportId) : Event → Bool
  | watched _ u => u = t
  | _ => false

end Event

/-! ## Starting a watcher -/

def Guarded (c : CallId) : Phase → List Event → Prop
  | .watching t, l => l = [.published c t]
  | .leaving (.acquired t), l | .done (.acquired t), l =>
    l = [] ∨ l = [.published c t, .watched c t]
  | _, l => l = []

theorem Guarded.turn (h : Guarded c p l) (turn : Turn g c a p q fs) :
    Guarded c q (l ++ fs.filter Event.guards) := by
  cases turn with
  | alone own => cases own <;> simp_all [Guarded, Event.guards]
  | vacate old => cases old <;> simp_all [Guarded, Event.guards]
  | take old => cases old <;> simp_all [Guarded, Event.guards]
  | leave own =>
      cases own with
      | reply r => cases r <;> simp_all [Guarded, Event.guards]
      | _ => simp_all [Guarded, Event.guards]
  | _ => simp_all [Guarded, Event.guards]

theorem Guarded.cases (h : Guarded c p l) : l = [] ∨
    (∃ t, p = .watching t ∧ l = [.published c t]) ∨
    ∃ t, (∀ u, p ≠ .watching u) ∧ l = [.published c t, .watched c t] := by
  unfold Guarded at h
  split at h
  · exact .inr (.inl ⟨_, rfl, h⟩)
  · exact h.imp_right fun both => .inr ⟨_, nofun, both⟩
  · exact h.imp_right fun both => .inr ⟨_, nofun, both⟩
  · exact .inl h

theorem Life.guarded (life : Life g c p es) : Guarded c p (es.filter Event.guards) := by
  induction life with
  | absent => rfl
  | turn _ turn ih =>
      rw [List.filter_append]
      exact ih.turn turn

theorem guarded_of_reached (reached : Reached g as s es) (c : CallId) :
    Guarded c (s.calls c) ((es.filter (·.isOf c)).filter Event.guards) :=
  (life_of_reached reached c).guarded

theorem mem_guards {e : Event} : e ∈ (es.filter (·.isOf c)).filter Event.guards ↔
    e ∈ es ∧ e.caller? = some c ∧ e.guards = true := by
  simp [List.mem_filter, Event.isOf, and_comm]

theorem published_of_watching (reached : Reached g as s es) (phase : s.calls c = .watching t) :
    .published c t ∈ es := by
  have guarded := guarded_of_reached reached c
  rw [phase] at guarded
  have mem : .published c t ∈ (es.filter (·.isOf c)).filter Event.guards := by
    rw [show _ = _ from guarded]
    exact .head _
  exact (mem_guards.1 mem).1

theorem published_of_watched (reached : Reached g as s es) (watched : .watched c t ∈ es) :
    .published c t ∈ es := by
  have mem := mem_guards.2 ⟨watched, rfl, rfl⟩
  apply (mem_guards (c := c)).1 _ |>.1
  rcases (guarded_of_reached reached c).cases with none | ⟨u, -, only⟩ | ⟨u, -, both⟩
  · simp [none] at mem
  · simp [only] at mem
  · simp_all

theorem published_unique (reached : Reached g as s es) (mem : .published c t ∈ es)
    (mem' : .published c' t ∈ es) : c = c' := by
  have ledger := ledger_of_reached reached
  have nodup : (es.filterMap Event.published? ++ s.built?.toList).Nodup := by
    rw [ledger.published]
    exact List.nodup_range
  have same := eq_of_nodup_filterMap (List.nodup_append.1 nodup).1 mem mem' rfl rfl
  exact (Event.published.inj same).1

theorem unpublished_of_publishing (reached : Reached g as s es)
    (phase : s.calls c = .publishing t) : .published c' t ∉ es := by
  intro mem
  have ledger := ledger_of_reached reached
  have built := (lockInv_of_reached reached).built?_eq_some phase
  have nodup : (es.filterMap Event.published? ++ s.built?.toList).Nodup := by
    rw [ledger.published]
    exact List.nodup_range
  have disjoint := (List.nodup_append.1 nodup).2.2
  exact disjoint t (List.mem_filterMap.2 ⟨_, mem, rfl⟩) t (by simp [built]) rfl

theorem filter_watches (reached : Reached g as s es) (published : .published c t ∈ es) :
    es.filter (·.watches t) =
      ((es.filter (·.isOf c)).filter Event.guards).filter (·.watches t) := by
  rw [List.filter_filter, List.filter_filter]
  refine List.filter_congr fun e mem => ?_
  cases e with
  | watched c' u =>
      by_cases h : u = t
      · subst h
        obtain rfl := published_unique reached published (published_of_watched reached mem)
        simp [Event.watches, Event.guards, Event.isOf, Event.caller?]
      · simp [Event.watches, h]
  | _ => rfl

theorem filter_watches_eq_nil (unpublished : ∀ c, .published c t ∉ es)
    (reached : Reached g as s es) : es.filter (·.watches t) = [] := by
  rw [List.filter_eq_nil_iff]
  intro e mem watches
  cases e with
  | watched c u =>
      obtain rfl : u = t := by simpa [Event.watches] using watches
      exact unpublished c (published_of_watched reached mem)
  | _ => cases watches

theorem watched_once (reached : Reached g as s es) (published : .published c t ∈ es) :
    (s.calls c = .watching t ∧ es.filter (·.watches t) = []) ∨
      ((∀ u, s.calls c ≠ .watching u) ∧ es.filter (·.watches t) = [.watched c t]) := by
  have mem := mem_guards.2 ⟨published, rfl, rfl⟩
  rw [filter_watches reached published]
  rcases (guarded_of_reached reached c).cases with none | ⟨u, phase, only⟩ | ⟨u, phase, both⟩
  · simp [none] at mem
  · obtain rfl : t = u := by simpa [only] using mem
    rw [only]
    exact .inl ⟨phase, rfl⟩
  · obtain rfl : t = u := by simpa [both] using mem
    rw [both]
    exact .inr ⟨phase, by simp [Event.watches]⟩

/-! ## The phases of a watcher -/

theorem State.watch?_congr (same : s'.transports = s.transports) : s'.watch? t = s.watch? t := by
  simp [watch?, same]

theorem State.watch?_change {f : Transport → Transport} :
    (s.change u f).watch? t =
      if u = t then s.transports[t]?.map fun x => (f x).watch else s.watch? t := by
  simp only [watch?, change, List.getElem?_modify]
  cases s.transports[t]? <;> by_cases h : u = t <;> simp [h]

theorem Alone.unwatched (h : Alone g c a p q es) : es.filter (·.watches t) = [] := by
  cases h <;> rfl

theorem Leaving.unwatched (h : Leaving c p q es) :
    ((s.release c q).2 ++ es).filter (·.watches t) = [] := by
  rw [List.filter_eq_nil_iff]
  intro e mem
  rcases h.shown mem with ⟨next, rfl⟩ | ⟨r, rfl⟩ <;> simp [Event.watches]

structure WatchInv (s : State) (es : List Event) : Prop where
  unwatched : ∀ t, s.watch? t = some .unwatched ↔
    t < s.transports.length ∧ es.filter (·.watches t) = []
  slot : ∀ t, s.slot = some t → s.watch? t ≠ some .finished

namespace WatchInv

theorem start : WatchInv .start [] := by
  constructor <;> simp [State.start, State.watch?]

theorem still (inv : WatchInv s es) (same : ∀ t, s'.watch? t = s.watch? t)
    (count : s'.transports.length = s.transports.length)
    (silent : ∀ t, fs.filter (·.watches t) = [])
    (slot : ∀ t, s'.slot = some t → s.slot = some t ∨ s.watch? t = some .unwatched) :
    WatchInv s' (es ++ fs) where
  unwatched t := by
    rw [same, count, List.filter_append, silent, List.append_nil]
    exact inv.unwatched t
  slot t now := by
    rw [same]
    rcases slot t now with before | unwatched
    · exact inv.slot t before
    · simp [unwatched]

theorem create (inv : WatchInv s es) (reached : Reached g as s es) (slot : s'.slot = s.slot)
    (transports : s'.transports = s.transports ++ [Transport.mk false .unwatched])
    (silent : ∀ t, fs.filter (·.watches t) = []) : WatchInv s' (es ++ fs) := by
  have ledger := ledger_of_reached reached
  have old : ∀ t < s.transports.length, s'.watch? t = s.watch? t := by
    intro t lt
    simp [State.watch?, transports, List.getElem?_append_left lt]
  constructor
  · intro t
    rw [List.filter_append, silent, List.append_nil, transports, List.length_append]
    rcases Nat.lt_trichotomy t s.transports.length with lt | rfl | gt
    · rw [old t lt, inv.unwatched]
      simp [lt, Nat.lt_succ_of_lt lt]
    · have unpublished : ∀ c, .published c s.transports.length ∉ es :=
        fun c mem => Nat.lt_irrefl _ (ledger.published_lt mem)
      simp [State.watch?, transports, filter_watches_eq_nil unpublished reached]
    · have beyond : s.transports.length + 1 ≤ t := gt
      have none : s'.transports[t]? = none := by
        rw [transports]
        exact List.getElem?_eq_none (by simpa using beyond)
      simp [State.watch?, none, Nat.not_lt.2 beyond]
  · intro t now
    rw [slot] at now
    rw [old t (ledger.slot_lt now)]
    exact inv.slot t now

theorem watch (inv : WatchInv s es) (lt : u < s.transports.length) (slot : s'.slot = s.slot)
    (transports : s'.transports = (s.change u fun x => { x with watch := .running }).transports) :
    WatchInv s' (es ++ [.watched c u]) := by
  have watch : ∀ t, s'.watch? t = if u = t then some .running else s.watch? t := by
    intro t
    rw [State.watch?_congr transports, State.watch?_change]
    by_cases h : u = t
    · subst h
      simp [List.getElem?_eq_getElem lt]
    · simp [h]
  constructor
  · intro t
    rw [watch, transports, State.change_length, List.filter_append]
    by_cases h : u = t
    · simp [h, Event.watches]
    · simpa [h, Event.watches] using inv.unwatched t
  · intro t now
    rw [slot] at now
    rw [watch]
    by_cases h : u = t
    · simp [h]
    · simpa [h] using inv.slot t now

theorem finish (inv : WatchInv s es) (running : s.watch? u = some .running)
    (transports : s'.transports = (s.change u fun x => { x with watch := .finished }).transports)
    (slot : ∀ t, s'.slot = some t → s.slot = some t ∧ t ≠ u)
    (silent : ∀ t, fs.filter (·.watches t) = []) : WatchInv s' (es ++ fs) := by
  have watch : ∀ t, s'.watch? t = if u = t then some .finished else s.watch? t := by
    intro t
    rw [State.watch?_congr transports, State.watch?_change]
    by_cases h : u = t
    · subst h
      cases transport : s.transports[u]? <;> simp_all [State.watch?]
    · simp [h]
  constructor
  · intro t
    rw [watch, transports, State.change_length, List.filter_append, silent, List.append_nil,
      ← inv.unwatched]
    by_cases h : u = t
    · subst h
      simp [running]
    · simp [h]
  · intro t now
    obtain ⟨before, other⟩ := slot t now
    rw [watch, if_neg (Ne.symm other)]
    exact inv.slot t before

theorem step (inv : WatchInv s es) (reached : Reached g as s es) (h : Transition g s a s' fs) :
    WatchInv s' (es ++ fs) := by
  cases h with
  | alone own => exact inv.still (fun _ => rfl) rfl (fun _ => own.unwatched) fun _ => .inl
  | evict => exact inv.still (fun _ => rfl) rfl (fun _ => rfl) nofun
  | take => exact inv.still (fun _ => rfl) rfl (fun _ => rfl) nofun
  | create => exact inv.create reached rfl rfl fun _ => rfl
  | @publish c u phase =>
      refine inv.still (fun _ => rfl) rfl (fun _ => rfl) fun t now => .inr ?_
      obtain rfl : u = t := Option.some.inj now
      have ledger := ledger_of_reached reached
      have built := (lockInv_of_reached reached).built?_eq_some phase
      have unpublished : ∀ c, .published c u ∉ es := fun _ =>
        unpublished_of_publishing reached phase
      exact (inv.unwatched u).2
        ⟨ledger.built_lt built, filter_watches_eq_nil unpublished reached⟩
  | @watch c u phase =>
      have lt := answer_lt_of_reached reached (c := c) (t := u) (by rw [phase]; rfl)
      exact inv.watch lt rfl rfl
  | leave own =>
      exact inv.still (fun _ => State.watch?_congr State.release_transports)
        (by rw [State.release_transports]) (fun _ => own.unwatched)
        fun t now => .inl (State.release_slot ▸ now)
  | die =>
      refine inv.still (fun t => ?_) State.change_length (fun _ => rfl) fun _ => .inl
      rw [State.watch?_change]
      split <;> rfl
  | clear running =>
      exact inv.finish (by simp [State.watch?, running]) rfl nofun fun _ => rfl
  | @pass u running other =>
      exact inv.finish (by simp [State.watch?, running]) rfl
        (fun t now => ⟨now, fun same => other (same ▸ now)⟩) fun _ => rfl
  | _ => exact inv.still (fun _ => rfl) rfl (fun _ => rfl) fun _ => .inl

end WatchInv

theorem watchInv_of_reached (reached : Reached g as s es) : WatchInv s es := by
  induction reached with
  | refl => exact .start
  | snoc before moved ih => exact ih.step before (.of_step moved)

/-! ## The statement -/

/-- The transport has one watcher: either the call that published it is about to start it, and no
other call is, or that call has started it, once, and no call is going to. -/
inductive OneWatcher (s : State) (es : List Event) (c : CallId) (t : TransportId) : Prop where
  | due : s.watch? t = some .unwatched → es.filter (·.watches t) = [] →
      (∀ c', s.calls c' = .watching t ↔ c' = c) → OneWatcher s es c t
  | started : s.watch? t = some .running ∨ s.watch? t = some .finished →
      es.filter (·.watches t) = [.watched c t] → (∀ c', s.calls c' ≠ .watching t) →
      OneWatcher s es c t

theorem oneWatcher_of_reached (reached : Reached g as s es) (published : .published c t ∈ es) :
    OneWatcher s es c t := by
  have inv := watchInv_of_reached reached
  have lt := (ledger_of_reached reached).published_lt published
  have only : ∀ c', s.calls c' = .watching t → c' = c := fun c' phase =>
    published_unique reached (published_of_watching reached phase) published
  rcases watched_once reached published with ⟨phase, unseen⟩ | ⟨phase, seen⟩
  · exact .due ((inv.unwatched t).2 ⟨lt, unseen⟩) unseen fun c' =>
      ⟨only c', fun same => same ▸ phase⟩
  · refine .started ?_ seen fun c' phase' => ?_
    · have watched : s.watch? t ≠ some .unwatched := by
        intro unwatched
        simp [((inv.unwatched t).1 unwatched).2] at seen
      obtain ⟨x, transport⟩ : ∃ x, s.transports[t]? = some x :=
        ⟨_, List.getElem?_eq_getElem lt⟩
      cases watch : x.watch <;> simp_all [State.watch?]
    · rw [only c' phase'] at phase'
      exact phase t phase'

theorem published_of_slot (reached : Reached g as s es) (slot : s.slot = some t) :
    ∃ c, .published c t ∈ es := by
  have ledger := ledger_of_reached reached
  have mem : t ∈ es.filterMap Event.published? ++ s.built?.toList := by
    rw [ledger.published]
    exact List.mem_range.2 (ledger.slot_lt slot)
  rcases List.mem_append.1 mem with published | built
  · obtain ⟨e, mem, same⟩ := List.mem_filterMap.1 published
    cases e with
    | published c u =>
        cases same
        exact ⟨c, mem⟩
    | _ => cases same
  · exact absurd slot (ledger.built_ne_slot (Option.mem_toList.1 built))

theorem Transition.slot_of_notice (h : Transition g s (.notice t) s' fs) :
    s.slot = some t ∧ s'.slot = none ∧ fs = [.cleared t] ∨
      s.slot ≠ some t ∧ s'.slot = s.slot ∧ fs = [] := by
  cases h with
  | alone own => cases own
  | clear running slot => exact .inl ⟨slot, rfl, rfl⟩
  | pass running slot => exact .inr ⟨slot, rfl, rfl⟩

/-- A published transport has one watcher, which empties the slot only of that transport and is not
finished while it is there. So when no call is in progress and no transport that ended has a watcher
that still runs, the slot is empty or holds a transport that has not ended. -/
theorem watchers_keep_slot_live (ran : run g .start as = some (s, es)) :
    (∀ c t, .published c t ∈ es → OneWatcher s es c t) ∧
    (∀ t s' fs, step g s (.notice t) = some (s', fs) →
      s.slot = some t ∧ s'.slot = none ∧ fs = [.cleared t] ∨
        s.slot ≠ some t ∧ s'.slot = s.slot ∧ fs = []) ∧
    (∀ t, s.slot = some t → s.watch? t = some .unwatched ∨ s.watch? t = some .running) ∧
    ((∀ c, s.calls c = .absent ∨ ∃ r, s.calls c = .done r) →
      (∀ t, s.hasEnded t = true → s.watch? t ≠ some .running) →
      s.slot = none ∨ ∃ t, s.slot = some t ∧ s.hasEnded t = false) := by
  have reached := run_iff.1 ran
  have inv := watchInv_of_reached reached
  have guarded : ∀ t, s.slot = some t →
      s.watch? t = some .unwatched ∨ s.watch? t = some .running := by
    intro t slot
    have lt := (ledger_of_reached reached).slot_lt slot
    obtain ⟨x, transport⟩ : ∃ x, s.transports[t]? = some x := ⟨_, List.getElem?_eq_getElem lt⟩
    have unfinished := inv.slot t slot
    cases watch : x.watch <;> simp_all [State.watch?]
  refine ⟨fun c t => oneWatcher_of_reached reached,
    fun t s' fs moved => (Transition.of_step moved).slot_of_notice, guarded,
    fun quiet noticed => ?_⟩
  cases slot : s.slot with
  | none => exact .inl rfl
  | some t =>
      refine .inr ⟨t, rfl, ?_⟩
      rw [Bool.eq_false_iff]
      intro ended
      rcases guarded t slot with unwatched | running
      · -- somebody is about to start the watcher, and so a call is in progress
        obtain ⟨c, published⟩ := published_of_slot reached slot
        have phase : s.calls c = .watching t := by
          cases oneWatcher_of_reached reached published with
          | due _ _ due => exact (due c).2 rfl
          | started watch => simp [unwatched] at watch
        rcases quiet c with absent | ⟨r, done⟩ <;> simp_all
      · exact noticed t ended running

/-- Call 1 evicts the transport of call 0 and publishes its own, which call 2 gets, before the watcher
of the first transport looks. -/
def lateNotice : List Action :=
  redial ++ [.proceed 1, .dialEnded 1 (.ok ()), .proceed 1, .shakeEnded 1 (.ok ()), .proceed 1,
    .proceed 1, .proceed 1, .proceed 2, .proceed 2]

theorem watchers_keep_slot_live_late : ∃ s es s' es',
    run sampleGateway .start lateNotice = some (s, es) ∧ s.slot = some 1 ∧ s.hasEnded 0 = true ∧
    OneWatcher s es 0 0 ∧ (s.watch? 1 = some .unwatched ∨ s.watch? 1 = some .running) ∧
    step sampleGateway s (.notice 0) = some (s', []) ∧ s'.slot = s.slot ∧
    run sampleGateway .start (lateNotice ++ [.notice 0]) = some (s', es') ∧
    (s'.slot = none ∨ ∃ t, s'.slot = some t ∧ s'.hasEnded t = false) := by
  obtain ⟨s, es, s', es', ran, ran', noticed, slot, ended, finished, shown, done⟩ :
      ∃ s es s' es', run sampleGateway .start lateNotice = some (s, es) ∧
        run sampleGateway .start (lateNotice ++ [.notice 0]) = some (s', es') ∧
        step sampleGateway s (.notice 0) = some (s', []) ∧ s.slot = some 1 ∧
        s.hasEnded 0 = true ∧ s'.watch? 0 = some .finished ∧
        (.published 0 0 ∈ es ∧ ∀ t, .ended t ∈ es' → t = 0) ∧
        (∃ r, s'.calls 0 = .done r) ∧ (∃ r, s'.calls 1 = .done r) ∧ ∃ r, s'.calls 2 = .done r :=
    ⟨_, _, _, _, rfl, rfl, rfl, rfl, rfl, rfl, ⟨List.mem_iff_getElem?.2 ⟨3, rfl⟩, by simp⟩,
      ⟨_, rfl⟩, ⟨_, rfl⟩, ⟨_, rfl⟩⟩
  have now := watchers_keep_slot_live ran
  have later := watchers_keep_slot_live ran'
  have reached' := run_iff.1 ran'
  have kept := (now.2.1 0 s' [] noticed).resolve_left fun own => by simp at own
  refine ⟨s, es, s', es', ran, slot, ended, now.1 0 0 shown.1, now.2.2.1 1 slot, noticed, kept.2.1,
    ran', later.2.2.2 (fun c => ?_) fun t dead => ?_⟩
  · by_cases called : c = 0 ∨ c = 1 ∨ c = 2
    · rcases called with rfl | rfl | rfl
      · exact .inr done.1
      · exact .inr done.2.1
      · exact .inr done.2.2
    · left
      by_contra present
      obtain ⟨goal, arrived⟩ := (arrived_iff reached').2 present
      simp_all [lateNotice, redial, acquireAlone]
  · obtain rfl := shown.2 t ((hasEnded_iff_of_reached reached').1 dead)
    simp [finished]

end GatewayTunnel.Manager
