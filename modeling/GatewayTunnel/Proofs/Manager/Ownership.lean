import GatewayTunnel.Proofs.Manager.Creation
import GatewayTunnel.Proofs.Manager.Ending
import Mathlib.Logic.ExistsUnique

namespace GatewayTunnel.Manager

variable {g : Gateway} {s s' : State} {a : Action} {as : List Action} {es fs l : List Event}
  {c c' : CallId} {t u : TransportId} {p q : Phase} {e e' : Event}

/-! ## Places -/

/-- Where a transport can be. -/
inductive Place where
  | built (c : CallId)
  | slot
  | reaped
  | taken (c : CallId)

def IsAt (s : State) (es : List Event) (t : TransportId) : Place → Prop
  | .built c => s.holder = some c ∧ s.calls c = .publishing t
  | .slot => s.slot = some t
  | .reaped => ∃ l₁ e l₂, es = l₁ ++ e :: l₂ ∧ e.reaped? = some t ∧ .ended t ∈ l₁
  | .taken c => .took c t ∈ es

theorem State.built?_eq_some : s.built? = some t ↔
    ∃ c, s.holder = some c ∧ s.calls c = .publishing t := by
  have same : ∀ {p : Phase}, p.built? = some t ↔ p = .publishing t := by
    intro p
    cases p <;> simp [Phase.built?]
  simp only [built?, Option.bind_eq_some_iff, same]

theorem eq_of_nodup_filterMap {α β : Type} {f : α → Option β} {l : List α} {x y : α} {b : β}
    (nodup : (l.filterMap f).Nodup) (hx : x ∈ l) (hy : y ∈ l) (fx : f x = some b)
    (fy : f y = some b) : x = y := by
  induction l with
  | nil => cases hx
  | cons z l ih =>
      cases fz : f z with
      | none =>
          simp only [List.filterMap_cons, fz] at nodup
          have ne : ∀ {w}, f w = some b → w ≠ z := fun fw same => by simp [← same, fw] at fz
          exact ih nodup ((List.mem_cons.1 hx).resolve_left (ne fx))
            ((List.mem_cons.1 hy).resolve_left (ne fy))
      | some d =>
          simp only [List.filterMap_cons, fz, List.nodup_cons, List.mem_filterMap, not_exists,
            not_and] at nodup
          rcases List.mem_cons.1 hx with rfl | inx <;> rcases List.mem_cons.1 hy with rfl | iny
          · rfl
          · exact absurd (fy.trans (fx.symm.trans fz)) (nodup.1 y iny)
          · exact absurd (fx.trans (fy.symm.trans fz)) (nodup.1 x inx)
          · exact ih nodup.2 inx iny

namespace Ledger

theorem nodup (ledger : Ledger s es) :
    (es.filterMap Event.departed? ++ s.slot.toList ++ s.built?.toList).Nodup := by
  rw [ledger.departed]
  exact List.nodup_range

theorem departure_unique (ledger : Ledger s es) (mem : e ∈ es) (mem' : e' ∈ es)
    (departed : e.departed? = some t) (departed' : e'.departed? = some t) : e = e' :=
  eq_of_nodup_filterMap (List.nodup_append.1 (List.nodup_append.1 ledger.nodup).1).1 mem mem'
    departed departed'

theorem slot_not_departed (ledger : Ledger s es) (slot : s.slot = some t) (mem : e ∈ es) :
    e.departed? ≠ some t := by
  intro departed
  have disjoint := (List.nodup_append.1 (List.nodup_append.1 ledger.nodup).1).2.2
  exact disjoint t (List.mem_filterMap.2 ⟨e, mem, departed⟩) t (by simp [slot]) rfl

theorem built_not_departed (ledger : Ledger s es) (built : s.built? = some t) (mem : e ∈ es) :
    e.departed? ≠ some t := by
  intro departed
  have disjoint := (List.nodup_append.1 ledger.nodup).2.2
  exact disjoint t (List.mem_append_left _ (List.mem_filterMap.2 ⟨e, mem, departed⟩)) t
    (by simp [built]) rfl

theorem built_ne_slot (ledger : Ledger s es) (built : s.built? = some t) : s.slot ≠ some t := by
  intro slot
  have disjoint := (List.nodup_append.1 ledger.nodup).2.2
  exact disjoint t (List.mem_append_right _ (by simp [slot])) t (by simp [built]) rfl

theorem cases_of_lt (ledger : Ledger s es) (lt : t < s.transports.length) :
    (∃ e ∈ es, e.departed? = some t) ∨ s.slot = some t ∨ s.built? = some t := by
  have mem : t ∈ List.range s.transports.length := List.mem_range.2 lt
  rw [← ledger.departed, List.mem_append, List.mem_append, List.mem_filterMap] at mem
  simpa [or_assoc] using mem

theorem created_iff (ledger : Ledger s es) :
    (∃ c, .created c t ∈ es) ↔ t < s.transports.length := by
  rw [← List.mem_range, ← ledger.created, List.mem_filterMap]
  constructor
  · rintro ⟨c, mem⟩
    exact ⟨_, mem, rfl⟩
  · rintro ⟨e, mem, made⟩
    obtain ⟨c, rfl⟩ := Event.created?_eq_some.1 made
    exact ⟨c, mem⟩

theorem published_lt (ledger : Ledger s es) (mem : .published c t ∈ es) :
    t < s.transports.length := by
  rw [← List.mem_range, ← ledger.published]
  exact List.mem_append_left _ (List.mem_filterMap.2 ⟨_, mem, rfl⟩)

end Ledger

theorem isAt_exists (reached : Reached g as s es) (lt : t < s.transports.length) :
    ∃ x, IsAt s es t x := by
  rcases (ledger_of_reached reached).cases_of_lt lt with ⟨e, mem, departed⟩ | slot | built
  · rcases Event.departed?_eq_some.1 departed with reaped | taken
    · obtain ⟨l₁, l₂, rfl⟩ := List.append_of_mem mem
      exact ⟨.reaped, l₁, e, l₂, rfl, reaped, ended_before_reaped reached reaped⟩
    · obtain ⟨c, rfl⟩ := Event.taken?_eq_some.1 taken
      exact ⟨.taken c, mem⟩
  · exact ⟨.slot, slot⟩
  · obtain ⟨c, holder, phase⟩ := State.built?_eq_some.1 built
    exact ⟨.built c, holder, phase⟩

theorem isAt_cases {x : Place} (h : IsAt s es t x) :
    (∃ e ∈ es, e.departed? = some t ∧
        (e.reaped? = some t ∧ x = .reaped ∨ ∃ c, e = .took c t ∧ x = .taken c)) ∨
      (s.slot = some t ∧ x = .slot) ∨
      (s.built? = some t ∧ ∃ c, s.holder = some c ∧ x = .built c) := by
  cases x with
  | built c => exact .inr (.inr ⟨State.built?_eq_some.2 ⟨c, h⟩, c, h.1, rfl⟩)
  | slot => exact .inr (.inl ⟨h, rfl⟩)
  | reaped =>
      obtain ⟨l₁, e, l₂, rfl, reaped, -⟩ := h
      exact .inl ⟨e, by simp, Event.departed?_eq_some.2 (.inl reaped), .inl ⟨reaped, rfl⟩⟩
  | taken c => exact .inl ⟨_, h, rfl, .inr ⟨c, rfl, rfl⟩⟩

theorem isAt_unique (ledger : Ledger s es) {x y : Place} (hx : IsAt s es t x)
    (hy : IsAt s es t y) : x = y := by
  rcases isAt_cases hx with ⟨e, mem, gone, why⟩ | ⟨slot, rfl⟩ | ⟨built, c, holds, rfl⟩ <;>
    rcases isAt_cases hy with ⟨e', mem', gone', why'⟩ | ⟨slot', rfl⟩ | ⟨built', c', holds', rfl⟩
  · obtain rfl := ledger.departure_unique mem mem' gone gone'
    rcases why with ⟨reaped, rfl⟩ | ⟨c, rfl, rfl⟩ <;>
      rcases why' with ⟨reaped', rfl⟩ | ⟨c', took, rfl⟩
    · rfl
    · simp [took, Event.reaped?] at reaped
    · simp [Event.reaped?] at reaped'
    · cases took
      rfl
  · exact absurd gone (ledger.slot_not_departed slot' mem)
  · exact absurd gone (ledger.built_not_departed built' mem)
  · exact absurd gone' (ledger.slot_not_departed slot mem')
  · rfl
  · exact absurd slot (ledger.built_ne_slot built')
  · exact absurd gone' (ledger.built_not_departed built mem')
  · exact absurd slot' (ledger.built_ne_slot built)
  · rw [Option.some.inj (holds.symm.trans holds')]

/-! ## Closing -/

namespace Event

def handles : Event → Bool
  | took .. | closeStarted .. => true
  | _ => false

def closes (t : TransportId) : Event → Bool
  | closeStarted _ u => u = t
  | _ => false

end Event

def Handled (c : CallId) : Phase → List Event → Prop
  | .taken (some t), l | .toClose t, l => l = [.took c t]
  | .closing t, l => l = [.took c t, .closeStarted c t]
  | .done (.closed _), l => l = [] ∨ ∃ t, l = [.took c t, .closeStarted c t]
  | _, l => l = []

theorem Handled.turn (h : Handled c p l) (turn : Turn g c a p q fs) :
    Handled c q (l ++ fs.filter Event.handles) := by
  cases turn with
  | alone own => cases own <;> simp_all [Handled, Event.handles]
  | vacate old => cases old <;> simp_all [Handled, Event.handles]
  | take old => cases old <;> simp_all [Handled, Event.handles]
  | leave own =>
      cases own with
      | reply r => cases r <;> simp_all [Handled, Event.handles]
      | _ => simp_all [Handled, Event.handles]
  | _ => simp_all [Handled, Event.handles]

theorem Handled.cases (h : Handled c p l) : l = [] ∨
    (∃ t, (p = .taken (some t) ∨ p = .toClose t) ∧ l = [.took c t]) ∨
    ∃ t, (p = .closing t ∨ ∃ r, p = .done (.closed r)) ∧ l = [.took c t, .closeStarted c t] := by
  unfold Handled at h
  split at h
  · exact .inr (.inl ⟨_, .inl rfl, h⟩)
  · exact .inr (.inl ⟨_, .inr rfl, h⟩)
  · exact .inr (.inr ⟨_, .inl rfl, h⟩)
  · rcases h with nothing | ⟨t, both⟩
    · exact .inl nothing
    · exact .inr (.inr ⟨t, .inr ⟨_, rfl⟩, both⟩)
  · exact .inl h

theorem Life.handled (life : Life g c p l) : Handled c p (l.filter Event.handles) := by
  induction life with
  | absent => rfl
  | turn _ turn ih =>
      rw [List.filter_append]
      exact ih.turn turn

theorem handled_of_reached (reached : Reached g as s es) (c : CallId) :
    Handled c (s.calls c) ((es.filter (·.isOf c)).filter Event.handles) :=
  (life_of_reached reached c).handled

theorem took_of_closeStarted (reached : Reached g as s es) (closed : .closeStarted c t ∈ es) :
    .took c t ∈ es := by
  have mem : .closeStarted c t ∈ (es.filter (·.isOf c)).filter Event.handles := by
    simp [closed, Event.isOf, Event.caller?, Event.handles]
  have took : .took c t ∈ (es.filter (·.isOf c)).filter Event.handles := by
    rcases (handled_of_reached reached c).cases with none | ⟨u, -, only⟩ | ⟨u, -, both⟩
    · simp [none] at mem
    · simp [only] at mem
    · simp_all
  exact (List.mem_filter.1 (List.mem_filter.1 took).1).1

theorem filter_closes (reached : Reached g as s es) (took : .took c t ∈ es) :
    es.filter (·.closes t) =
      ((es.filter (·.isOf c)).filter Event.handles).filter (·.closes t) := by
  rw [List.filter_filter, List.filter_filter]
  refine List.filter_congr fun e mem => ?_
  cases e with
  | closeStarted c' u =>
      by_cases h : u = t
      · subst h
        have took' := took_of_closeStarted reached mem
        have same := (ledger_of_reached reached).departure_unique took took' rfl rfl
        cases same
        simp [Event.closes, Event.handles, Event.isOf, Event.caller?]
      · simp [Event.closes, h]
  | _ => rfl

theorem closed_once (reached : Reached g as s es) (took : .took c t ∈ es) :
    ((s.calls c = .taken (some t) ∨ s.calls c = .toClose t) ∧ es.filter (·.closes t) = []) ∨
      ((s.calls c = .closing t ∨ ∃ r, s.calls c = .done (.closed r)) ∧
        es.filter (·.closes t) = [.closeStarted c t]) := by
  have mem : .took c t ∈ (es.filter (·.isOf c)).filter Event.handles := by
    simp [took, Event.isOf, Event.caller?, Event.handles]
  rw [filter_closes reached took]
  rcases (handled_of_reached reached c).cases with none | ⟨u, phase, only⟩ | ⟨u, phase, both⟩
  · simp [none] at mem
  · obtain rfl : t = u := by simpa [only] using mem
    rw [only]
    exact .inl ⟨phase, rfl⟩
  · obtain rfl : t = u := by simpa [both] using mem
    rw [both]
    exact .inr ⟨phase, by simp [Event.closes]⟩

/-! ## Closing during an acquire -/

def Gone (es : List Event) (t : TransportId) : Prop :=
  .ended t ∈ es ∨ ∃ c, .took c t ∈ es

theorem Gone.append (gone : Gone es t) : Gone (es ++ fs) t := by
  rcases gone with ended | ⟨c, took⟩
  · exact .inl (List.mem_append_left _ ended)
  · exact .inr ⟨c, List.mem_append_left _ took⟩

theorem gone_of_vacant (reached : Reached g as s es) (slot : s.slot = none)
    (built : s.built? = none) (lt : t < s.transports.length) : Gone es t := by
  rcases (ledger_of_reached reached).cases_of_lt lt with ⟨e, mem, departed⟩ | inSlot | inHand
  · rcases Event.departed?_eq_some.1 departed with reaped | taken
    · obtain ⟨l₁, l₂, rfl⟩ := List.append_of_mem mem
      exact .inl (List.mem_append_left _ (ended_before_reaped reached reaped))
    · obtain ⟨c, rfl⟩ := Event.taken?_eq_some.1 taken
      exact .inr ⟨c, mem⟩
  · rw [slot] at inSlot
    cases inSlot
  · rw [built] at inHand
    cases inHand

namespace Phase

def beforeTake : Phase → Bool
  | asking .close | waiting .close | locked .close => true
  | _ => false

def out : Phase → Bool
  | toClose _ | closing _ | done _ => true
  | _ => false

end Phase

theorem Turn.out (turn : Turn g c a p q es) (out : p.out = true) : q.out = true := by
  cases turn with
  | alone own => cases own <;> simp_all [Phase.out]
  | leave own => cases own <;> simp_all [Phase.out]
  | _ => simp_all [Phase.out]

theorem Turn.hasLock_or_out (turn : Turn g c a p q es) (place : p.hasLock = true ∨ p.out = true) :
    q.hasLock = true ∨ q.out = true := by
  cases turn with
  | alone own => cases own <;> simp_all [Phase.out, Phase.hasLock]
  | leave own => cases own <;> simp_all [Phase.out, Phase.hasLock]
  | _ => simp_all [Phase.out, Phase.hasLock]

theorem Turn.beforeTake (turn : Turn g c a p q es) (before : p.beforeTake = true) :
    q.beforeTake = true ∨ ∃ old, q = .taken old := by
  cases turn with
  | alone own => cases own <;> simp_all [Phase.beforeTake]
  | leave own => cases own <;> simp_all [Phase.beforeTake]
  | lock goal => cases goal <;> simp_all [Phase.beforeTake]
  | wait goal => cases goal <;> simp_all [Phase.beforeTake]
  | handed goal => cases goal <;> simp_all [Phase.beforeTake]
  | _ => simp_all [Phase.beforeTake]

/-- Until a close has looked at the slot, the call that had the lock when it began has it or has
given it back; from then on all that this call published is gone. -/
def Outlasts (c c' : CallId) (s : State) (es : List Event) : Prop :=
  ((s.calls c).beforeTake = true ∧ ((s.calls c').hasLock = true ∨ (s.calls c').out = true)) ∨
    ((s.calls c').out = true ∧ ∀ t, .published c' t ∈ es → Gone es t)

theorem Transition.beforeTake (inv : LockInv s) (h : Transition g s a s' fs)
    (before : (s.calls c).beforeTake = true) :
    (s'.calls c).beforeTake = true ∨ ∃ old, s'.calls c = .taken old := by
  rcases h.turn inv c with ⟨same, -⟩ | turn
  · rw [same]
    exact .inl before
  · exact turn.beforeTake before

theorem Outlasts.step (h : Outlasts c c' s es) (other : c ≠ c') (reached : Reached g as s es)
    (moved : step g s a = some (s', fs)) : Outlasts c c' s' (es ++ fs) := by
  have inv := lockInv_of_reached reached
  have reached' := reached.snoc moved
  have inv' := lockInv_of_reached reached'
  have transition := Transition.of_step moved
  rcases h with ⟨before, place⟩ | ⟨out, gone⟩
  · have place' := transition.keeps (P := fun p => p.hasLock = true ∨ p.out = true) inv
      Turn.hasLock_or_out place
    rcases transition.beforeTake inv before with before' | ⟨old, taken⟩
    · exact .inl ⟨before', place'⟩
    · -- the close has just emptied the slot, and has the lock, so nothing is being built
      have lock : (s'.calls c).hasLock = true := by rw [taken]; rfl
      have out' : (s'.calls c').out = true :=
        place'.resolve_left fun lock' => other (inv'.unique lock lock')
      have slot : s'.slot = none := inv'.vacant c (by rw [taken]; rfl)
      have built : s'.built? = none := inv'.built?_of_hasLock taken rfl
      exact .inr ⟨out', fun t mem =>
        gone_of_vacant reached' slot built ((ledger_of_reached reached').published_lt mem)⟩
  · have out' := transition.keeps (P := fun p => p.out = true) inv Turn.out out
    refine .inr ⟨out', fun t mem => ?_⟩
    rcases List.mem_append.1 mem with old | new
    · exact (gone t old).append
    · rw [(transition.published inv new).1] at out
      cases out

theorem gone_after_close {s₁ s₂ : State} {bs : List Action} {es₁ es₂ : List Event} {r : Reply}
    (reached : Reached g as s es) (holds : s.holder = some c')
    (call : step g s (.arrive c .close) = some (s₁, es₁)) (rest : Reaches (step g) s₁ bs s₂ es₂)
    (done : s₂.calls c = .done r) (published : .published c' t ∈ es ++ es₁ ++ es₂) :
    Gone (es ++ es₁ ++ es₂) t := by
  have inv := lockInv_of_reached reached
  have lock := (inv.holder c').1 holds
  have fresh : s.calls c = .absent ∧ s₁ = s.move c (.asking .close) := by
    cases phase : s.calls c <;> simp_all [step]
  obtain ⟨absent, rfl⟩ := fresh
  have other : c ≠ c' := by
    rintro rfl
    simp [absent, Phase.hasLock] at lock
  have outlasts : Outlasts c c' s₂ (es ++ es₁ ++ es₂) := by
    clear done published
    induction rest with
    | refl =>
        refine .inl ⟨by rw [State.move_calls_self]; rfl, .inl ?_⟩
        rw [State.move_calls_ne other.symm]
        exact lock
    | snoc before moved ih =>
        rw [← List.append_assoc]
        exact ih.step other ((reached.snoc call).trans before) moved
  rcases outlasts with ⟨before, -⟩ | ⟨-, gone⟩
  · simp [done, Phase.beforeTake] at before
  · exact gone t published

/-! ## The statement -/

/-- Each transport that was made is at one place, and a transport is closed once, by the close that
took it. What an acquire with the lock publishes has ended or was taken when a close is over that
began meanwhile. -/
theorem transports_accounted (ran : run g .start as = some (s, es)) :
    (∀ c t, .created c t ∈ es → ∃! x, IsAt s es t x) ∧
    (∀ c t, .took c t ∈ es →
      ((s.calls c = .taken (some t) ∨ s.calls c = .toClose t) ∧ es.filter (·.closes t) = []) ∨
      ((s.calls c = .closing t ∨ ∃ r, s.calls c = .done (.closed r)) ∧
        es.filter (·.closes t) = [.closeStarted c t])) ∧
    (∀ c t, .closeStarted c t ∈ es → .took c t ∈ es) ∧
    ∀ c c' t r s₁ es₁ bs s₂ es₂, s.holder = some c' →
      step g s (.arrive c .close) = some (s₁, es₁) → run g s₁ bs = some (s₂, es₂) →
      .published c' t ∈ es ++ es₁ ++ es₂ → s₂.calls c = .done r →
      s₂.hasEnded t = true ∨ ∃ c'', .took c'' t ∈ es ++ es₁ ++ es₂ := by
  have reached := run_iff.1 ran
  refine ⟨fun c t made => ?_, fun c t => closed_once reached,
    fun c t => took_of_closeStarted reached, ?_⟩
  · have ledger := ledger_of_reached reached
    obtain ⟨x, at_x⟩ := isAt_exists reached (ledger.created_iff.1 ⟨c, made⟩)
    exact ⟨x, at_x, fun y at_y => isAt_unique ledger at_y at_x⟩
  · intro c c' t r s₁ es₁ bs s₂ es₂ holds call rest published done
    have reached₂ := (reached.snoc call).trans (run_iff.1 rest)
    rw [hasEnded_iff_of_reached reached₂]
    exact gone_after_close reached holds call (run_iff.1 rest) done published

def handshakeUnderWay : List Action :=
  (acquireAlone 0).take 7

/-- A close that waits for the acquire, and then closes what that publishes. -/
def closeMeanwhile : List Action :=
  .proceed 1 :: (acquireAlone 0).drop 7 ++
    [.proceed 1, .proceed 1, .proceed 1, .closeEnded 1 (.ok ())]

theorem transports_accounted_meanwhile : ∃ s es s₁ es₁ s₂ es₂,
    run sampleGateway .start handshakeUnderWay = some (s, es) ∧ s.holder = some 0 ∧
    step sampleGateway s (.arrive 1 .close) = some (s₁, es₁) ∧
    run sampleGateway s₁ closeMeanwhile = some (s₂, es₂) ∧ .published 0 0 ∈ es ++ es₁ ++ es₂ ∧
    s₂.calls 1 = .done (.closed (.ok ())) ∧
    (s₂.hasEnded 0 = true ∨ ∃ c, .took c 0 ∈ es ++ es₁ ++ es₂) := by
  refine ⟨_, _, _, _, _, _, rfl, rfl, rfl, rfl, List.mem_iff_getElem?.2 ⟨3, rfl⟩, rfl, ?_⟩
  exact (transports_accounted
    (rfl : run sampleGateway .start handshakeUnderWay = some (_, _))).2.2.2
    1 0 0 _ _ _ closeMeanwhile _ _ rfl rfl rfl (List.mem_iff_getElem?.2 ⟨3, rfl⟩) rfl

end GatewayTunnel.Manager
