import GatewayTunnel.Proofs.Manager.Calm
import GatewayTunnel.Proofs.Manager.Ownership

/-!
# When a transport is replaced

Before a call dials for a new transport, all transports that were published have ended or were taken
by a close. `FirstDial` keeps this while the call builds: since the call has the lock, nothing else is
published meanwhile. So the handshakes of a run are counted by what has ended, was taken or failed,
and while nothing of this happens all acquires share one transport: `replaced_only_when_gone`.
-/

namespace GatewayTunnel.Manager

variable {g : Gateway} {s s' : State} {a : Action} {as : List Action}
  {es fs l₁ l₂ : List Event} {c c' : CallId} {t : TransportId} {p q : Phase}

namespace Phase

def hasDialed : Phase → Bool
  | ready p | pausing _ p => p.attempt != 0
  | dialing _ | dialed | shaking | publishing _ => true
  | _ => false

def undialed : Phase → Bool
  | absent | entered | asking _ | waiting _ | locked _ => true
  | ready p | pausing _ p => p.attempt == 0
  | _ => false

theorem building_of_hasDialed (h : p.hasDialed = true) : p.building = true := by
  cases p <;> simp_all [hasDialed, building]

end Phase

theorem Turn.undialed (turn : Turn g c a p q es) (undialed : q.undialed = true) (n : Nat) :
    p.undialed = true ∧ .dialStarted c n ∉ es := by
  cases turn with
  | alone own =>
      cases own with
      | retry failed =>
          have next := (Backoff.Progress.fail_ok failed).1
          simp [Phase.undialed, next] at undialed
      | _ => simp_all [Phase.undialed]
  | leave own => cases own <;> simp_all [Phase.undialed]
  | vacate old => cases old <;> simp_all [Phase.undialed]
  | take old => cases old <;> simp_all [Phase.undialed]
  | _ => simp_all [Phase.undialed]

theorem Turn.hasDialed (turn : Turn g c a p q es) (dialed : q.hasDialed = true) :
    p.hasDialed = true ∨ p.building = true ∧ p.undialed = true ∧ es = [.dialStarted c 0] := by
  cases turn with
  | alone own =>
      cases own with
      | dial p =>
          by_cases first : p.attempt = 0 <;>
            simp [Phase.hasDialed, Phase.undialed, Phase.building, first]
      | _ => simp_all [Phase.hasDialed]
  | leave own => cases own <;> simp_all [Phase.hasDialed]
  | vacate old => simp [Phase.hasDialed, Backoff.Progress.start] at dialed
  | _ => simp_all [Phase.hasDialed]

theorem Life.not_dialed (life : Life g c p es) (undialed : p.undialed = true) (n : Nat) :
    .dialStarted c n ∉ es := by
  induction life with
  | absent => simp
  | turn before turn ih =>
      obtain ⟨before, none⟩ := turn.undialed undialed n
      rw [List.mem_append]
      exact not_or.2 ⟨ih before, none⟩

/-- Before the first dial of the call, all was gone that had been published. -/
def FirstDial (c : CallId) (es : List Event) : Prop :=
  ∃ m₁ m₂, es = m₁ ++ .dialStarted c 0 :: m₂ ∧ (∀ n, .dialStarted c n ∉ m₁) ∧
    ∀ c' t, .published c' t ∈ es → Gone m₁ t

theorem FirstDial.append (dial : FirstDial c es) (none : ∀ c' t, .published c' t ∉ fs) :
    FirstDial c (es ++ fs) := by
  obtain ⟨m₁, m₂, rfl, first, gone⟩ := dial
  refine ⟨m₁, m₂ ++ fs, by simp, first, fun c' t mem => gone c' t ?_⟩
  exact (List.mem_append.1 mem).resolve_right (none c' t)

theorem firstDial_start (reached : Reached g as s es) (building : (s.calls c).building = true)
    (undialed : (s.calls c).undialed = true) : FirstDial c (es ++ [.dialStarted c 0]) := by
  have inv := lockInv_of_reached reached
  have emptied := Phase.emptied_of_building building
  have built : s.built? = none := by
    rw [inv.built?_of_hasLock rfl (Phase.hasLock_of_emptied emptied)]
    cases phase : s.calls c <;> simp_all [Phase.built?, Phase.undialed]
  refine ⟨es, [], rfl, fun n mem => ?_, fun c' t mem => ?_⟩
  · apply (life_of_reached reached c).not_dialed undialed n
    exact mem_filter_isOf mem rfl
  · have old : .published c' t ∈ es := by simpa using mem
    exact gone_of_vacant reached (inv.vacant c emptied) built
      ((ledger_of_reached reached).published_lt old)

theorem firstDial_of_reached (reached : Reached g as s es)
    (dialed : (s.calls c).hasDialed = true) : FirstDial c es := by
  induction reached with
  | refl => cases dialed
  | @snoc as s es a s' fs before moved ih =>
      have h := Transition.of_step moved
      have inv := lockInv_of_reached before
      -- only the call itself could publish, since it has the lock, and it has not done so yet
      have none : ∀ c' t, .published c' t ∉ fs := by
        intro c' t mem
        have phase := (h.published inv mem).2
        have lock := Phase.hasLock_of_emptied
          (Phase.emptied_of_building (Phase.building_of_hasDialed dialed))
        have inv' := lockInv_of_reached (before.snoc moved)
        have same : c = c' := inv'.unique lock (by rw [phase]; rfl)
        rw [same, phase] at dialed
        cases dialed
      rcases h.turn inv c with ⟨same, -, -⟩ | turn
      · rw [same] at dialed
        exact (ih dialed).append none
      · rcases turn.hasDialed dialed with old | ⟨building, undialed, shown⟩
        · exact (ih old).append none
        · have mem : .dialStarted c 0 ∈ fs.filter (·.isOf c) := by rw [shown]; exact .head _
          rcases h.single (List.mem_filter.1 mem).1 with rfl | ⟨c', handed⟩ | ⟨c', r, returned⟩
          · exact firstDial_start before building undialed
          · cases handed
          · cases returned

/-- All that was published before a transport was gone before the dial for that transport. -/
theorem gone_before_dial (reached : Reached g as s (l₁ ++ .published c t :: l₂)) :
    FirstDial c l₁ := by
  obtain ⟨bs, u, a, u', before, h⟩ := reached.upTo nofun nofun
  have phase := (h.published (lockInv_of_reached before) (.head _)).1
  exact firstDial_of_reached before (by rw [phase]; rfl)

/-- A transport is replaced after it has ended or was taken by a close; so the handshakes are counted
by what has ended, was taken or failed. If nothing dies, is closed or fails, all acquires return one
transport, and they return. -/
theorem replaced_only_when_gone (ran : run g .start as = some (s, es)) :
    (∀ l₁ l₂ c t, es = l₁ ++ .published c t :: l₂ →
      ∃ m₁ m₂, l₁ = m₁ ++ .dialStarted c 0 :: m₂ ∧ (∀ n, .dialStarted c n ∉ m₁) ∧
        ∀ c' t', .published c' t' ∈ l₁ → .ended t' ∈ m₁ ∨ ∃ c'', .took c'' t' ∈ m₁) ∧
    es.countP Event.shakes ≤
      1 + s.transports.countP (·.ended) + es.countP Event.takes + as.countP Action.failsShake ∧
    ((∀ a ∈ as, a.disrupts = false) →
      es.countP Event.dials ≤ 1 ∧ es.countP Event.shakes ≤ 1 ∧
      (∀ c r, .returned c r ∈ es →
        r = .acquired 0 ∧ es.countP Event.dials = 1 ∧ es.countP Event.shakes = 1) ∧
      as.length ≤ 11 * as.countP Action.isArrival ∧
      ((∀ a, a.disrupts = false → a.isArrival = false → step g s a = none) →
        ∀ c goal, .arrive c goal ∈ as → .returned c (.acquired 0) ∈ es)) := by
  have reached := run_iff.1 ran
  refine ⟨?_, shakes_le reached, fun quiet => ?_⟩
  · rintro l₁ l₂ c t rfl
    exact gone_before_dial reached
  · have calm := calm_of_reached reached quiet
    refine ⟨calm.dials reached, calm.shakes reached, fun c r returned => ?_,
      calm.length_le reached, fun stuck c goal called => calm.returned reached stuck called⟩
    exact ⟨(calm.acquired reached returned).1, calm.counts reached returned⟩

/-- Call 1 is made before call 0 has found the slot empty, and waits for it. -/
def acquireTogether : List Action :=
  [.arrive 0 .acquire, .arrive 1 .acquire, .proceed 0, .proceed 1, .proceed 0, .proceed 1] ++
    (acquireAlone 0).drop 3 ++ [.proceed 1, .proceed 1]

theorem replaced_only_when_gone_together :
    (∃ s es l₁ l₂ m₁ m₂,
      run sampleGateway .start (acquireAlone 0 ++ .die 0 :: acquireAlone 1) = some (s, es) ∧
      es = l₁ ++ .published 1 1 :: l₂ ∧ .published 0 0 ∈ l₁ ∧
      l₁ = m₁ ++ .dialStarted 1 0 :: m₂ ∧ (.ended 0 ∈ m₁ ∨ ∃ c, .took c 0 ∈ m₁)) ∧
    ∃ s es, run sampleGateway .start acquireTogether = some (s, es) ∧
      (∀ a ∈ acquireTogether, a.disrupts = false) ∧
      (∀ a, a.disrupts = false → a.isArrival = false → step sampleGateway s a = none) ∧
      .returned 0 (.acquired 0) ∈ es ∧ .returned 1 (.acquired 0) ∈ es := by
  constructor
  · obtain ⟨m₁, m₂, dialed, -, gone⟩ := (replaced_only_when_gone
      (rfl : run sampleGateway .start (acquireAlone 0 ++ .die 0 :: acquireAlone 1) =
        some (_, _))).1
      [.dialStarted 0 0, .shakeStarted 0, .created 0 0, .published 0 0, .watched 0 0,
        .returned 0 (.acquired 0), .ended 0, .evicted 1 0, .dialStarted 1 0, .shakeStarted 1,
        .created 1 1] _ 1 1 rfl
    exact ⟨_, _, _, _, m₁, m₂, rfl, rfl, List.mem_iff_getElem?.2 ⟨3, rfl⟩, dialed,
      gone 0 0 (List.mem_iff_getElem?.2 ⟨3, rfl⟩)⟩
  · have quiet : ∀ a ∈ acquireTogether, a.disrupts = false := by
      simp [acquireTogether, acquireAlone, Action.disrupts]
    obtain ⟨s, es, ran, first, second⟩ : ∃ s es,
        run sampleGateway .start acquireTogether = some (s, es) ∧
        (∃ r, s.calls 0 = .done r) ∧ ∃ r, s.calls 1 = .done r :=
      ⟨_, _, rfl, ⟨_, rfl⟩, ⟨_, rfl⟩⟩
    have reached := run_iff.1 ran
    have stuck : ∀ a, a.disrupts = false → a.isArrival = false → step sampleGateway s a = none := by
      intro a
      apply stuck_of_finished
      · intro c
        by_cases called : c = 0 ∨ c = 1
        · rcases called with rfl | rfl
          · exact .inr first
          · exact .inr second
        · left
          by_contra present
          obtain ⟨goal, arrived⟩ := (arrived_iff reached).2 present
          simp_all [acquireTogether, acquireAlone]
      · exact (calm_of_reached reached quiet).alive
    have returned := ((replaced_only_when_gone ran).2.2 quiet).2.2.2.2 stuck
    exact ⟨s, es, ran, quiet, stuck, returned 0 .acquire (.head _),
      returned 1 .acquire (.tail _ (.head _))⟩

end GatewayTunnel.Manager
