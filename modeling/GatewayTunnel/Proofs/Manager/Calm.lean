import GatewayTunnel.Proofs.Manager.Counting
import GatewayTunnel.Proofs.Manager.Freshness
import Mathlib.Algebra.BigOperators.Group.List.Lemmas
import Mathlib.Algebra.Order.BigOperators.Group.List
import Mathlib.Algebra.Order.Ring.Nat

namespace GatewayTunnel.Manager

variable {g : Gateway} {s s' : State} {a : Action} {as : List Action} {es fs : List Event}
  {c c' : CallId} {t : TransportId} {p q : Phase} {r : Reply}

namespace Action

/-- A close is called, a dial or a handshake fails, or a transport ends. -/
def disrupts : Action → Bool
  | arrive _ .close | dialEnded _ (.error _) | shakeEnded _ (.error _) | die _ => true
  | _ => false

def isArrival : Action → Bool
  | arrive .. => true
  | _ => false

end Action

/-! ## Calls are not stuck -/

theorem exists_step_of_call (called : s.calls c ≠ .absent) (free : (s.calls c).queued = false)
    (unfinished : ∀ r, s.calls c ≠ .done r) :
    ∃ a, a.disrupts = false ∧ a.isArrival = false ∧ step g s a ≠ none := by
  cases phase : s.calls c with
  | absent => exact absurd phase called
  | waiting goal => simp [phase, Phase.queued] at free
  | done r => exact absurd phase (unfinished r)
  | dialing p => exact ⟨.dialEnded c (.ok ()), rfl, rfl, by simp [step, phase]⟩
  | pausing d p => exact ⟨.pauseEnded c, rfl, rfl, by simp [step, phase]⟩
  | shaking => exact ⟨.shakeEnded c (.ok ()), rfl, rfl, by simp [step, phase]⟩
  | closing t => exact ⟨.closeEnded c (.ok ()), rfl, rfl, by simp [step, phase]⟩
  | entered =>
      refine ⟨.proceed c, rfl, rfl, ?_⟩
      cases live : s.live? <;> simp [step, State.proceed, phase, live]
  | locked goal =>
      refine ⟨.proceed c, rfl, rfl, ?_⟩
      cases goal <;> simp [step, State.proceed, phase]
  | taken t =>
      refine ⟨.proceed c, rfl, rfl, ?_⟩
      cases t <;> simp [step, State.proceed, phase]
  | _ => exact ⟨.proceed c, rfl, rfl, by simp [step, State.proceed, phase]⟩

theorem exists_step (reached : Reached g as s es) (called : s.calls c ≠ .absent)
    (unfinished : ∀ r, s.calls c ≠ .done r) :
    ∃ a, a.disrupts = false ∧ a.isArrival = false ∧ step g s a ≠ none := by
  have inv := lockInv_of_reached reached
  cases queued : (s.calls c).queued with
  | false => exact exists_step_of_call called queued unfinished
  | true =>
      -- somebody has the lock that the call waits for, and can go on
      have mem := (inv.queue c).2 queued
      cases holder : s.holder with
      | none =>
          rw [inv.idle holder] at mem
          cases mem
      | some c' =>
          have lock := (inv.holder c').1 holder
          apply exists_step_of_call (c := c')
          · intro absent
            rw [absent] at lock
            cases lock
          · cases phase : s.calls c' <;> simp_all [Phase.hasLock, Phase.queued]
          · intro r done
            rw [done] at lock
            cases lock

/-- When all calls have returned and no transport has ended, nothing is left to do. -/
theorem stuck_of_finished (finished : ∀ c, s.calls c = .absent ∨ ∃ r, s.calls c = .done r)
    (alive : ∀ t, s.hasEnded t = false) (quiet : a.disrupts = false) (later : a.isArrival = false) :
    step g s a = none := by
  cases a with
  | arrive c goal => cases later
  | die t => cases quiet
  | notice t =>
      have live := alive t
      cases transport : s.transports[t]? with
      | none => simp [step, transport]
      | some x =>
          obtain ⟨ended, watch⟩ := x
          obtain rfl : ended = false := by simpa [State.hasEnded, transport] using live
          simp [step, transport]
  | proceed c => rcases finished c with absent | ⟨r, done⟩ <;> simp [step, State.proceed, *]
  | dialEnded c r => rcases finished c with absent | ⟨r, done⟩ <;> simp [step, *]
  | pauseEnded c => rcases finished c with absent | ⟨r, done⟩ <;> simp [step, *]
  | shakeEnded c r => rcases finished c with absent | ⟨r, done⟩ <;> simp [step, *]
  | closeEnded c r => rcases finished c with absent | ⟨r, done⟩ <;> simp [step, *]

theorem Turn.ne_absent (turn : Turn g c a p q es) : q ≠ .absent := by
  cases turn with
  | alone own => cases own <;> nofun
  | leave own => cases own <;> nofun
  | _ => nofun

theorem Turn.arrival (turn : Turn g c a .absent q es) : ∃ goal, a = .arrive c goal := by
  cases turn with
  | alone own => cases own <;> exact ⟨_, rfl⟩
  | leave own => cases own

theorem arrived_iff (reached : Reached g as s es) :
    (∃ goal, .arrive c goal ∈ as) ↔ s.calls c ≠ .absent := by
  induction reached with
  | refl => simp [State.start]
  | @snoc as s es a s' fs before moved ih =>
      rcases (Transition.of_step moved).turn (lockInv_of_reached before) c with
        ⟨same, -, other⟩ | turn
      · rw [same, ← ih]
        constructor
        · rintro ⟨goal, mem⟩
          refine ⟨goal, (List.mem_append.1 mem).resolve_right fun last => other ?_⟩
          rw [← List.mem_singleton.1 last]
          rfl
        · rintro ⟨goal, mem⟩
          exact ⟨goal, List.mem_append_left _ mem⟩
      · refine iff_of_true ?_ turn.ne_absent
        by_cases absent : s.calls c = .absent
        · rw [absent] at turn
          obtain ⟨goal, rfl⟩ := turn.arrival
          exact ⟨goal, by simp⟩
        · obtain ⟨goal, mem⟩ := ih.2 absent
          exact ⟨goal, List.mem_append_left _ mem⟩

/-! ## What does not happen -/

namespace Phase

def isCalm : Phase → Bool
  | absent | entered | asking .acquire | waiting .acquire | locked .acquire | ready _ | dialing _
  | dialed | shaking | publishing _ | watching _ | leaving (.acquired _) | done (.acquired _) => true
  | _ => false

def steps : Phase → Nat
  | entered => 1
  | asking _ => 2
  | waiting _ | locked _ => 3
  | ready _ => 4
  | dialing _ => 5
  | dialed => 6
  | shaking => 7
  | publishing _ => 8
  | watching _ => 9
  | leaving _ => 10
  | done _ => 11
  | _ => 0

theorem steps_le : p.steps ≤ 11 := by
  cases p <;> simp [steps]

end Phase

theorem Turn.calm (turn : Turn g c a p q es) (quiet : a.disrupts = false)
    (calm : p.isCalm = true) : q.isCalm = true := by
  cases turn with
  | alone own => cases own <;> simp_all [Phase.isCalm, Action.disrupts]
  | leave own =>
      cases own with
      | reply r => cases r <;> simp_all [Phase.isCalm]
      | _ => simp_all [Phase.isCalm]
  | lock goal => cases goal <;> simp_all [Phase.isCalm]
  | wait goal => cases goal <;> simp_all [Phase.isCalm]
  | handed goal => cases goal <;> simp_all [Phase.isCalm]
  | _ => simp_all [Phase.isCalm]

theorem Turn.steps (turn : Turn g c a p q es) (quiet : a.disrupts = false)
    (calm : p.isCalm = true) : p.steps + (decide (a.caller? = some c)).toNat ≤ q.steps := by
  cases turn with
  | alone own =>
      cases own <;> simp_all [Phase.steps, Phase.isCalm, Action.disrupts, Action.caller?]
  | leave own => cases own <;> simp_all [Phase.steps, Phase.isCalm, Action.caller?]
  | handed goal other => simp [Phase.steps, Action.caller?, Ne.symm other]
  | _ => simp_all [Phase.steps, Phase.isCalm, Action.caller?]

theorem Turn.not_took (turn : Turn g c a p q es) (calm : p.isCalm = true) :
    .took c t ∉ es := by
  cases turn with
  | alone own => cases own <;> simp_all
  | leave own => cases own <;> simp_all
  | vacate old => cases old <;> simp_all
  | take old => simp [Phase.isCalm] at calm
  | _ => simp

theorem Action.disrupts_of_failsDial (fails : a.failsDial = true) : a.disrupts = true := by
  cases a with
  | dialEnded c r => cases r <;> simp_all [failsDial, disrupts]
  | _ => cases fails

theorem Action.disrupts_of_failsShake (fails : a.failsShake = true) : a.disrupts = true := by
  cases a with
  | shakeEnded c r => cases r <;> simp_all [failsShake, disrupts]
  | _ => cases fails

theorem Transition.caller?_or (h : Transition g s a s' es) :
    a.caller?.isSome = true ∨ a.disrupts = true ∨ ∃ t, s.hasEnded t = true := by
  cases h with
  | alone own =>
      rw [own.caller?_eq]
      exact .inl rfl
  | die => exact .inr (.inl rfl)
  | clear ended => exact .inr (.inr ⟨_, by rw [State.hasEnded, ended]; rfl⟩)
  | pass ended => exact .inr (.inr ⟨_, by rw [State.hasEnded, ended]; rfl⟩)
  | _ => exact .inl rfl

/-- What is so as long as nothing disrupts the run. -/
structure Calm (as : List Action) (s : State) (es : List Event) : Prop where
  quiet : ∀ a ∈ as, a.disrupts = false
  own : ∀ a ∈ as, a.caller?.isSome = true
  calls : ∀ c, (s.calls c).isCalm = true
  steps : ∀ c, (as.filterMap Action.caller?).count c ≤ (s.calls c).steps
  alive : ∀ t, s.hasEnded t = false
  kept : ∀ c t, .took c t ∉ es

theorem calm_start : Calm [] .start [] := by
  constructor <;> simp [State.start, State.hasEnded, Phase.isCalm]

theorem Calm.step (calm : Calm as s es) (inv : LockInv s) (h : Transition g s a s' fs)
    (quiet : a.disrupts = false) : Calm (as ++ [a]) s' (es ++ fs) where
  quiet b mem := by
    rcases List.mem_append.1 mem with old | new
    · exact calm.quiet b old
    · rwa [List.mem_singleton.1 new]
  own b mem := by
    rcases List.mem_append.1 mem with old | new
    · exact calm.own b old
    · rw [List.mem_singleton.1 new]
      rcases h.caller?_or with own | disrupts | ⟨t, ended⟩
      · exact own
      · rw [quiet] at disrupts
        cases disrupts
      · rw [calm.alive t] at ended
        cases ended
  calls c := h.keeps (P := fun p => p.isCalm = true) inv (fun turn => turn.calm quiet) (calm.calls c)
  steps c := by
    have last : ([a].filterMap Action.caller?).count c =
        (decide (a.caller? = some c)).toNat := by
      rw [List.count_filterMap, List.countP_singleton]
      by_cases own : a.caller? = some c <;> simp [own]
    have before := calm.steps c
    rw [List.filterMap_append, List.count_append, last]
    rcases h.turn inv c with ⟨same, -, other⟩ | turn
    · rw [same]
      simpa [other] using before
    · have step := turn.steps quiet (calm.calls c)
      omega
  alive t := by
    rw [Bool.eq_false_iff]
    intro ended
    rcases h.hasEnded_iff.1 ended with old | new
    · rw [calm.alive t] at old
      cases old
    · rw [h.die_of_ended new] at quiet
      cases quiet
  kept c t mem := by
    rcases List.mem_append.1 mem with old | new
    · exact calm.kept c t old
    · have turn := h.turn_of_mem inv new rfl
      exact turn.not_took (calm.calls c) (mem_filter_isOf new rfl)

theorem calm_of_reached (reached : Reached g as s es) (quiet : ∀ a ∈ as, a.disrupts = false) :
    Calm as s es := by
  induction reached with
  | refl => exact calm_start
  | snoc before moved ih =>
      have calm := ih fun a mem => quiet a (List.mem_append_left _ mem)
      exact calm.step (lockInv_of_reached before) (.of_step moved) (quiet _ (by simp))

namespace Calm

theorem countP_ended (calm : Calm as s es) : s.transports.countP (·.ended) = 0 := by
  rw [List.countP_eq_zero]
  intro x mem ended
  obtain ⟨t, lt, rfl⟩ := List.getElem_of_mem mem
  have alive := calm.alive t
  simp [State.hasEnded, lt, ended] at alive

theorem countP_takes (calm : Calm as s es) : es.countP Event.takes = 0 := by
  rw [List.countP_eq_zero]
  intro e mem takes
  cases e with
  | took c t => exact calm.kept c t mem
  | _ => cases takes

theorem countP_fails (calm : Calm as s es) {k : Action → Bool}
    (disrupts : ∀ {a}, k a = true → a.disrupts = true) : as.countP k = 0 := by
  rw [List.countP_eq_zero]
  intro a mem fails
  have quiet := calm.quiet a mem
  rw [disrupts fails] at quiet
  cases quiet

/-! ## What happens -/

theorem length_transports (calm : Calm as s es) (reached : Reached g as s es) :
    s.transports.length ≤ 1 := by
  have transports := length_transports_le reached
  rw [calm.countP_ended, calm.countP_takes] at transports
  omega

theorem shakes (calm : Calm as s es) (reached : Reached g as s es) :
    es.countP Event.shakes ≤ 1 := by
  have shakes := shakes_le reached
  rwa [calm.countP_ended, calm.countP_takes, calm.countP_fails Action.disrupts_of_failsShake]
    at shakes

theorem dials (calm : Calm as s es) (reached : Reached g as s es) :
    es.countP Event.dials ≤ 1 := by
  have dials := dials_le reached
  rwa [calm.countP_ended, calm.countP_takes, calm.countP_fails Action.disrupts_of_failsShake,
    calm.countP_fails Action.disrupts_of_failsDial] at dials

theorem acquired (calm : Calm as s es) (reached : Reached g as s es)
    (returned : .returned c r ∈ es) : r = .acquired 0 ∧ s.transports.length = 1 := by
  have done := (returned_iff_of_reached reached).1 returned
  have one := calm.length_transports reached
  cases r with
  | acquired t =>
      have lt : t < s.transports.length :=
        answer_lt_of_reached (c := c) reached (by rw [done]; rfl)
      obtain rfl : t = 0 := Nat.lt_one_iff.1 (Nat.lt_of_lt_of_le lt one)
      exact ⟨rfl, Nat.le_antisymm one lt⟩
  | _ =>
      have place := calm.calls c
      rw [done] at place
      cases place

theorem counts (calm : Calm as s es) (reached : Reached g as s es)
    (returned : .returned c r ∈ es) :
    es.countP Event.dials = 1 ∧ es.countP Event.shakes = 1 := by
  have made := (calm.acquired reached returned).2
  have dials := dials_count reached
  have shakes := shakes_count reached
  have dials_le := calm.dials reached
  omega

theorem returned (calm : Calm as s es) (reached : Reached g as s es)
    (stuck : ∀ a, a.disrupts = false → a.isArrival = false → Manager.step g s a = none)
    {goal : Goal} (called : .arrive c goal ∈ as) : .returned c (.acquired 0) ∈ es := by
  have present : s.calls c ≠ .absent := (arrived_iff reached).1 ⟨goal, called⟩
  have finished : ∃ r, s.calls c = .done r := by
    by_contra unfinished
    rw [not_exists] at unfinished
    obtain ⟨a, quiet, later, possible⟩ := exists_step reached present unfinished
    exact possible (stuck a quiet later)
  obtain ⟨r, done⟩ := finished
  have returned := (returned_iff_of_reached reached).2 done
  rwa [(calm.acquired reached returned).1] at returned

/-! ## How long it takes -/

/-- The run is not longer than 11 steps for each call. -/
theorem length_le (calm : Calm as s es) (reached : Reached g as s es) :
    as.length ≤ 11 * as.countP Action.isArrival := by
  have counted := calm.steps
  have all : (as.filterMap Action.caller?).length = as.length := by
    rw [List.length_filterMap_eq_countP, List.countP_eq_length]
    exact calm.own
  generalize as.filterMap Action.caller? = callers at counted all
  have arrived : callers.dedup.length ≤ as.countP Action.isArrival := by
    have subset : callers.dedup ⊆ (as.filter Action.isArrival).filterMap Action.caller? := by
      intro c mem
      have acted : 0 < callers.count c := List.count_pos_iff.2 (List.mem_dedup.1 mem)
      have present : s.calls c ≠ .absent := by
        intro absent
        have none := counted c
        rw [absent] at none
        exact absurd acted (Nat.not_lt.2 none)
      obtain ⟨goal, called⟩ := (arrived_iff reached).2 present
      exact List.mem_filterMap.2 ⟨_, List.mem_filter.2 ⟨called, rfl⟩, rfl⟩
    rw [List.countP_eq_length_filter]
    exact (List.subperm_of_subset callers.nodup_dedup subset).length_le.trans
      (List.length_filterMap_le ..)
  calc as.length = (callers.dedup.map fun c => callers.count c).sum := by
        rw [List.sum_map_count_dedup_eq_length, all]
    _ ≤ (callers.dedup.map fun c => callers.count c).length • 11 := by
        apply List.sum_le_card_nsmul
        intro n mem
        obtain ⟨c, -, rfl⟩ := List.mem_map.1 mem
        exact (counted c).trans Phase.steps_le
    _ = 11 * callers.dedup.length := by rw [List.length_map, Nat.nsmul_eq_mul, Nat.mul_comm]
    _ ≤ 11 * as.countP Action.isArrival := Nat.mul_le_mul_left 11 arrived

end Calm

end GatewayTunnel.Manager
