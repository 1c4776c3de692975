import GatewayTunnel.Proofs.Timeline
import GatewayTunnel.Proofs.Timer.Checks
import Mathlib.Data.List.Induction
import Mathlib.Order.Bounds.Basic
import Mathlib.Tactic.Ring

/-!
# When a timer ends

A timer remembers the interval that it is in, and whether anything was recorded in it. What it does is
said here by the whole of its history: it ends at the least time that is `Due`. `Tracks` relates a timer
to its history; it is kept by the passing of time and by whatever is done to the timer. What is done at
the very time of a check comes after it.
-/

namespace GatewayTunnel.ActivityTimer

variable {origin length now later c : Nat} {e : Event} {x : Nat × Event}
  {h h' : List (Nat × Event)} {t : ActivityTimer}

/-! ## The law -/

def nextPhase (ph : Phase Event) : Nat × Event → Phase Event
  | (now, .setTimeout (length + 1)) => ⟨now, length + 1, []⟩
  | x => { ph with later := ph.later ++ [x] }

/-- The phase that a history leads to: since the last time that a length was set, or since the start. -/
def phase (origin length : Nat) (h : List (Nat × Event)) : Phase Event :=
  h.foldl nextPhase ⟨origin, length, []⟩

def updates (h : List (Nat × Event)) : List Nat :=
  (h.filter (·.2 = .update)).map Prod.fst

def Event.stops : Event → Bool
  | .cancel | .setTimeout 0 => true
  | _ => false

/-- The timer has to end at a time, unless it has ended before: it is stopped, or an interval of the
phase that was in force ends during which nothing was recorded. -/
inductive Due (origin length : Nat) (h : List (Nat × Event)) (c : Nat) : Prop where
  | stopped {e : Event} : (c, e) ∈ h → e.stops → Due origin length h c
  | silent : Silent (updates (phase origin length (past c h)).later)
      (phase origin length (past c h)).since (phase origin length (past c h)).length c →
      Due origin length h c

@[simp] theorem mem_updates {u : Nat} : u ∈ updates h ↔ (u, .update) ∈ h := by
  simp [updates]

theorem phase_snoc : phase origin length (h ++ [x]) = nextPhase (phase origin length h) x := by
  simp [phase]

theorem nextPhase_cases (x : Nat × Event) :
    (∃ n, ∀ ph, nextPhase ph x = ⟨x.1, n + 1, []⟩) ∨
      ∀ ph, nextPhase ph x = { ph with later := ph.later ++ [x] } := by
  obtain ⟨now, e⟩ := x
  cases e with
  | setTimeout length =>
      cases length with
      | zero => exact .inr fun _ => rfl
      | succ n => exact .inl ⟨n, fun _ => rfl⟩
  | update | cancel | none => exact .inr fun _ => rfl

theorem mem_of_mem_phase (member : x ∈ (phase origin length h).later) : x ∈ h := by
  induction h using List.reverseRecOn with
  | nil => exact member
  | append_singleton h y ih =>
      rw [phase_snoc] at member
      rcases nextPhase_cases y with ⟨n, begins⟩ | goesOn
      · rw [begins] at member
        cases member
      · rw [goesOn] at member
        rcases List.mem_append.1 member with old | new
        · exact List.mem_append_left _ (ih old)
        · exact List.mem_append_right _ new

theorem due_append (bound : ∀ x ∈ h', c ≤ x.1) :
    Due origin length (h ++ h') c ↔ Due origin length h c ∨ ∃ e, (c, e) ∈ h' ∧ e.stops := by
  have past_eq : past c (h ++ h') = past c h := by
    rw [past_append, past_eq_nil bound, List.append_nil]
  constructor
  · rintro (⟨member, stops⟩ | silent)
    · rcases List.mem_append.1 member with old | new
      · exact .inl (.stopped old stops)
      · exact .inr ⟨_, new, stops⟩
    · rw [past_eq] at silent
      exact .inl (.silent silent)
  · rintro ((⟨member, stops⟩ | silent) | ⟨e, member, stops⟩)
    · exact .stopped (List.mem_append_left _ member) stops
    · refine .silent ?_
      rwa [past_eq]
    · exact .stopped (List.mem_append_right _ member) stops

theorem origin_le_phase (begun : ∀ x ∈ h, origin ≤ x.1) : origin ≤ (phase origin length h).since := by
  induction h using List.reverseRecOn with
  | nil => exact Nat.le_refl origin
  | append_singleton h x ih =>
      rw [phase_snoc]
      rcases nextPhase_cases x with ⟨n, begins⟩ | goesOn
      · rw [begins]
        exact begun x (List.mem_append_right _ List.mem_cons_self)
      · rw [goesOn]
        exact ih fun y member => begun y (List.mem_append_left _ member)

theorem origin_le_of_due (begun : ∀ x ∈ h, origin ≤ x.1) (due : Due origin length h c) :
    origin ≤ c := by
  rcases due with ⟨member, -⟩ | silent
  · exact begun _ member
  · have since : origin ≤ (phase origin length (past c h)).since :=
      origin_le_phase fun x member => begun x (List.mem_of_mem_filter member)
    have := silent.le
    omega

theorem due_snoc (bound : c ≤ now) :
    Due origin length (h ++ [(now, e)]) c ↔ Due origin length h c ∨ c = now ∧ e.stops := by
  rw [due_append (by simpa using bound)]
  simp

/-! ## A timer and its history -/

structure Running (ph : Phase Event) (now : Nat) (t : ActivityTimer) : Prop where
  timeout : t.timeout = ph.length
  positive : 0 < ph.length
  since : ∃ k, t.since = ph.since + k * ph.length
  begun : t.since ≤ now
  inside : now < t.since + t.timeout
  active : t.active ↔ ∃ u ∈ updates ph.later, t.since ≤ u

structure Tracks (origin length : Nat) (h : List (Nat × Event)) (now : Nat) (t : ActivityTimer) :
    Prop where
  begun : origin ≤ now
  earlier : ∀ x ∈ h, x.1 ≤ now
  ended : ∀ c, t.cancelledAt = some c → c ≤ now ∧ IsLeast {c | Due origin length h c} c
  running : t.cancelledAt = none →
    Running (phase origin length h) now t ∧ ∀ c ≤ now, ¬ Due origin length h c

namespace Running

variable {ph : Phase Event}

theorem silent_iff (running : Running ph now t) (earlier : ∀ u ∈ updates ph.later, u ≤ now)
    (future : now < c) : Silent (updates ph.later) ph.since ph.length c ↔
      ∃ j, c = t.since + (j + 1) * t.timeout ∧ (j = 0 → t.active = false) := by
  obtain ⟨m, since⟩ := running.since
  rw [running.timeout]
  constructor
  · rintro ⟨k, rfl, silent⟩
    -- What ends after now is the interval that the timer is in, or a later one.
    have reached : m ≤ k := by
      have further : m * ph.length < (k + 1) * ph.length := by
        have := running.begun
        omega
      exact Nat.le_of_lt_succ (Nat.lt_of_mul_lt_mul_right further)
    obtain ⟨j, rfl⟩ := Nat.exists_eq_add_of_le reached
    refine ⟨j, by rw [since]; ring, ?_⟩
    rintro rfl
    rw [← Bool.not_eq_true, running.active]
    rintro ⟨u, member, recent⟩
    have inside := running.inside
    refine silent u member ⟨by simpa [since] using recent, ?_⟩
    exact Nat.lt_of_le_of_lt (earlier u member) future
  · rintro ⟨j, rfl, silent⟩
    refine ⟨m + j, by rw [since]; ring, ?_⟩
    rintro u member ⟨recent, -⟩
    cases j with
    | zero =>
        have active : t.active := running.active.2 ⟨u, member, by simpa [since] using recent⟩
        rw [silent rfl] at active
        cases active
    | succ j =>
        have inside := running.inside
        have bound := earlier u member
        rw [running.timeout] at inside
        have more : (m + (j + 1)) * ph.length = m * ph.length + (ph.length + j * ph.length) := by ring
        omega

end Running

namespace Tracks

theorem update_le (track : Tracks origin length h now t) :
    ∀ u ∈ updates (phase origin length h).later, u ≤ now := fun _ member =>
  track.earlier _ (mem_of_mem_phase (mem_updates.1 member))

theorem due_iff (track : Tracks origin length h now t) (running : t.cancelledAt = none)
    (future : now < c) : Due origin length h c ↔
      ∃ j, c = t.since + (j + 1) * t.timeout ∧ (j = 0 → t.active = false) := by
  have all : past c h = h :=
    past_eq_self fun x member => Nat.lt_of_le_of_lt (track.earlier x member) future
  rw [← (track.running running).1.silent_iff track.update_le future]
  constructor
  · rintro (⟨member, -⟩ | silent)
    · exact absurd (track.earlier _ member) (Nat.not_le.2 future)
    · rwa [all] at silent
  · intro silent
    exact .silent (by rwa [all])

theorem start : Tracks origin length [] origin (start origin length) := by
  have none_before : ∀ c, Due origin length [] c → origin + length ≤ c := by
    rintro c (⟨member, -⟩ | silent)
    · cases member
    · exact silent.le
  refine ⟨Nat.le_refl _, nofun, fun c ended => ?_, fun running => ?_⟩
  · unfold ActivityTimer.start at ended
    split at ended
    · rename_i zero
      cases ended
      subst zero
      refine ⟨Nat.le_refl _, .silent ⟨0, ?_, nofun⟩, none_before⟩
      rfl
    · cases ended
  · have positive : 0 < length := by
      unfold ActivityTimer.start at running
      split at running
      · cases running
      · exact Nat.pos_of_ne_zero ‹_›
    refine ⟨⟨rfl, positive, ⟨0, ?_⟩, Nat.le_refl _, Nat.lt_add_of_pos_right positive, ?_⟩, ?_⟩
    · simp [ActivityTimer.start, phase]
    · simp [ActivityTimer.start, phase, updates]
    · intro c bound due
      have := none_before c due
      omega

theorem wait (track : Tracks origin length h now t) (running : t.cancelledAt = none)
    (bound : now ≤ later) (early : later < t.since + t.timeout) :
    Tracks origin length h later t := by
  obtain ⟨inside, undue⟩ := track.running running
  refine ⟨track.begun.trans bound, fun x member => (track.earlier x member).trans bound, ?_, ?_⟩
  · intro c ended
    rw [running] at ended
    cases ended
  · refine fun _ => ⟨{ inside with begun := inside.begun.trans bound, inside := early }, ?_⟩
    intro c upTo due
    by_cases future : now < c
    · obtain ⟨j, rfl, -⟩ := (track.due_iff running future).1 due
      rw [Nat.succ_mul] at upTo
      omega
    · exact undue c (Nat.le_of_not_lt future) due

theorem pass (track : Tracks origin length h now t) (running : t.cancelledAt = none)
    (active : t.active) : Tracks origin length h (t.since + t.timeout) t.pass := by
  obtain ⟨inside, undue⟩ := track.running running
  have bound : now ≤ t.since + t.timeout := Nat.le_of_lt inside.inside
  refine ⟨track.begun.trans bound, fun x member => (track.earlier x member).trans bound, ?_, ?_⟩
  · intro c ended
    cases running.symm.trans ended
  · refine fun _ => ⟨{ inside with since := ?_, begun := Nat.le_refl _, inside := ?_, active := ?_ }, ?_⟩
    · obtain ⟨k, since⟩ := inside.since
      exact ⟨k + 1, by simp only [ActivityTimer.pass, since, inside.timeout]; ring⟩
    · have := inside.positive
      simp only [ActivityTimer.pass, inside.timeout]
      omega
    · simp only [ActivityTimer.pass, Bool.false_eq_true, false_iff]
      rintro ⟨u, member, recent⟩
      have := track.update_le u member
      have := inside.inside
      omega
    · intro c upTo due
      by_cases future : now < c
      · obtain ⟨j, rfl, silent⟩ := (track.due_iff running future).1 due
        cases j with
        | zero =>
            rw [silent rfl] at active
            cases active
        | succ j =>
            have := inside.positive
            have := inside.timeout
            simp only [Nat.succ_mul] at upTo
            omega
      · exact undue c (Nat.le_of_not_lt future) due

theorem lapse (track : Tracks origin length h now t) (running : t.cancelledAt = none)
    (silent : t.active = false) (overdue : t.since + t.timeout ≤ later) :
    Tracks origin length h later t.lapse := by
  obtain ⟨inside, undue⟩ := track.running running
  have bound : now ≤ later := (Nat.le_of_lt inside.inside).trans overdue
  refine ⟨track.begun.trans bound, fun x member => (track.earlier x member).trans bound, ?_, nofun⟩
  rintro c ended
  cases ended
  refine ⟨overdue, ?_, fun c due => ?_⟩
  · exact (track.due_iff running inside.inside).2 ⟨0, by simp, fun _ => silent⟩
  · by_cases future : now < c
    · obtain ⟨j, rfl, -⟩ := (track.due_iff running future).1 due
      rw [Nat.succ_mul]
      omega
    · exact absurd due (undue c (Nat.le_of_not_lt future))

theorem advance (track : Tracks origin length h now t) (bound : now ≤ later) :
    Tracks origin length h later (t.advance later) := by
  have silent_advance {now : Nat} {t : ActivityTimer} (track : Tracks origin length h now t)
      (bound : now ≤ later) (running : t.cancelledAt = none) (silent : t.active = false) :
      Tracks origin length h later (t.advance later) := by
    by_cases early : later < t.since + t.timeout
    · rw [advance_early early]
      exact track.wait running bound early
    · have overdue : t.since + t.timeout ≤ later := Nat.le_of_not_lt early
      rw [advance_lapsed running silent overdue]
      exact track.lapse running silent overdue
  cases ended : t.cancelledAt with
  | some c =>
      rw [advance_of_ended ended]
      refine ⟨track.begun.trans bound, fun x member => (track.earlier x member).trans bound, ?_, ?_⟩
      · intro c ended
        obtain ⟨upTo, least⟩ := track.ended c ended
        exact ⟨upTo.trans bound, least⟩
      · intro running
        cases running.symm.trans ended
  | none =>
      cases active : t.active with
      | false => exact silent_advance track bound ended active
      | true =>
          by_cases early : later < t.since + t.timeout
          · rw [advance_early early]
            exact track.wait ended bound early
          · have overdue : t.since + t.timeout ≤ later := Nat.le_of_not_lt early
            rw [advance_passed ended active overdue]
            exact silent_advance (track.pass ended active) overdue ended rfl

theorem least_snoc (bound : c ≤ now) (least : IsLeast {c | Due origin length h c} c) :
    IsLeast {c | Due origin length (h ++ [(now, e)]) c} c := by
  refine ⟨(due_snoc bound).2 (.inl least.1), fun c' due => ?_⟩
  by_cases upTo : c' ≤ now
  · rcases (due_snoc upTo).1 due with old | ⟨rfl, -⟩
    · exact least.2 old
    · exact bound
  · exact bound.trans (Nat.le_of_not_le upTo)

theorem earlier_snoc (track : Tracks origin length h now t) : ∀ x ∈ h ++ [(now, e)], x.1 ≤ now := by
  intro x member
  rcases List.mem_append.1 member with old | new
  · exact track.earlier x old
  · cases List.mem_singleton.1 new
    exact Nat.le_refl _

theorem stop (track : Tracks origin length h now t) (stops : e.stops) :
    Tracks origin length (h ++ [(now, e)]) now (t.cancel now) := by
  refine ⟨track.begun, track.earlier_snoc, fun c ended => ?_, fun running => ?_⟩
  · cases before : t.cancelledAt with
    | some c' =>
        obtain rfl : c' = c := by simpa [cancel, before] using ended
        obtain ⟨upTo, least⟩ := track.ended c' before
        exact ⟨upTo, least_snoc upTo least⟩
    | none =>
        obtain rfl : now = c := by simpa [cancel, before] using ended
        refine ⟨Nat.le_refl _, (due_snoc (Nat.le_refl _)).2 (.inr ⟨rfl, stops⟩), fun c due => ?_⟩
        refine Nat.le_of_not_lt fun sooner => ?_
        rcases (due_snoc (Nat.le_of_lt sooner)).1 due with old | ⟨rfl, -⟩
        · exact (track.running before).2 c (Nat.le_of_lt sooner) old
        · exact Nat.lt_irrefl _ sooner
  · simp [cancel] at running

theorem goOn (track : Tracks origin length h now t) {t' : ActivityTimer} (stops : e.stops = false)
    (same : t'.cancelledAt = t.cancelledAt)
    (running : t.cancelledAt = none →
      Running (nextPhase (phase origin length h) (now, e)) now t') :
    Tracks origin length (h ++ [(now, e)]) now t' := by
  refine ⟨track.begun, track.earlier_snoc, fun c ended => ?_, fun running' => ?_⟩
  · obtain ⟨upTo, least⟩ := track.ended c (same ▸ ended)
    exact ⟨upTo, least_snoc upTo least⟩
  · rw [same] at running'
    refine ⟨by rw [phase_snoc]; exact running running', fun c upTo due => ?_⟩
    rcases (due_snoc upTo).1 due with old | ⟨-, now_⟩
    · exact (track.running running').2 c upTo old
    · rw [stops] at now_
      cases now_

theorem step (track : Tracks origin length h now t) (bound : now ≤ later) (e : Event) :
    Tracks origin length (h ++ [(later, e)]) later (t.step later e) := by
  have track := track.advance bound
  simp only [ActivityTimer.step]
  generalize t.advance later = t at track ⊢
  cases e with
  | cancel => exact track.stop rfl
  | setTimeout length' =>
      cases length' with
      | zero => exact track.stop rfl
      | succ n =>
          refine track.goOn rfl rfl fun _ => ?_
          show Running _ later { t with timeout := n + 1, since := later, active := false }
          exact ⟨rfl, Nat.succ_pos n, ⟨0, by simp [nextPhase]⟩, Nat.le_refl _,
            Nat.lt_add_of_pos_right (Nat.succ_pos n), by simp [nextPhase, updates]⟩
  | update =>
      refine track.goOn rfl rfl fun running => ?_
      obtain ⟨inside, -⟩ := track.running running
      refine { inside with active := iff_of_true rfl ⟨later, ?_, inside.begun⟩ }
      simp [nextPhase]
  | none =>
      refine track.goOn rfl rfl fun running => ?_
      obtain ⟨inside, -⟩ := track.running running
      exact { inside with active := by simpa [nextPhase] using inside.active }

theorem run (track : Tracks origin length h now t) (order : InOrder now h' later) :
    Tracks origin length (h ++ h') later ((t.run h').advance later) := by
  induction h' generalizing h now t with
  | nil => simpa [ActivityTimer.run] using track.advance (inOrder_nil.1 order)
  | cons x rest ih =>
      obtain ⟨first, others⟩ := inOrder_cons.1 order
      simpa [ActivityTimer.run] using ih (track.step first x.2) others

end Tracks

def observed (origin length : Nat) (h : List (Nat × Event)) (now : Nat) : ActivityTimer :=
  ((start origin length).run h).advance now

theorem tracks_of_order (order : InOrder origin h now) :
    Tracks origin length h now (observed origin length h now) :=
  Tracks.start.run order

theorem cancelledAt_iff (order : InOrder origin h now) :
    (observed origin length h now).cancelledAt = some c ↔
      c ≤ now ∧ IsLeast {c | Due origin length h c} c := by
  have track : Tracks origin length h now (observed origin length h now) := tracks_of_order order
  refine ⟨track.ended c, fun ⟨upTo, least⟩ => ?_⟩
  cases ended : (observed origin length h now).cancelledAt with
  | none => exact absurd least.1 ((track.running ended).2 c upTo)
  | some c' => rw [(track.ended c' ended).2.unique least]

end GatewayTunnel.ActivityTimer
