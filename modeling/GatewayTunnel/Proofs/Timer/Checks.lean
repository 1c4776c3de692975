import GatewayTunnel.ActivityTimer

namespace GatewayTunnel.ActivityTimer

variable {t : ActivityTimer} {now later c : Nat} {e : Event} {h : List (Nat × Event)}

def pass (t : ActivityTimer) : ActivityTimer :=
  { t with since := t.since + t.timeout, active := false }

def lapse (t : ActivityTimer) : ActivityTimer :=
  { t with cancelledAt := some (t.since + t.timeout) }

theorem checkDue_of_ended (ended : t.cancelledAt = some c) : t.checkDue now = t := by
  simp [checkDue, nextCheck?, isExpired, ended]

theorem checkDue_early (early : now < t.since + t.timeout) : t.checkDue now = t := by
  unfold checkDue nextCheck?
  cases t.isExpired <;> simp [Nat.not_le.2 early]

theorem checkDue_lapsed (running : t.cancelledAt = none) (silent : t.active = false)
    (due : t.since + t.timeout ≤ now) : t.checkDue now = t.lapse := by
  simp [checkDue, nextCheck?, isExpired, check, cancel, lapse, running, silent, due]

theorem checkDue_passed (running : t.cancelledAt = none) (active : t.active)
    (due : t.since + t.timeout ≤ now) : t.checkDue now = t.pass := by
  simp [checkDue, nextCheck?, isExpired, check, pass, running, active, due]

theorem advance_of_ended (ended : t.cancelledAt = some c) : t.advance now = t := by
  rw [advance, checkDue_of_ended ended, checkDue_of_ended ended]

theorem advance_early (early : now < t.since + t.timeout) : t.advance now = t := by
  rw [advance, checkDue_early early, checkDue_early early]

theorem advance_lapsed (running : t.cancelledAt = none) (silent : t.active = false)
    (due : t.since + t.timeout ≤ now) : t.advance now = t.lapse := by
  rw [advance, checkDue_lapsed running silent due]
  exact checkDue_of_ended rfl

theorem advance_passed (running : t.cancelledAt = none) (active : t.active)
    (due : t.since + t.timeout ≤ now) : t.advance now = t.pass.advance now := by
  rw [advance, checkDue_passed running active due]
  by_cases early : now < t.pass.since + t.pass.timeout
  · rw [checkDue_early early, advance_early early]
  · have again : t.pass.since + t.pass.timeout ≤ now := Nat.le_of_not_lt early
    have goesOn : t.pass.cancelledAt = none := running
    rw [checkDue_lapsed goesOn rfl again, advance_lapsed goesOn rfl again]

/-- Time that passes in two parts does what it does at once. -/
theorem advance_advance (bound : now ≤ later) : (t.advance now).advance later = t.advance later := by
  have silent_advance {t : ActivityTimer} (running : t.cancelledAt = none)
      (silent : t.active = false) : (t.advance now).advance later = t.advance later := by
    by_cases early : now < t.since + t.timeout
    · rw [advance_early early]
    · have due : t.since + t.timeout ≤ now := Nat.le_of_not_lt early
      rw [advance_lapsed running silent due, advance_lapsed running silent (Nat.le_trans due bound)]
      exact advance_of_ended rfl
  cases ended : t.cancelledAt with
  | some c => rw [advance_of_ended ended]
  | none =>
      cases active : t.active with
      | false => exact silent_advance ended active
      | true =>
          by_cases early : now < t.since + t.timeout
          · rw [advance_early early]
          · have due : t.since + t.timeout ≤ now := Nat.le_of_not_lt early
            rw [advance_passed ended active due, advance_passed ended active (Nat.le_trans due bound)]
            exact silent_advance ended rfl

theorem advance_end (ended : (t.advance now).cancelledAt = some c) :
    (t.advance c).cancelledAt = some c := by
  have silent_end {t : ActivityTimer} (running : t.cancelledAt = none) (silent : t.active = false)
      (ended : (t.advance now).cancelledAt = some c) : (t.advance c).cancelledAt = some c := by
    by_cases early : now < t.since + t.timeout
    · rw [advance_early early, running] at ended
      cases ended
    · rw [advance_lapsed running silent (Nat.le_of_not_lt early)] at ended
      cases ended
      rw [advance_lapsed running silent (Nat.le_refl _)]
      rfl
  cases before : t.cancelledAt with
  | some c' =>
      rw [advance_of_ended before] at ended ⊢
      exact ended
  | none =>
      cases active : t.active with
      | false => exact silent_end before active ended
      | true =>
          by_cases early : now < t.since + t.timeout
          · rw [advance_early early, before] at ended
            cases ended
          · rw [advance_passed before active (Nat.le_of_not_lt early)] at ended
            have goesOn : t.pass.cancelledAt = none := before
            have inside := silent_end goesOn rfl ended
            by_cases early' : c < t.since + t.timeout
            · -- the timer cannot have ended in the interval that it has passed
              rw [advance_early (by simp only [pass]; omega)] at inside
              cases before.symm.trans inside
            · rwa [advance_passed before active (Nat.le_of_not_lt early')]

/-! ## Runs -/

theorem run_cons {x : Nat × Event} : t.run (x :: h) = (t.step x.1 x.2).run h := rfl

theorem run_append {h' : List (Nat × Event)} : t.run (h ++ h') = (t.run h).run h' :=
  List.foldl_append

theorem step_advance (bound : now ≤ later) : (t.advance now).step later e = t.step later e := by
  simp only [step, advance_advance bound]

theorem cancelledAt_step (ended : t.cancelledAt = some c) : (t.step now e).cancelledAt = some c := by
  simp only [step, advance_of_ended ended]
  cases e with
  | setTimeout timeout =>
      simp only [setTimeout]
      split
      · simp [cancel, ended]
      · exact ended
  | cancel => simp [cancel, ended]
  | update | none => exact ended

theorem cancelledAt_run (ended : t.cancelledAt = some c) : (t.run h).cancelledAt = some c := by
  induction h generalizing t with
  | nil => exact ended
  | cons x rest ih => exact ih (cancelledAt_step ended)

end GatewayTunnel.ActivityTimer
