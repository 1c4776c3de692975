import GatewayTunnel.Proofs.Relay.Silence

/-!
# A relay that is in use is not cut

While both directions are open, and a chunk is read or is through within each time of the length that
the policy allows for silence, the relay goes on: `lively_goes_on`. The chunks count, and not the bytes.
A sink that takes the bytes of one chunk for longer than that is cut, although it always takes some; and
a direction that is left alone has the time of its own: `lively_bytes_cut`.
-/

namespace GatewayTunnel.Relay

variable {p : SessionPolicy} {c : Copies} {now origin length asked : Nat} {d : Destination}
  {moments : List Nat} {events before : List (Nat × Event)} {gone : Bool}

/-- None of the times of the given length between two times is without a moment. -/
def Lively (length : Nat) (moments : List Nat) (origin now : Nat) : Prop :=
  ∀ begun, origin ≤ begun → begun + length ≤ now → ∃ u ∈ moments, begun ≤ u ∧ u < begun + length

instance : Decidable (Lively length moments origin now) :=
  decidable_of_iff (∀ begun < now + 1, origin ≤ begun → begun + length ≤ now →
      ∃ u ∈ moments, begun ≤ u ∧ u < begun + length)
    ⟨fun all begun since upTo => all begun (by omega) since upTo, fun all begun _ => all begun⟩

theorem Lively.not_silent {t : Nat} (lively : Lively length moments origin now) (upTo : t ≤ now) :
    ¬ Silent moments origin length t := by
  rintro ⟨k, rfl, silent⟩
  rw [Nat.succ_mul, ← Nat.add_assoc] at upTo
  obtain ⟨u, member, recent, soon⟩ := lively (origin + k * length) (Nat.le_add_right _ _) upTo
  refine silent u member ⟨recent, ?_⟩
  rwa [Nat.succ_mul, ← Nat.add_assoc]

theorem step_copied_isSome {side : Side} {input : Copy.Input}
    (running : (c.timer.advance now).cancelledAt = none)
    (answer : ((c.side side).step input).isSome) :
    (step p ⟨.copying c, gone⟩ now (.copied side input)).isSome := by
  obtain ⟨copy, answer⟩ := Option.isSome_iff_exists.1 answer
  have inTime : isOver now { c with timer := c.timer.advance now } = false := by
    simp [isOver, running]
  simp only [step, advance, inTime, Bool.false_eq_true, if_false, Option.isSome_map, afterInput,
    side_timer, answer]
  cases copy.result? <;> rfl

theorem lively_goes_on
    (ran : run p (.start asked d gone) (before ++ (origin, .opened (.ok ())) :: events) =
      some ⟨.copying c, false⟩)
    (order : InOrder origin events now) (bothOpen : ∀ side, closing? side events = none)
    (lively : Lively p.connectionIdle.ceilMillis (Relay.moments events) origin now) :
    (c.timer.advance now).cancelledAt = none ∧ step p ⟨.copying c, false⟩ now .notice = none ∧
      ∀ side input, ((c.side side).step input).isSome →
        (step p ⟨.copying c, false⟩ now (.copied side input)).isSome := by
  have running : (c.timer.advance now).cancelledAt = none := by
    cases ended : (c.timer.advance now).cancelledAt with
    | none => rfl
    | some t =>
        have stays (side : Side) := closing?_eq_none.1 (bothOpen side)
        obtain ⟨upTo, silent, -⟩ :=
          (cancelledAt_iff_of_open order stays (run_of_opened ran)).1 ended
        exact absurd silent (lively.not_silent upTo)
  refine ⟨running, ?_, fun side input => step_copied_isSome running⟩
  rw [step_notice, running]
  rfl

def steadyUpload : List (Nat × Event) := [
  (5, .copied .request (.chunk [1])),
  (10, .copied .request (.accepted 1)),
  (12, .copied .request .flushed),
  (30, .copied .request (.chunk [2]))]

theorem lively_goes_on_steady : ∃ c,
    run shortPolicy (.start 0 (.tcp "host" 80) false) ([] ++ (0, .opened (.ok ())) :: steadyUpload) =
      some ⟨.copying c, false⟩ ∧
    InOrder 0 steadyUpload 40 ∧ (∀ side, closing? side steadyUpload = none) ∧
    Lively 20 (Relay.moments steadyUpload) 0 40 ∧ (c.timer.advance 40).cancelledAt = none := by
  obtain ⟨c, ran⟩ : ∃ c,
      run shortPolicy (.start 0 (.tcp "host" 80) false)
        ([] ++ (0, .opened (.ok ())) :: steadyUpload) = some ⟨.copying c, false⟩ := ⟨_, rfl⟩
  have order : InOrder 0 steadyUpload 40 := by simp [steadyUpload]
  have bothOpen (side : Side) : closing? side steadyUpload = none := by cases side <;> rfl
  have lively : Lively 20 (Relay.moments steadyUpload) 0 40 := by decide
  exact ⟨c, ran, order, bothOpen, lively, (lively_goes_on ran order bothOpen lively).1⟩

/-! ## Bytes -/

def Event.movesBytes : Event → Bool
  | .copied _ (.chunk bs) => !bs.isEmpty
  | .copied _ (.accepted bound) => bound ≠ 0
  | _ => false

def transfers (events : List (Nat × Event)) : List Nat :=
  (events.filter (·.2.movesBytes)).map Prod.fst

def slowUpload : List (Nat × Event) := [
  (5, .copied .request (.chunk [1, 2, 3, 4])),
  (10, .copied .request (.accepted 1)),
  (25, .copied .request (.accepted 1)),
  (35, .copied .request (.accepted 1))]

def quickUpload : List (Nat × Event) := [
  (5, .copied .request (.chunk [1])),
  (5, .copied .request (.accepted 1)),
  (5, .copied .request .flushed),
  (15, .copied .request (.chunk [2])),
  (15, .copied .request (.accepted 1)),
  (15, .copied .request .flushed),
  (30, .copied .request .eof),
  (30, .copied .request .halfClosed)]

/-- Both uploads move bytes in every time of twenty milliseconds, the quick one until it ends. -/
theorem lively_bytes_cut :
    (∃ c left,
      run shortPolicy (.start 0 (.tcp "host" 80) false) ((0, .opened (.ok ())) :: slowUpload) =
        some ⟨.copying c, false⟩ ∧
      InOrder 0 slowUpload 40 ∧ (∀ side, closing? side slowUpload = none) ∧
      Lively shortPolicy.connectionIdle.ceilMillis (transfers slowUpload) 0 40 ∧
      step shortPolicy ⟨.copying c, false⟩ 40 .notice = some ⟨.ended 40 (.ok ()) left, false⟩) ∧
    ∃ c left,
      run shortPolicy (.start 0 (.tcp "host" 80) false) ((0, .opened (.ok ())) :: quickUpload) =
        some ⟨.copying c, false⟩ ∧
      InOrder 0 quickUpload 60 ∧
      Lively shortPolicy.connectionIdle.ceilMillis (transfers quickUpload) 0 30 ∧
      step shortPolicy ⟨.copying c, false⟩ 60 .notice = some ⟨.ended 60 (.ok ()) left, false⟩ := by
  refine ⟨⟨_, _, rfl, ?_, ?_, by decide, rfl⟩, _, _, rfl, ?_, by decide, rfl⟩
  · simp [slowUpload]
  · intro side
    cases side <;> rfl
  · simp [quickUpload]

end GatewayTunnel.Relay
