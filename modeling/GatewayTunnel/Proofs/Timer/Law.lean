import GatewayTunnel.Proofs.Timer.Expiry

/-!
# What follows for one phase of a timer

A timer whose length nobody changes ends with the first silent interval (`cancelledAt_iff_of_unchanged`),
and so does one whose length is set, with the first silent interval since then
(`cancelledAt_iff_of_set`). `expires_exactly` puts together what the history of a timer says about its
end.
-/

namespace GatewayTunnel.ActivityTimer

variable {origin length now c b : Nat} {h before later : List (Nat × Event)}

def Event.isQuiet : Event → Bool
  | .update | .none => true
  | _ => false

theorem Event.stops_of_isQuiet {e : Event} (quiet : e.isQuiet) : e.stops = false := by
  cases e with
  | update | none => rfl
  | cancel | setTimeout => cases quiet

/-! ## The phase of a history -/

theorem foldl_nextPhase (quiet : ∀ x ∈ later, x.2.isQuiet) (ph : Phase Event) :
    later.foldl nextPhase ph = { ph with later := ph.later ++ later } := by
  induction later generalizing ph with
  | nil => simp
  | cons x rest ih =>
      have first : nextPhase ph x = { ph with later := ph.later ++ [x] } := by
        obtain ⟨now, e⟩ := x
        cases e with
        | update | none => rfl
        | cancel | setTimeout => cases quiet _ List.mem_cons_self
      rw [List.foldl_cons, first, ih fun y member => quiet y (List.mem_cons_of_mem x member)]
      simp

theorem phase_of_quiet (quiet : ∀ x ∈ h, x.2.isQuiet) :
    phase origin length h = ⟨origin, length, h⟩ := by
  simp [phase, foldl_nextPhase quiet]

theorem phase_of_set (positive : length ≠ 0) (quiet : ∀ x ∈ later, x.2.isQuiet) {first : Nat} :
    phase origin first (before ++ (b, .setTimeout length) :: later) = ⟨b, length, later⟩ := by
  obtain ⟨n, rfl⟩ := Nat.exists_eq_succ_of_ne_zero positive
  rw [phase, List.foldl_append, List.foldl_cons, foldl_nextPhase quiet]
  rfl

theorem phase_past (inside : (phase origin length h).since < c) :
    phase origin length (past c h) =
      { phase origin length h with later := past c (phase origin length h).later } := by
  induction h using List.reverseRecOn with
  | nil => rfl
  | append_singleton h x ih =>
      rw [phase_snoc] at inside ⊢
      rcases nextPhase_cases x with ⟨n, begins⟩ | goesOn
      · rw [begins] at inside ⊢
        have earlier : past c [x] = [x] := past_eq_self (by simpa using inside)
        rw [past_append, earlier, phase_snoc, begins]
        rfl
      · rw [goesOn] at inside ⊢
        by_cases earlier : x.1 < c
        · have kept : past c [x] = [x] := past_eq_self (by simpa using earlier)
          rw [past_append, past_append, kept, phase_snoc, goesOn, ih inside]
        · have left : past c [x] = [] := past_eq_nil (by simpa using earlier)
          rw [past_append, past_append, left, List.append_nil, List.append_nil, ih inside]

/-! ## The end of a phase -/

theorem run_advance {t : ActivityTimer} (order : InOrder now later c) :
    ((t.advance now).run later).advance c = (t.run later).advance c := by
  cases later with
  | nil => exact advance_advance (inOrder_nil.1 order)
  | cons x rest => rw [run_cons, run_cons, step_advance (inOrder_cons.1 order).1]

theorem silent_past : Silent (updates (past c h)) b length c ↔ Silent (updates h) b length c :=
  silent_congr fun u earlier => by simp [past, earlier]

theorem due_iff_of_unstopped (unstopped : ∀ x ∈ h, x.1 = c → x.2.stops = false) :
    Due origin length h c ↔ Silent (updates (phase origin length (past c h)).later)
      (phase origin length (past c h)).since (phase origin length (past c h)).length c := by
  refine ⟨?_, .silent⟩
  rintro (⟨member, stops⟩ | silent)
  · rw [unstopped _ member rfl] at stops
    cases stops
  · exact silent

theorem cancelledAt_iff_of_unchanged (order : InOrder origin h now)
    (quiet : ∀ x ∈ h, x.2.isQuiet) :
    (observed origin length h now).cancelledAt = some c ↔
      c ≤ now ∧ IsLeast {c | Silent (updates h) origin length c} c := by
  have due_iff : ∀ c, Due origin length h c ↔ Silent (updates h) origin length c := by
    intro c
    have only : phase origin length (past c h) = ⟨origin, length, past c h⟩ :=
      phase_of_quiet fun x member => quiet x (List.mem_of_mem_filter member)
    rw [due_iff_of_unstopped fun x member _ => Event.stops_of_isQuiet (quiet x member), only]
    exact silent_past
  simp only [cancelledAt_iff order, due_iff]

theorem unstopped_of_set (positive : length ≠ 0) (quiet : ∀ x ∈ later, x.2.isQuiet) :
    ∀ x ∈ (b, .setTimeout length) :: later, x.2.stops = false := by
  intro x member
  rcases List.mem_cons.1 member with rfl | quietly
  · obtain ⟨n, rfl⟩ := Nat.exists_eq_succ_of_ne_zero positive
    rfl
  · exact Event.stops_of_isQuiet (quiet x quietly)

theorem due_iff_of_set {first : Nat} (order : InOrder origin before b) (positive : length ≠ 0)
    (quiet : ∀ x ∈ later, x.2.isQuiet) (since : b < c) :
    Due origin first (before ++ (b, .setTimeout length) :: later) c ↔
      Silent (updates later) b length c := by
  have whole : phase origin first (before ++ (b, .setTimeout length) :: later) =
      ⟨b, length, later⟩ := phase_of_set positive quiet
  have part : phase origin first (past c (before ++ (b, .setTimeout length) :: later)) =
      ⟨b, length, past c later⟩ := by
    rw [phase_past (by rwa [whole]), whole]
  have unstopped : ∀ x ∈ before ++ (b, .setTimeout length) :: later, x.1 = c → x.2.stops = false := by
    rintro x member rfl
    rcases List.mem_append.1 member with old | new
    · exact absurd (order.of_mem old).2 (Nat.not_le.2 since)
    · exact unstopped_of_set positive quiet x new
  rw [due_iff_of_unstopped unstopped, part]
  exact silent_past

theorem due_of_due_set {first : Nat} (order : InOrder b later now) (positive : length ≠ 0)
    (quiet : ∀ x ∈ later, x.2.isQuiet) (upTo : c ≤ b)
    (due : Due origin first (before ++ (b, .setTimeout length) :: later) c) :
    Due origin first before c := by
  have since : ∀ x ∈ (b, .setTimeout length) :: later, c ≤ x.1 :=
    List.forall_mem_cons.2 ⟨upTo, fun x member => upTo.trans (order.of_mem member).1⟩
  rcases (due_append since).1 due with old | ⟨e, member, stops⟩
  · exact old
  · rw [unstopped_of_set positive quiet _ member] at stops
    cases stops

theorem cancelledAt_iff_of_set {first : Nat}
    (order : InOrder origin (before ++ (b, .setTimeout length) :: later) now)
    (running : (observed origin first before b).cancelledAt = none) (positive : length ≠ 0)
    (quiet : ∀ x ∈ later, x.2.isQuiet) :
    (observed origin first (before ++ (b, .setTimeout length) :: later) now).cancelledAt = some c ↔
      c ≤ now ∧ IsLeast {c | Silent (updates later) b length c} c := by
  obtain ⟨front, back⟩ := order.cons_inv
  obtain ⟨-, undue⟩ := (tracks_of_order front).running running
  have due_iff (c : Nat) : Due origin first (before ++ (b, .setTimeout length) :: later) c ↔
      Silent (updates later) b length c := by
    by_cases since : b < c
    · exact due_iff_of_set front positive quiet since
    · have upTo : c ≤ b := Nat.le_of_not_lt since
      refine iff_of_false (fun due => undue c upTo (due_of_due_set back positive quiet upTo due)) ?_
      intro silent
      have := silent.le
      omega
  simp only [cancelledAt_iff order, due_iff]

theorem cancelledAt_of_zero (running : (observed origin length before b).cancelledAt = none) :
    (observed origin length (before ++ (b, .setTimeout 0) :: later) now).cancelledAt = some b := by
  have ends : (((start origin length).run before).step b (.setTimeout 0)).cancelledAt = some b := by
    rw [← step_advance (Nat.le_refl b)]
    simp only [observed] at running
    simp [step, advance_advance (Nat.le_refl b), setTimeout, cancel, running]
  have stays := cancelledAt_run (h := later) ends
  rw [observed, run_append, run_cons, advance_of_ended stays]
  exact stays

theorem cancelledAt_of_zeroStart : (observed origin 0 h now).cancelledAt = some origin := by
  have ends : (start origin 0).cancelledAt = some origin := rfl
  have stays := cancelledAt_run (h := h) ends
  rw [observed, advance_of_ended stays]
  exact stays

theorem ended_of_due (order : InOrder origin h now) (due : Due origin length h c) (upTo : c ≤ now) :
    ∃ c' ≤ c, (observed origin length h now).cancelledAt = some c' := by
  have track : Tracks origin length h now (observed origin length h now) := tracks_of_order order
  cases ended : (observed origin length h now).cancelledAt with
  | none => exact absurd due ((track.running ended).2 c upTo)
  | some c' => exact ⟨c', (track.ended c' ended).2.2 due, rfl⟩

theorem phase_of_length_eq_zero (zero : (phase origin length h).length = 0) :
    length = 0 ∧ (phase origin length h).since = origin := by
  induction h using List.reverseRecOn with
  | nil => exact ⟨zero, rfl⟩
  | append_singleton h x ih =>
      rw [phase_snoc] at zero ⊢
      rcases nextPhase_cases x with ⟨n, begins⟩ | goesOn
      · rw [begins] at zero
        cases zero
      · rw [goesOn] at zero ⊢
        exact ih zero

/-! ## The end of a timer -/

/-- What the history of a timer says about its end, as it stands at a time. -/
structure Punctual (origin length : Nat) (h : List (Nat × Event)) (now : Nat) : Prop where
  /-- The timer ends at the first time that is due. -/
  exact : ∀ c, (observed origin length h now).cancelledAt = some c ↔
    c ≤ now ∧ IsLeast {c | Due origin length h c} c
  /-- If it is not stopped, it is silent for a whole interval after its length was set, and for longer
  than that after anything was recorded. -/
  notEarly : ∀ c, (observed origin length h now).cancelledAt = some c →
    (∀ e, (c, e) ∈ h → e.stops = false) →
    (phase origin length (past c h)).since + (phase origin length (past c h)).length ≤ c ∧
      ∀ u ∈ updates (phase origin length (past c h)).later,
        u + (phase origin length (past c h)).length < c
  /-- It is silent for two intervals at most. -/
  notLate : ∀ u, (phase origin length h).since ≤ u →
    (∀ v ∈ updates (phase origin length h).later, v ≤ u) →
    u + 2 * (phase origin length h).length ≤ now →
    ∃ c ≤ u + 2 * (phase origin length h).length, (observed origin length h now).cancelledAt = some c
  /-- What was recorded before the length was set is forgotten. -/
  renewed : ∀ before b length' later, h = before ++ (b, .setTimeout length') :: later →
    length' ≠ 0 → (observed origin length before b).cancelledAt = none →
    (∀ x ∈ later, x.2 = .none) → b + length' ≤ now →
    (observed origin length h now).cancelledAt = some (b + length')
  zeroStart : length = 0 → (observed origin length h now).cancelledAt = some origin
  zeroTimeout : ∀ before b later, h = before ++ (b, .setTimeout 0) :: later →
    (observed origin length before b).cancelledAt = none →
    (observed origin length h now).cancelledAt = some b
  /-- The end is for good. -/
  final : ∀ c, (observed origin length h now).cancelledAt = some c → ∀ h' now', InOrder now h' now' →
    (observed origin length (h ++ h') now').cancelledAt = some c

theorem expires_exactly (order : InOrder origin h now) : Punctual origin length h now where
  exact c := cancelledAt_iff order
  notEarly c ended unstopped := by
    rcases ((cancelledAt_iff order).1 ended).2.1 with ⟨member, stops⟩ | silent
    · rw [unstopped _ member] at stops
      cases stops
    · refine ⟨silent.le, fun u member => ?_⟩
      obtain ⟨k, c_eq, outside⟩ := silent
      have earlier : u < c := by
        have := mem_of_mem_phase (mem_updates.1 member)
        simpa [past] using (List.mem_filter.1 this).2
      have notInside := outside u member
      rw [Nat.succ_mul] at c_eq
      omega
  notLate u since last bound := by
    rcases Nat.eq_zero_or_pos (phase origin length h).length with zero | positive
    · obtain ⟨rfl, begun⟩ := phase_of_length_eq_zero zero
      refine ⟨origin, ?_, cancelledAt_of_zeroStart⟩
      rw [begun] at since
      omega
    · obtain ⟨c, future, soon, silent⟩ := exists_silent positive since last
      have due : Due origin length h c := by
        refine .silent ?_
        rw [phase_past (Nat.lt_of_le_of_lt since future)]
        exact silent_past.2 silent
      obtain ⟨c', sooner, ended⟩ := ended_of_due order due (soon.trans bound)
      exact ⟨c', sooner.trans soon, ended⟩
  renewed before b length' later split positive running quietly bound := by
    subst split
    rw [cancelledAt_iff_of_set order running positive fun x member => by rw [quietly x member]; rfl]
    -- Nothing is recorded any more, so the first interval of the new length is silent.
    have nothing : updates later = [] := by
      simp only [updates, List.map_eq_nil_iff, List.filter_eq_nil_iff]
      intro x member
      simp [quietly x member]
    refine ⟨bound, ⟨0, by simp, by simp [nothing]⟩, fun c silent => silent.le⟩
  zeroStart := by
    rintro rfl
    exact cancelledAt_of_zeroStart
  zeroTimeout before b later split running := by
    subst split
    exact cancelledAt_of_zero running
  final c ended h' now' order' := by
    have stays := cancelledAt_run (h := h') ended
    rw [observed, run_append, ← run_advance order']
    rwa [← observed, advance_of_ended stays]

/-- A timer of ten is in use, gets the length seven at twenty-five, and is used once more. -/
def shortened : List (Nat × Event) := [(3, .update), (14, .update), (25, .setTimeout 7), (30, .update)]

theorem expires_exactly_shortened : InOrder 0 shortened 50 ∧
    (observed 0 10 shortened 50).cancelledAt = some 39 ∧ IsLeast {c | Due 0 10 shortened c} 39 := by
  have order : InOrder 0 shortened 50 := by simp [shortened]
  have ended : (observed 0 10 shortened 50).cancelledAt = some 39 := rfl
  exact ⟨order, ended, (((expires_exactly order).exact 39).1 ended).2⟩

end GatewayTunnel.ActivityTimer
