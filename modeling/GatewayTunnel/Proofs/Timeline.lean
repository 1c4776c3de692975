import Mathlib.Data.List.Basic
import Mathlib.Order.Bounds.Defs

/-!
# Histories in time

A history lists what happened, each thing with its time. Times do not go back: `InOrder`. Intervals of
one length follow one another from some time on, and `Silent` says that one of them ends at a given
time and that nothing happened during it. The beginning of an interval belongs to it, its end to the
next one.
-/

namespace GatewayTunnel

variable {α β : Type} {history before after : List (Nat × α)} {x : Nat × α}
  {origin now later time c since length : Nat} {moments : List Nat}

def InOrder (origin : Nat) (history : List (Nat × α)) (now : Nat) : Prop :=
  (origin :: (history.map Prod.fst ++ [now])).IsChain (· ≤ ·)

@[simp] theorem inOrder_nil : InOrder origin ([] : List (Nat × α)) now ↔ origin ≤ now := by
  simp [InOrder]

@[simp] theorem inOrder_cons :
    InOrder origin (x :: history) now ↔ origin ≤ x.1 ∧ InOrder x.1 history now := by
  simp [InOrder]

@[simp] theorem inOrder_map (f : Nat × α → β) :
    InOrder origin (history.map fun x => (x.1, f x)) now ↔ InOrder origin history now := by
  simp [InOrder, Function.comp_def]

namespace InOrder

theorem origin_le (order : InOrder origin history now) : origin ≤ now := by
  induction history generalizing origin with
  | nil => exact inOrder_nil.1 order
  | cons y rest ih =>
      obtain ⟨first, others⟩ := inOrder_cons.1 order
      exact Nat.le_trans first (ih others)

theorem mono (order : InOrder origin history now) (bound : now ≤ later) :
    InOrder origin history later := by
  induction history generalizing origin with
  | nil => exact inOrder_nil.2 (Nat.le_trans (inOrder_nil.1 order) bound)
  | cons y rest ih =>
      obtain ⟨first, others⟩ := inOrder_cons.1 order
      exact inOrder_cons.2 ⟨first, ih others⟩

theorem shrink (order : InOrder origin history now) (begun : origin ≤ time)
    (earlier : ∀ x ∈ history, x.1 ≤ time) : InOrder origin history time := by
  induction history generalizing origin with
  | nil => exact inOrder_nil.2 begun
  | cons y rest ih =>
      obtain ⟨first, others⟩ := inOrder_cons.1 order
      obtain ⟨bound, bounds⟩ := List.forall_mem_cons.1 earlier
      exact inOrder_cons.2 ⟨first, ih others bound bounds⟩

theorem append_inv (order : InOrder origin (before ++ after) now) :
    ∃ time, InOrder origin before time ∧ InOrder time after now := by
  induction before generalizing origin with
  | nil => exact ⟨origin, inOrder_nil.2 (Nat.le_refl _), order⟩
  | cons y before ih =>
      obtain ⟨first, others⟩ := inOrder_cons.1 order
      obtain ⟨time, front, back⟩ := ih others
      exact ⟨time, inOrder_cons.2 ⟨first, front⟩, back⟩

theorem cons_inv (order : InOrder origin (before ++ x :: after) now) :
    InOrder origin before x.1 ∧ InOrder x.1 after now := by
  obtain ⟨time, front, back⟩ := order.append_inv
  obtain ⟨first, others⟩ := inOrder_cons.1 back
  exact ⟨front.mono first, others⟩

theorem of_mem (order : InOrder origin history now) (member : x ∈ history) :
    origin ≤ x.1 ∧ x.1 ≤ now := by
  obtain ⟨before, after, rfl⟩ := List.append_of_mem member
  exact ⟨order.cons_inv.1.origin_le, order.cons_inv.2.origin_le⟩

end InOrder

def past (time : Nat) (history : List (Nat × α)) : List (Nat × α) :=
  history.filter (·.1 < time)

@[simp] theorem past_append : past time (before ++ after) = past time before ++ past time after :=
  List.filter_append ..

theorem past_eq_self (earlier : ∀ x ∈ history, x.1 < time) : past time history = history :=
  List.filter_eq_self.2 fun x member => decide_eq_true (earlier x member)

theorem past_eq_nil (notEarlier : ∀ x ∈ history, time ≤ x.1) : past time history = [] :=
  List.filter_eq_nil_iff.2 fun x member => by simpa using notEarlier x member

/-! ## Intervals -/

/-- An interval ends at `c` during which there was none of the moments. The intervals have the given
length, and the first of them begins at `since`. -/
def Silent (moments : List Nat) (since length c : Nat) : Prop :=
  ∃ k, c = since + (k + 1) * length ∧ ∀ u ∈ moments, ¬ (since + k * length ≤ u ∧ u < c)

theorem Silent.le (silent : Silent moments since length c) : since + length ≤ c := by
  obtain ⟨k, rfl, -⟩ := silent
  rw [Nat.succ_mul]
  omega

theorem silent_zero : Silent moments since 0 c ↔ c = since := by
  constructor
  · rintro ⟨k, rfl, -⟩
    rfl
  · rintro rfl
    exact ⟨0, rfl, fun u _ => by omega⟩

theorem exists_silent {u : Nat} (positive : 0 < length) (begun : since ≤ u)
    (last : ∀ v ∈ moments, v ≤ u) :
    ∃ c, u < c ∧ c ≤ u + 2 * length ∧ Silent moments since length c := by
  have parts := Nat.div_add_mod' (u - since) length
  have rest := Nat.mod_lt (u - since) positive
  generalize (u - since) / length = q at parts
  generalize (u - since) % length = r at parts rest
  have next : (q + 1) * length = q * length + length := Nat.succ_mul q length
  have nextButOne : (q + 1 + 1) * length = (q + 1) * length + length := Nat.succ_mul (q + 1) length
  refine ⟨since + (q + 1 + 1) * length, by omega, by omega, q + 1, rfl, fun v member => ?_⟩
  have := last v member
  omega

theorem silent_congr {moments' : List Nat} (same : ∀ u < c, u ∈ moments ↔ u ∈ moments') :
    Silent moments since length c ↔ Silent moments' since length c := by
  refine exists_congr fun k => and_congr_right fun _ => forall_congr' fun u => ?_
  constructor
  · rintro outside member ⟨inside, earlier⟩
    exact outside ((same u earlier).2 member) ⟨inside, earlier⟩
  · rintro outside member ⟨inside, earlier⟩
    exact outside ((same u earlier).1 member) ⟨inside, earlier⟩

/-- The part of a history that goes from a beginning to its end: since when, in intervals of which
length, and what happened. -/
structure Phase (α : Type) where
  since : Nat
  length : Nat
  later : List (Nat × α)

def Phase.IsCheck (ph : Phase α) (time : Nat) : Prop :=
  ∃ k, time = ph.since + (k + 1) * ph.length

instance {ph : Phase α} : Decidable (ph.IsCheck time) :=
  decidable_of_iff (∃ k < time + 1, time = ph.since + (k + 1) * ph.length) (by
    constructor
    · rintro ⟨k, -, ends⟩
      exact ⟨k, ends⟩
    · rintro ⟨k, ends⟩
      rcases Nat.eq_zero_or_pos ph.length with zero | positive
      · exact ⟨0, Nat.succ_pos time, by simpa [zero] using ends⟩
      · have := Nat.le_mul_of_pos_right (k + 1) positive
        exact ⟨k, by omega, ends⟩)

end GatewayTunnel
