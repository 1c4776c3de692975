import GatewayTunnel.Backoff
import Mathlib.Data.List.Destutter

namespace GatewayTunnel.Backoff

variable {ε α : Type} {b : Backoff} {text : ε → String} {operation : Nat → Except ε α}
  {failures : List ε} {e : ε} {a : α}

def Failed (operation : Nat → Except ε α) (failures : List ε) : Prop :=
  ∀ k e, failures[k]? = some e → operation k = .error e

theorem Failed.nil : Failed operation [] := nofun

theorem Failed.concat (failed : Failed operation failures)
    (last : operation failures.length = .error e) : Failed operation (failures ++ [e]) := by
  intro k e' here
  rw [List.getElem?_append] at here
  split at here
  · exact failed k e' here
  · rename_i late
    obtain ⟨same, rfl⟩ : k - failures.length = 0 ∧ e = e' := by
      simpa [List.getElem?_singleton] using here
    rw [show k = failures.length by omega, last]

theorem Failed.concat_inv (failed : Failed operation (failures ++ [e])) :
    Failed operation failures ∧ operation failures.length = .error e := by
  refine ⟨fun k e' here => failed k e' ?_, failed _ e (by simp)⟩
  rw [List.getElem?_append_left (List.getElem?_eq_some_iff.1 here).1, here]

theorem exists_failed (operation : Nat → Except ε α) (n : Nat) :
    ∃ failures, Failed operation failures ∧
    (failures.length = n ∨ failures.length < n ∧ ∃ a, operation failures.length = .ok a) := by
  induction n with
  | zero => exact ⟨[], .nil, .inl rfl⟩
  | succ n ih =>
      obtain ⟨failures, failed, rfl | ⟨few, success⟩⟩ := ih
      · cases last : operation failures.length with
        | error e => exact ⟨failures ++ [e], failed.concat last, .inl (by simp)⟩
        | ok a => exact ⟨failures, failed, .inr ⟨Nat.lt_succ_self _, a, last⟩⟩
      · exact ⟨failures, failed, .inr ⟨Nat.lt_succ_of_lt few, success⟩⟩

/-! ## Kept errors -/

def kept (text : ε → String) (failures : List ε) : List ε :=
  failures.foldl (keep text) []

theorem kept_concat : kept text (failures ++ [e]) = keep text (kept text failures) e := by
  simp [kept]

theorem keep_concat (errors : List ε) (last : ε) : keep text (errors ++ [last]) e =
    if text last = text e then errors ++ [last] else errors ++ [last, e] := by
  simp [keep]

/-- The last kept error stands for the ones before it with its text. -/
theorem foldl_keep (errors : List ε) (last : ε) : failures.foldl (keep text) (errors ++ [last]) =
    errors ++ failures.destutter' (fun e e' => text e ≠ text e') last := by
  induction failures generalizing errors last with
  | nil => rfl
  | cons e failures ih =>
      rw [List.foldl_cons, keep_concat]
      by_cases same : text last = text e
      · rw [if_pos same, ih, List.destutter'_cons_neg _ (not_not.2 same)]
      · rw [if_neg same, List.append_cons, ih, List.destutter'_cons_pos _ same]
        simp

theorem kept_eq_destutter (text : ε → String) (failures : List ε) :
    kept text failures = failures.destutter fun e e' => text e ≠ text e' := by
  cases failures with
  | nil => rfl
  | cons e failures => exact foldl_keep [] e

theorem map_kept (text : ε → String) (failures : List ε) :
    (kept text failures).map text = (failures.map text).destutter (· ≠ ·) := by
  rw [kept_eq_destutter]
  exact List.map_destutter fun _ _ _ _ => Iff.rfl

theorem getLast?_keep (errors : List ε) :
    (keep text errors e).getLast?.map text = some (text e) := by
  cases errors using List.reverseRecOn with
  | nil => rfl
  | append_singleton errors last =>
      rw [keep_concat]
      split
      · rename_i same
        simp [same]
      · simp

theorem getLast?_kept (text : ε → String) (failures : List ε) :
    (kept text failures).getLast?.map text = failures.getLast?.map text := by
  cases failures using List.reverseRecOn with
  | nil => rfl
  | append_singleton failures e => rw [kept_concat, getLast?_keep]; simp

/-! ## Runs -/

def Progress.after (text : ε → String) (failures : List ε) : Progress ε :=
  ⟨failures.length, kept text failures⟩

def failing (b : Backoff) (n : Nat) : List Event :=
  (List.range n).flatMap fun k => [.call k, .pause (b.delayFor k)]

def trace (b : Backoff) (last : Nat) : List Event :=
  b.failing last ++ [.call last]

theorem failing_succ (n : Nat) :
    b.failing (n + 1) = b.failing n ++ [.call n, .pause (b.delayFor n)] := by
  simp [failing, List.range_succ]

theorem fail_after_of_lt (more : failures.length + 1 < b.attempts) :
    (Progress.after text failures).fail b text e =
      .ok (b.delayFor failures.length, .after text (failures ++ [e])) := by
  simp [Progress.fail, Progress.after, more, kept_concat]

theorem fail_after_of_last (last : b.attempts ≤ failures.length + 1) :
    (Progress.after text failures).fail b text e =
      .error ⟨b.attempts, kept text (failures ++ [e])⟩ := by
  simp [Progress.fail, Progress.after, Nat.not_lt.2 last, kept_concat]

theorem runFrom_of_ok {p : Progress ε} (success : operation p.attempt = .ok a) :
    b.runFrom text operation p = ⟨[.call p.attempt], .ok a⟩ := by
  rw [runFrom, success]

theorem runFrom_of_retry {p q : Progress ε} {pause : Duration}
    (failure : operation p.attempt = .error e) (retried : p.fail b text e = .ok (pause, q)) :
    b.runFrom text operation p = ⟨.call p.attempt :: .pause pause ::
      (b.runFrom text operation q).events, (b.runFrom text operation q).result⟩ := by
  rw [runFrom]
  simp only [failure]
  split
  · rename_i spent
    rw [retried] at spent
    cases spent
  · rename_i again
    rw [retried] at again
    cases again
    rfl

theorem runFrom_of_spent {p : Progress ε} {spent : RetryError ε}
    (failure : operation p.attempt = .error e) (gaveUp : p.fail b text e = .error spent) :
    b.runFrom text operation p = ⟨[.call p.attempt], .error spent⟩ := by
  rw [runFrom]
  simp only [failure]
  split
  · rename_i again
    rw [gaveUp] at again
    cases again
    rfl
  · rename_i retried
    rw [gaveUp] at retried
    cases retried

theorem run_eq_runFrom (failed : Failed operation failures) (few : failures.length < b.attempts) :
    b.run text operation =
      ⟨b.failing failures.length ++ (b.runFrom text operation (.after text failures)).events,
        (b.runFrom text operation (.after text failures)).result⟩ := by
  induction failures using List.reverseRecOn with
  | nil => rfl
  | append_singleton failures e ih =>
      obtain ⟨before, last⟩ := failed.concat_inv
      rw [List.length_append, List.length_singleton] at few ⊢
      rw [ih before (by omega), runFrom_of_retry last (fail_after_of_lt few), failing_succ]
      simp [Progress.after]

theorem run_of_success (failed : Failed operation failures) (few : failures.length < b.attempts)
    (success : operation failures.length = .ok a) :
    b.run text operation = ⟨b.trace failures.length, .ok a⟩ := by
  rw [run_eq_runFrom failed few, runFrom_of_ok success]
  rfl

theorem run_of_spent (failed : Failed operation failures) (all : failures.length = b.attempts) :
    b.run text operation =
      ⟨b.trace (b.attempts - 1), .error ⟨b.attempts, kept text failures⟩⟩ := by
  cases failures using List.reverseRecOn with
  | nil => exact absurd all (Nat.ne_of_lt (Nat.le_max_left 1 b.maxAttempts))
  | append_singleton failures e =>
      obtain ⟨before, last⟩ := failed.concat_inv
      rw [List.length_append, List.length_singleton] at all
      rw [run_eq_runFrom before (by omega), runFrom_of_spent last (fail_after_of_last (by omega)),
        show b.attempts - 1 = failures.length by omega]
      rfl

/-- A run calls the operation with 0, 1, 2, … and pauses between the calls, and only there. It ends with
the first success, whose value it gives, or when all attempts have failed. Then it keeps of neighbouring
failures with the same text the first one only. -/
theorem run_exact (b : Backoff) (text : ε → String) (operation : Nat → Except ε α) :
    (∃ failures a, Failed operation failures ∧ failures.length < max 1 b.maxAttempts ∧
      operation failures.length = .ok a ∧
      b.run text operation = ⟨b.trace failures.length, .ok a⟩) ∨
    ∃ failures spent, Failed operation failures ∧ failures.length = max 1 b.maxAttempts ∧
      b.run text operation = ⟨b.trace (failures.length - 1), .error spent⟩ ∧
      spent.attempts = max 1 b.maxAttempts ∧
      spent.errors = (failures.destutter fun e e' => text e ≠ text e') ∧
      spent.errors.map text = (failures.map text).destutter (· ≠ ·) ∧
      spent.errors ≠ [] ∧ (spent.errors.map text).IsChain (· ≠ ·) ∧
      spent.last?.map text = failures.getLast?.map text := by
  obtain ⟨failures, failed, all | ⟨few, a, success⟩⟩ := exists_failed operation b.attempts
  · have some : kept text failures ≠ [] := by
      rw [kept_eq_destutter, Ne, List.destutter_eq_nil, ← List.length_eq_zero_iff, all]
      exact Nat.ne_of_gt (Nat.le_max_left 1 b.maxAttempts)
    refine .inr ⟨failures, ⟨b.attempts, kept text failures⟩, failed, all, ?_, rfl,
      kept_eq_destutter text failures, map_kept text failures, some, ?_,
      getLast?_kept text failures⟩
    · rw [all]
      exact run_of_spent failed all
    · rw [map_kept]
      exact List.isChain_destutter ..
  · exact .inl ⟨failures, a, failed, few, success, run_of_success failed few success⟩

end GatewayTunnel.Backoff
