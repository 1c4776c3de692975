import GatewayTunnel.Tokens

namespace GatewayTunnel.Tokens

variable {ts : Tokens} {t u : TokenId}

@[simp] theorem count_child : (ts.child t).count = ts.count + 1 := by
  simp [count, child]

@[simp] theorem count_cancel : (ts.cancel t).count = ts.count := by
  simp [count, cancel]

theorem mem_line_self : t ∈ ts.line t := List.mem_cons_self

@[simp] theorem stopped_child : (ts.child t).stopped u = ts.stopped u := by
  simp only [stopped, child, List.getElem?_append]
  split
  · rfl
  · rename_i outside
    rw [List.getElem?_eq_none (Nat.le_of_not_lt outside)]
    cases u - ts.all.length <;> rfl

theorem line_child (made : u < ts.count) : (ts.child t).line u = ts.line u := by
  simp [line, child, List.getElem?_append_left made]

@[simp] theorem line_child_new : (ts.child t).line ts.count = ts.count :: ts.line t := by
  simp [line, child, count]

theorem line_child_cases (made : u < (ts.child t).count) :
    (u < ts.count ∧ (ts.child t).line u = ts.line u) ∨
      (u = ts.count ∧ (ts.child t).line u = ts.count :: ts.line t) := by
  rw [count_child] at made
  rcases Nat.lt_succ_iff_lt_or_eq.1 made with old | rfl
  · exact .inl ⟨old, line_child old⟩
  · exact .inr ⟨rfl, line_child_new⟩

@[simp] theorem line_cancel : (ts.cancel t).line u = ts.line u := by
  by_cases same : t = u <;> cases there : ts.all[u]? <;>
    simp [line, cancel, there, same]

theorem stopped_lone : lone.stopped t = false := by
  cases t <;> rfl

theorem stopped_of_le (unmade : ts.count ≤ t) : ts.stopped t = false := by
  simp [stopped, List.getElem?_eq_none unmade]

theorem stopped_cancel (made : t < ts.count) :
    (ts.cancel t).stopped u = (ts.stopped u || u == t) := by
  have there : ts.all[t]? = some ts.all[t] := List.getElem?_eq_getElem made
  by_cases same : u = t
  · subst same
    simp [stopped, cancel, there]
  · simp [stopped, cancel, same, Ne.symm same]

theorem isCancelled_iff : ts.isCancelled t = true ↔ ∃ u ∈ ts.line t, ts.stopped u = true :=
  List.any_eq_true

theorem isCancelled_child (made : u < ts.count) :
    (ts.child t).isCancelled u = ts.isCancelled u := by
  have same : (ts.child t).stopped = ts.stopped := funext fun _ => stopped_child
  rw [isCancelled, line_child made, same, isCancelled]

theorem isCancelled_child_new : (ts.child t).isCancelled ts.count = ts.isCancelled t := by
  have same : (ts.child t).stopped = ts.stopped := funext fun _ => stopped_child
  rw [isCancelled, line_child_new, same, List.any_cons, stopped_of_le (Nat.le_refl _), Bool.false_or,
    isCancelled]

theorem isCancelled_cancel (made : t < ts.count) :
    (ts.cancel t).isCancelled u = (ts.isCancelled u || decide (t ∈ ts.line u)) := by
  rw [Bool.eq_iff_iff, Bool.or_eq_true, decide_eq_true_iff, isCancelled_iff, isCancelled_iff]
  simp only [line_cancel, stopped_cancel made, Bool.or_eq_true, beq_iff_eq]
  constructor
  · rintro ⟨v, member, stopped | rfl⟩
    · exact .inl ⟨v, member, stopped⟩
    · exact .inr member
  · rintro (⟨v, member, stopped⟩ | member)
    · exact ⟨v, member, .inl stopped⟩
    · exact ⟨t, member, .inr rfl⟩

theorem isCancelled_self (made : t < ts.count) : (ts.cancel t).isCancelled t = true := by
  simp [isCancelled_cancel made, mem_line_self]

theorem isCancelled_ite {stops : Bool} (made : t < ts.count) :
    (if stops then ts.cancel t else ts).isCancelled t = (ts.isCancelled t || stops) := by
  cases stops <;> simp [isCancelled_self made]

theorem isCancelled_of_line (line : ts.line t = t :: ts.line u) :
    ts.isCancelled t = (ts.stopped t || ts.isCancelled u) := by
  rw [isCancelled, line, List.any_cons]
  rfl

end GatewayTunnel.Tokens
