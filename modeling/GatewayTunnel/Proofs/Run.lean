/-!
# Runs of machines

A machine is a function that says what an action does to a state, if it is possible, and which events
it shows. `Reaches` is the run of a machine built at its end, so that induction on it is the
induction over all states that can be reached; `reaches_iff` relates it to a function that takes the
actions from the front.
-/

namespace GatewayTunnel

variable {σ α ε : Type} {step : σ → α → Option (σ × List ε)} {s s' s'' : σ} {as bs : List α}
  {es fs : List ε}

/-- The actions lead from the first state to the second and show the events. -/
inductive Reaches (step : σ → α → Option (σ × List ε)) (s : σ) : List α → σ → List ε → Prop where
  | refl : Reaches step s [] s []
  | snoc {as : List α} {s' : σ} {es : List ε} {a : α} {s'' : σ} {fs : List ε} :
      Reaches step s as s' es → step s' a = some (s'', fs) →
      Reaches step s (as ++ [a]) s'' (es ++ fs)

namespace Reaches

theorem single {a : α} (h : step s a = some (s', es)) : Reaches step s [a] s' es := by
  simpa using Reaches.refl.snoc h

theorem trans (h : Reaches step s as s' es) (h' : Reaches step s' bs s'' fs) :
    Reaches step s (as ++ bs) s'' (es ++ fs) := by
  induction h' with
  | refl => simpa using h
  | snoc _ moved ih =>
      rw [← List.append_assoc, ← List.append_assoc]
      exact ih.snoc moved

theorem split {l₁ l₂ : List ε} {e : ε} (h : Reaches step s as s' (l₁ ++ e :: l₂)) :
    ∃ as₁ s₁ es₁ a s₂ d₁ d₂ as₂ es₂, Reaches step s as₁ s₁ es₁ ∧
      step s₁ a = some (s₂, d₁ ++ e :: d₂) ∧ Reaches step s₂ as₂ s' es₂ ∧
      as = as₁ ++ a :: as₂ ∧ l₁ = es₁ ++ d₁ ∧ l₂ = d₂ ++ es₂ := by
  generalize shown : l₁ ++ e :: l₂ = es at h
  induction h generalizing l₂ with
  | refl => simp at shown
  | @snoc as s₁ es a s₂ fs before moved ih =>
      rcases List.append_eq_append_iff.1 shown with ⟨d, rfl, tail⟩ | ⟨d, rfl, tail⟩
      · cases d with
        | nil =>
            simp only [List.nil_append] at tail
            exact ⟨as, s₁, l₁ ++ [], a, s₂, [], l₂, [], [], by simpa using before,
              by simpa [tail] using moved, .refl, rfl, by simp, by simp⟩
        | cons x d =>
            obtain ⟨rfl, rfl⟩ := List.cons.inj tail
            obtain ⟨as₁, u, es₁, b, v, d₁, d₂, as₂, es₂, h₁, h₂, h₃, rfl, rfl, rfl⟩ := ih rfl
            exact ⟨as₁, u, es₁, b, v, d₁, d₂, as₂ ++ [a], es₂ ++ fs, h₁, h₂, h₃.snoc moved,
              by simp, rfl, by simp⟩
      · exact ⟨as, s₁, es, a, s₂, d, l₂, [], [], before, by rw [← tail]; exact moved, .refl, rfl,
          rfl, by simp⟩

theorem append_inv (h : Reaches step s (as ++ bs) s'' es) : ∃ s' es₁ es₂, Reaches step s as s' es₁ ∧
    Reaches step s' bs s'' es₂ ∧ es = es₁ ++ es₂ := by
  generalize whole : as ++ bs = cs at h
  induction h generalizing bs with
  | refl =>
      obtain ⟨rfl, rfl⟩ := List.append_eq_nil_iff.1 whole
      exact ⟨s, [], [], .refl, .refl, rfl⟩
  | @snoc cs s₁ es a s₂ fs before moved ih =>
      rcases List.eq_nil_or_concat bs with rfl | ⟨bs, b, rfl⟩
      · rw [List.append_nil] at whole
        subst whole
        exact ⟨s₂, es ++ fs, [], before.snoc moved, .refl, (List.append_nil _).symm⟩
      · rw [List.concat_eq_append, ← List.append_assoc] at whole
        obtain ⟨rfl, same⟩ := List.append_inj' whole rfl
        cases same
        obtain ⟨s', es₁, es₂, front, back, rfl⟩ := ih rfl
        exact ⟨s', es₁, es₂ ++ fs, front, by simpa using back.snoc moved, List.append_assoc ..⟩

theorem single_inv {a : α} (h : Reaches step s [a] s' es) : step s a = some (s', es) := by
  generalize only : [a] = cs at h
  cases h with
  | refl => cases only
  | snoc before moved =>
      rw [← List.nil_append [a]] at only
      obtain ⟨none, same⟩ := List.append_inj' only rfl
      cases same
      cases before with
      | refl => exact moved
      | snoc => simp at none

theorem cut {a : α} (h : Reaches step s (as ++ a :: bs) s'' es) : ∃ s₁ es₁ s₂ fs es₂,
    Reaches step s as s₁ es₁ ∧ step s₁ a = some (s₂, fs) ∧ Reaches step s₂ bs s'' es₂ ∧
      es = es₁ ++ (fs ++ es₂) := by
  rw [List.append_cons, List.append_assoc] at h
  obtain ⟨s₁, es₁, rest, front, back, rfl⟩ := append_inv h
  obtain ⟨s₂, fs, es₂, first, last, rfl⟩ := append_inv back
  exact ⟨s₁, es₁, s₂, fs, es₂, front, single_inv first, last, rfl⟩

end Reaches

theorem reaches_iff {run : σ → List α → Option (σ × List ε)} (nil : ∀ s, run s [] = some (s, []))
    (cons : ∀ s a as, run s (a :: as) =
      (step s a).bind fun p => (run p.1 as).map fun q => (q.1, p.2 ++ q.2)) :
    run s as = some (s', es) ↔ Reaches step s as s' es := by
  constructor
  · intro h
    induction as generalizing s es with
    | nil =>
        rw [nil] at h
        cases h
        exact .refl
    | cons a as ih =>
        simp only [cons, Option.bind_eq_some_iff, Option.map_eq_some_iff, Prod.mk.injEq] at h
        obtain ⟨⟨u, fs⟩, moved, ⟨v, gs⟩, rest, rfl, rfl⟩ := h
        exact (Reaches.single moved).trans (ih rest)
  · intro h
    have snoc : ∀ (as : List α) (a : α) (s : σ), run s (as ++ [a]) = (run s as).bind fun p =>
        (step p.1 a).map fun q => (q.1, p.2 ++ q.2) := by
      intro as a
      induction as with
      | nil => intro s; cases first : step s a <;> simp [nil, cons, first]
      | cons b as ih =>
          intro s
          rw [List.cons_append, cons, cons]
          cases step s b with
          | none => rfl
          | some p => simp [ih, Option.bind_map, Option.map_bind, Function.comp_def]
    induction h with
    | refl => exact nil s
    | snoc _ moved ih => simp [snoc, ih, moved]

end GatewayTunnel
