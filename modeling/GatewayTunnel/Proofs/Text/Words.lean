import GatewayTunnel.Text.Blank
import Mathlib.Data.List.DropRight
import Mathlib.Data.List.TakeWhile

namespace GatewayTunnel.Text

theorem trimmed_eq_nil_iff {cs : List Char} : trimmed cs = [] ↔ cs.all isBlank = true := by
  have front : (cs.takeWhile isBlank).all isBlank = true :=
    List.all_eq_true.2 fun _ mem => (List.mem_takeWhile_imp mem)
  calc trimmed cs = [] ↔ (cs.dropWhile isBlank).all isBlank = true := by
        simp [trimmed, trimEnd, trimStart, List.dropWhile_eq_nil_iff]
    _ ↔ cs.all isBlank = true := by
        conv => rhs; rw [← List.takeWhile_append_dropWhile (p := isBlank) (l := cs)]
        rw [List.all_append, front, Bool.true_and]

theorem trimmed_prefix (cs : List Char) : trimmed cs <+: trimStart cs :=
  List.rdropWhile_prefix isBlank (trimStart cs)

theorem isBlank_of_trimStart {cs rest : List Char} {c : Char} (left : trimStart cs = c :: rest) :
    isBlank c = false := by
  have start : isBlank ((trimStart cs).head (by simp [left])) = false :=
    List.head_dropWhile_not isBlank _
  simpa [left] using start

theorem trimStart_trimmed (cs : List Char) : trimStart (trimmed cs) = trimmed cs := by
  cases left : trimmed cs with
  | nil => rfl
  | cons c rest =>
      obtain ⟨back, whole⟩ := trimmed_prefix cs
      rw [left, List.cons_append] at whole
      have visible : isBlank c = false := isBlank_of_trimStart whole.symm
      exact List.dropWhile_cons_of_neg (by simp [visible])

theorem trimmed_trimmed (cs : List Char) : trimmed (trimmed cs) = trimmed cs := by
  rw [trimmed, trimStart_trimmed]
  exact List.rdropWhile_idempotent isBlank (trimStart cs)

theorem trimmed_eq_self {cs : List Char} (front : ∀ c, cs.head? = some c → isBlank c = false)
    (back : ∀ c, cs.getLast? = some c → isBlank c = false) : trimmed cs = cs := by
  have start : trimStart cs = cs := by
    cases cs with
    | nil => rfl
    | cons c cs => exact List.dropWhile_cons_of_neg (by simp [front c rfl])
  rw [trimmed, start]
  refine List.rdropWhile_eq_self_iff.2 fun some => ?_
  simp [back _ (List.getLast?_eq_some_getLast some)]

theorem trimmed_trimStart_append (cs ds : List Char) :
    trimmed (trimStart cs ++ ds) = trimmed (cs ++ ds) := by
  induction cs with
  | nil => rfl
  | cons c cs ih =>
      by_cases blank : isBlank c
      · simpa [trimmed, trimStart, blank] using ih
      · simp [trimStart, blank]

theorem mem_dropWhile_isBlank {cs : List Char} {c : Char} (visible : isBlank c = false) :
    c ∈ cs.dropWhile isBlank ↔ c ∈ cs := by
  have front : c ∉ cs.takeWhile isBlank := by
    intro member
    rw [List.mem_takeWhile_imp member] at visible
    cases visible
  conv => rhs; rw [← List.takeWhile_append_dropWhile (p := isBlank) (l := cs)]
  rw [List.mem_append, or_iff_right front]

theorem mem_trimmed_iff {cs : List Char} {c : Char} (visible : isBlank c = false) :
    c ∈ trimmed cs ↔ c ∈ cs := by
  simp only [trimmed, trimEnd, trimStart, List.mem_reverse, mem_dropWhile_isBlank visible]

theorem splitWhere_concat {α : Type _} {p : α → Bool} {a : α} (h : p a = true) (as : List α) :
    splitWhere p (as ++ [a]) = splitWhere p as ++ [[]] := by
  induction as with
  | nil => simp [splitWhere, h]
  | cons b as ih =>
    by_cases cut : p b
    · simp [splitWhere, cut, ih]
    · cases pieces : splitWhere p as with
      | nil => exact absurd pieces (splitWhere_ne_nil p as)
      | cons piece pieces' => simp [splitWhere, cut, ih, pieces]

theorem splitWhere_append_cons {α : Type _} {p : α → Bool} {as bs : List α} {b : α}
    (plain : ∀ a ∈ as, p a = false) (cut : p b = true) :
    splitWhere p (as ++ b :: bs) = as :: splitWhere p bs := by
  induction as with
  | nil => simp [splitWhere, cut]
  | cons a as ih =>
      obtain ⟨first, others⟩ := List.forall_mem_cons.1 plain
      rw [List.cons_append, splitWhere, ih others]
      simp [first]

theorem splitWhere_eq_singleton {α : Type _} {p : α → Bool} {as : List α}
    (plain : ∀ a ∈ as, p a = false) : splitWhere p as = [as] := by
  induction as with
  | nil => rfl
  | cons a as ih =>
      obtain ⟨first, others⟩ := List.forall_mem_cons.1 plain
      rw [splitWhere, ih others]
      simp [first]

/-! ## Words -/

theorem words_cons_of_blank {c : Char} (blank : isBlank c = true) (cs : List Char) :
    words (c :: cs) = words cs := by
  simp [words, splitWhere, blank]

theorem words_concat_of_blank {c : Char} (blank : isBlank c = true) (cs : List Char) :
    words (cs ++ [c]) = words cs := by
  simp [words, splitWhere_concat blank]

theorem words_blank_append {gap : List Char} (blank : ∀ c ∈ gap, isBlank c = true)
    (cs : List Char) : words (gap ++ cs) = words cs := by
  induction gap with
  | nil => rfl
  | cons c gap ih =>
      obtain ⟨first, others⟩ := List.forall_mem_cons.1 blank
      rw [List.cons_append, words_cons_of_blank first, ih others]

def Ends (cs : List Char) : Prop :=
  ∀ c, cs.head? = some c → isBlank c = true

theorem words_word_append {word rest : List Char} (visible : ∀ c ∈ word, isBlank c = false)
    (some : word ≠ []) (ends : Ends rest) : words (word ++ rest) = word :: words rest := by
  cases rest with
  | nil =>
      rw [List.append_nil, words, splitWhere_eq_singleton visible]
      simp [words, splitWhere, some]
  | cons c rest =>
      have blank : isBlank c = true := ends c rfl
      rw [words_cons_of_blank blank, words, splitWhere_append_cons visible blank]
      simp [words, some]

theorem words_trimmed (cs : List Char) : words (trimmed cs) = words cs := by
  have start : ∀ cs : List Char, words (trimStart cs) = words cs := by
    intro cs
    induction cs with
    | nil => rfl
    | cons c cs ih =>
      by_cases h : isBlank c
      · simpa [trimStart, h, words_cons_of_blank h] using ih
      · simp [trimStart, h]
  have last : ∀ cs : List Char, words (cs.dropWhile isBlank).reverse = words cs.reverse := by
    intro cs
    induction cs with
    | nil => rfl
    | cons c cs ih =>
      by_cases h : isBlank c
      · simpa [h, words_concat_of_blank h] using ih
      · simp [h]
  rw [trimmed, trimEnd, last, List.reverse_reverse, start]

/-! ## Visible characters -/

def isVisible (c : Char) : Bool :=
  32 < c.toNat && c.toNat < 127

theorem isBlank_of_isVisible {c : Char} (visible : isVisible c = true) : isBlank c = false := by
  simp only [isVisible, Bool.and_eq_true, decide_eq_true_eq] at visible
  simp only [isBlank, Bool.or_eq_false_iff, Bool.and_eq_false_iff, decide_eq_false_iff_not,
    beq_eq_false_iff_ne]
  omega

theorem words_cons {word rest : List Char} (visible : ∀ c ∈ word, isVisible c = true)
    (some : word ≠ []) : words (word ++ ' ' :: rest) = word :: words rest := by
  have plain : ∀ c ∈ word, isBlank c = false := fun c member =>
    isBlank_of_isVisible (visible c member)
  have ends : Ends (' ' :: rest) := by
    rintro c ⟨⟩
    rfl
  rw [words_word_append plain some ends, words_cons_of_blank rfl]

theorem words_single {word : List Char} (visible : ∀ c ∈ word, isVisible c = true)
    (some : word ≠ []) : words word = [word] := by
  have plain : ∀ c ∈ word, isBlank c = false := fun c member =>
    isBlank_of_isVisible (visible c member)
  have alone : words (word ++ []) = word :: words [] := words_word_append plain some nofun
  rwa [List.append_nil] at alone

theorem lines_single {line : List Char} (whole : '\n' ∉ line) (some : line ≠ []) :
    lines line = [line] := by
  have plain : ∀ c ∈ line, (c == '\n') = false := by
    intro c member
    rw [beq_eq_false_iff_ne]
    rintro rfl
    exact whole member
  rw [lines, splitWhere_eq_singleton plain]
  simp [endLines, some]

end GatewayTunnel.Text
