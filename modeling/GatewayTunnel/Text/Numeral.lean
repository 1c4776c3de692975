namespace GatewayTunnel.Text.Numeral

def digitChar (d : Nat) : Char :=
  Char.ofNat ('0'.toNat + d % 10)

def digits (n : Nat) : List Char :=
  if n < 10 then [digitChar n] else digits (n / 10) ++ [digitChar n]

def text (n : Nat) : String :=
  String.ofList (digits n)

def digitValue? (c : Char) : Option Nat :=
  if '0' ≤ c ∧ c ≤ '9' then some (c.toNat - '0'.toNat) else none

def valueFrom? (acc : Nat) : List Char → Option Nat
  | [] => some acc
  | c :: cs =>
    match digitValue? c with
    | some d => valueFrom? (acc * 10 + d) cs
    | none => none

def value? : List Char → Option Nat
  | [] => none
  | c :: cs => valueFrom? 0 (c :: cs)

def dropPlus : List Char → List Char
  | '+' :: cs => cs
  | cs => cs

def read (bound : Nat) (cs : List Char) : Option Nat :=
  (value? (dropPlus cs)).filter (· ≤ bound)

/-! ## Reading what was written -/

theorem digitValue?_digitChar (d : Nat) : digitValue? (digitChar d) = some (d % 10) := by
  have lt : d % 10 < 10 := Nat.mod_lt _ (by decide)
  unfold digitChar
  generalize d % 10 = k at lt
  match k, lt with
  | 0, _ | 1, _ | 2, _ | 3, _ | 4, _ | 5, _ | 6, _ | 7, _ | 8, _ | 9, _ => decide

theorem valueFrom?_append (acc : Nat) (xs ys : List Char) :
    valueFrom? acc (xs ++ ys) = (valueFrom? acc xs).bind fun v => valueFrom? v ys := by
  induction xs generalizing acc with
  | nil => rfl
  | cons c cs ih =>
    simp only [List.cons_append, valueFrom?]
    cases digitValue? c with
    | none => rfl
    | some d => exact ih _

theorem valueFrom?_digits (n : Nat) : valueFrom? 0 (digits n) = some n := by
  fun_induction digits n with
  | case1 n h => simp [valueFrom?, digitValue?_digitChar, Nat.mod_eq_of_lt h]
  | case2 n h ih =>
    rw [valueFrom?_append, ih]
    simp only [Option.bind_some, valueFrom?, digitValue?_digitChar]
    exact congrArg some (by omega)

theorem digits_ne_nil (n : Nat) : digits n ≠ [] := by
  unfold digits
  split <;> simp

theorem value?_digits (n : Nat) : value? (digits n) = some n := by
  cases h : digits n with
  | nil => exact absurd h (digits_ne_nil n)
  | cons c cs => rw [value?, ← h, valueFrom?_digits]

theorem dropPlus_digits (n : Nat) : dropPlus (digits n) = digits n := by
  cases h : digits n with
  | nil => rfl
  | cons c cs =>
    by_cases plus : c = '+'
    · have := valueFrom?_digits n
      rw [h, plus] at this
      simp [valueFrom?, digitValue?] at this
    · unfold dropPlus
      split
      · next heq => exact absurd (List.cons.inj heq).1 plus
      · rfl

theorem read_digits {bound n : Nat} (h : n ≤ bound) : read bound (digits n) = some n := by
  simp [read, dropPlus_digits, value?_digits, h]

/-! ## What is read as a number -/

theorem le_of_read {bound n : Nat} {cs : List Char} (h : read bound cs = some n) : n ≤ bound := by
  simpa using (Option.filter_eq_some_iff.1 h).2

theorem isDigit_of_digitValue? {c : Char} {d : Nat} (digit : digitValue? c = some d) :
    c.isDigit = true := by
  unfold digitValue? at digit
  split at digit
  · rename_i bounds
    simpa [Char.isDigit, Char.le_def] using bounds
  · cases digit

theorem isDigit_of_valueFrom? {acc n : Nat} {cs : List Char} (value : valueFrom? acc cs = some n) :
    ∀ c ∈ cs, c.isDigit = true := by
  induction cs generalizing acc with
  | nil => nofun
  | cons c cs ih =>
    rw [valueFrom?] at value
    cases digit : digitValue? c with
    | none =>
      rw [digit] at value
      cases value
    | some d =>
      rw [digit] at value
      exact List.forall_mem_cons.2 ⟨isDigit_of_digitValue? digit, ih value⟩

theorem isDigit_of_mem_digits {c : Char} {n : Nat} (member : c ∈ digits n) : c.isDigit = true :=
  isDigit_of_valueFrom? (valueFrom?_digits n) c member

end GatewayTunnel.Text.Numeral
