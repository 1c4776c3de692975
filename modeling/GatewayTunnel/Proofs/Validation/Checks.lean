import GatewayTunnel.Proofs.Validation.Host

namespace GatewayTunnel.Validation

variable {s : String} {a : Address} {port : UInt16} {name : List Char}

theorem bind_eq_ok_iff {ε α : Type} {check : Except ε Unit} {rest : Unit → Except ε α} {a : α} :
    check >>= rest = .ok a ↔ check = .ok () ∧ rest () = .ok a := by
  cases check <;> simp [bind, Except.bind]

theorem bind_const_eq_ok_iff {ε α β : Type} {check : Except ε α} {rest : Except ε β} {b : β} :
    (check >>= fun _ => rest) = .ok b ↔ (∃ a, check = .ok a) ∧ rest = .ok b := by
  cases check <;> simp [bind, Except.bind]

theorem bind_eq_error_iff {ε α β : Type} {check : Except ε α} {rest : Except ε β} {e : ε} :
    (check >>= fun _ => rest) = .error e ↔
      check = .error e ∨ (∃ a, check = .ok a) ∧ rest = .error e := by
  cases check <;> simp [bind, Except.bind]

theorem exists_eq_ok_iff {ε : Type} {check : Except ε Unit} :
    (∃ a, check = .ok a) ↔ check = .ok () :=
  ⟨fun ⟨_, passed⟩ => passed, fun passed => ⟨(), passed⟩⟩

theorem forM_eq_ok_iff {ε α : Type} {xs : List α} {check : α → Except ε Unit} :
    xs.forM check = .ok () ↔ ∀ x ∈ xs, check x = .ok () := by
  induction xs with
  | nil => simp [List.forM, pure, Except.pure]
  | cons x xs ih => rw [List.forM, bind_eq_ok_iff, ih, List.forall_mem_cons]

theorem forM_eq_error_iff {ε α : Type} {xs : List α} {check : α → Except ε Unit} {e : ε} :
    xs.forM check = .error e ↔ ∃ before x after, xs = before ++ x :: after ∧
      (∀ y ∈ before, check y = .ok ()) ∧ check x = .error e := by
  induction xs with
  | nil => simp [List.forM, pure, Except.pure]
  | cons x xs ih =>
      rw [List.forM, bind_eq_error_iff, ih]
      constructor
      · rintro (here | ⟨⟨_, fine⟩, before, y, after, rfl, earlier, failed⟩)
        · exact ⟨[], x, xs, rfl, nofun, here⟩
        · exact ⟨x :: before, y, after, rfl, List.forall_mem_cons.2 ⟨fine, earlier⟩, failed⟩
      · rintro ⟨before, y, after, split, earlier, failed⟩
        cases before with
        | nil =>
            cases split
            exact .inl failed
        | cons z before =>
            cases split
            obtain ⟨first, others⟩ := List.forall_mem_cons.1 earlier
            exact .inr ⟨⟨(), first⟩, before, y, after, rfl, others, failed⟩

theorem mapError_eq_ok_iff {ε ε' α : Type} {x : Except ε α} {f : ε → ε'} {a : α} :
    x.mapError f = .ok a ↔ x = .ok a := by
  cases x <;> simp [Except.mapError]

theorem map_eq_ok_iff {ε α β : Type} {x : Except ε α} {f : α → β} {b : β} :
    x.map f = .ok b ↔ ∃ a, x = .ok a ∧ f a = b := by
  cases x <;> simp [Except.map]

theorem map_eq_error_iff {ε α β : Type} {x : Except ε α} {f : α → β} {e : ε} :
    x.map f = .error e ↔ x = .error e := by
  cases x <;> simp [Except.map]

theorem inField_eq_ok_iff {α : Type} {field : String} {check : Except Fault α} {a : α} :
    inField field check = .ok a ↔ check = .ok a :=
  mapError_eq_ok_iff

theorem checkHost_trim (s : String) : checkHost (Text.trim s) = checkHost s := by
  simp only [checkHost, Text.trim, String.toList_ofList, Text.trimmed_trimmed]

theorem checkPort_eq_ok_iff : checkPort port = .ok () ↔ port ≠ 0 := by
  by_cases zero : port = 0 <;> simp [checkPort, zero]

/-- A letter or an underscore, and after it up to 31 letters, digits, underscores, dots and hyphens. -/
def IsUserName (name : List Char) : Prop :=
  ∃ c rest, name = c :: rest ∧ (c.isAlpha = true ∨ c = '_') ∧ rest.length ≤ 31 ∧
    ∀ d ∈ rest, d.isAlphanum = true ∨ d = '_' ∨ d = '.' ∨ d = '-'

theorem isUserName_iff : isUserName name = true ↔ IsUserName name := by
  cases name with
  | nil => simp [isUserName, IsUserName]
  | cons c rest => simp [isUserName, IsUserName, isUserStart, isUserRest, and_assoc, or_assoc]

theorem checkUser_eq_ok_iff : checkUser s = .ok () ↔
    Text.trimmed s.toList = [] ∨ IsUserName (Text.trimmed s.toList) := by
  have passes : ((Text.trimmed s.toList).isEmpty || isUserName (Text.trimmed s.toList)) = true ↔
      Text.trimmed s.toList = [] ∨ IsUserName (Text.trimmed s.toList) := by
    rw [Bool.or_eq_true, List.isEmpty_iff, isUserName_iff]
  rw [← passes, checkUser]
  split
  · rename_i fits
    exact iff_of_true rfl fits
  · rename_i other
    exact iff_of_false nofun other

theorem checkAddress_eq_ok_iff : checkAddress s = .ok a ↔
    Address.parse? s = some a ∧ checkHost a.host = .ok () ∧ a.port ≠ 0 := by
  unfold checkAddress
  cases read : Address.parse? s with
  | none => simp
  | some b =>
      simp only [bind_eq_ok_iff, checkPort_eq_ok_iff, pure, Except.pure, Except.ok.injEq,
        Option.some.injEq]
      constructor
      · rintro ⟨host, port, rfl⟩
        exact ⟨rfl, host, port⟩
      · rintro ⟨rfl, host, port⟩
        exact ⟨host, port, rfl⟩

end GatewayTunnel.Validation
