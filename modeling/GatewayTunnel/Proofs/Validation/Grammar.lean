import GatewayTunnel.Proofs.Address.Grammar
import GatewayTunnel.Proofs.Address.Literals

namespace GatewayTunnel.Validation

open IpLiteral (IsV4 IsV6)

variable {cs host : List Char} {names : List (List Char)} {field detail s : String}
  {e : ValidationError}

def IsLabel (cs : List Char) : Prop :=
  1 ≤ cs.length ∧ cs.length ≤ 63 ∧ (∀ c ∈ cs, c.isAlphanum = true ∨ c = '-') ∧
    cs.head? ≠ some '-' ∧ cs.getLast? ≠ some '-'

def Spells (names : List (List Char)) (host : List Char) : Prop :=
  names ≠ [] ∧ (∀ name ∈ names, '.' ∉ name) ∧ host = ['.'].intercalate names

/-- At most 253 bytes of an IP literal or of labels. -/
def FitHost (host : List Char) : Prop :=
  host ≠ [] ∧ (String.ofList host).utf8ByteSize ≤ 253 ∧
    ((IsV4 host ∨ IsV6 host) ∨ ∃ names, Spells names host ∧ ∀ name ∈ names, IsLabel name)

/-- The first check that a host fails, as it is reported. -/
inductive RefusedHost (host : List Char) : String → Prop
  | missing (empty : host = []) : RefusedHost host "host is required"
  | long (filled : host ≠ []) (long : 253 < (String.ofList host).utf8ByteSize) :
      RefusedHost host "host exceeds maximum length of 253 characters"
  | label (before : List (List Char)) (name : List Char) (after : List (List Char)) (filled : host ≠ [])
      (short : (String.ofList host).utf8ByteSize ≤ 253) (other : ¬(IsV4 host ∨ IsV6 host))
      (spells : Spells (before ++ name :: after) host) (fine : ∀ label ∈ before, IsLabel label)
      (bad : ¬IsLabel name) : RefusedHost host ("invalid host label '" ++ String.ofList name ++ "'")

/-! ## Labels -/

theorem isLabel_iff : isLabel cs = true ↔ IsLabel cs := by
  simp [isLabel, IsLabel, and_assoc]

theorem isLabel_iff_pattern : isLabel cs = true ↔ ∃ first, first.isAlphanum = true ∧
    (cs = [first] ∨ ∃ middle last, middle.length ≤ 61 ∧ (∀ c ∈ middle, c.isAlphanum = true ∨ c = '-') ∧
      last.isAlphanum = true ∧ cs = first :: (middle ++ [last])) := by
  have hyphen : ∀ {c : Char}, c.isAlphanum = true → c ≠ '-' := by
    rintro c alphanumeric rfl
    cases alphanumeric
  have length : ∀ (first last : Char) (middle : List Char),
      (first :: (middle ++ [last])).length = middle.length + 2 := fun _ _ _ => by
    rw [List.length_cons, List.length_append, List.length_singleton]
  rw [isLabel_iff]
  constructor
  · rintro ⟨filled, short, plain, start, stop⟩
    obtain ⟨first, rest, rfl⟩ := List.exists_cons_of_ne_nil (List.length_pos_iff.1 filled)
    obtain ⟨here, others⟩ := List.forall_mem_cons.1 plain
    refine ⟨first, here.resolve_right fun same => start (congrArg some same), ?_⟩
    rcases List.eq_nil_or_concat' rest with rfl | ⟨middle, last, rfl⟩
    · exact .inl rfl
    · obtain ⟨inside, final⟩ := List.forall_mem_append.1 others
      rw [length] at short
      refine .inr ⟨middle, last, Nat.le_of_add_le_add_right short, inside, ?_, rfl⟩
      refine (final last List.mem_cons_self).resolve_right ?_
      rintro rfl
      exact stop (by simp [List.getLast?_cons])
  · rintro ⟨first, here, rfl | ⟨middle, last, short, inside, final, rfl⟩⟩
    · simp [IsLabel, here, hyphen here]
    · have fits : (first :: (middle ++ [last])).length ≤ 63 := by
        rw [length]
        exact Nat.add_le_add_right short 2
      refine ⟨by simp, fits, ?_, by simpa using hyphen here, ?_⟩
      · refine List.forall_mem_cons.2 ⟨.inl here, List.forall_mem_append.2 ⟨inside, ?_⟩⟩
        simp [final]
      · simpa [List.getLast?_cons] using hyphen final

theorem spells_iff : Spells names host ↔ labels host = names :=
  Text.splitWhere_eq_iff.symm

theorem isHost_iff : IsHost host ↔
    (IsV4 host ∨ IsV6 host) ∨ ∃ names, Spells names host ∧ ∀ name ∈ names, IsLabel name := by
  simp only [IsHost, IpLiteral.isLiteral_iff, isHostName_iff, isLabel_iff, spells_iff, exists_eq_left']

/-! ## The check -/

theorem checkHost_eq_ok_iff_fit : checkHost s = .ok () ↔ FitHost (Text.trimmed s.toList) := by
  rw [checkHost_eq_ok_iff, isHost_iff]
  rfl

theorem checkHost_error_iff : (∃ fault, checkHost s = .error fault ∧ fault.message = detail) ↔
    RefusedHost (Text.trimmed s.toList) detail := by
  unfold checkHost
  generalize Text.trimmed s.toList = host
  constructor
  · rintro ⟨fault, failed, rfl⟩
    simp only at failed
    split at failed
    · rename_i empty
      cases failed
      exact .missing (List.isEmpty_iff.1 empty)
    rename_i filled
    rw [List.isEmpty_iff] at filled
    split at failed
    · rename_i long
      cases failed
      exact .long filled long
    rename_i short
    split at failed
    · cases failed
    rename_i other
    rw [IpLiteral.isLiteral_iff] at other
    split at failed
    · rename_i label found
      cases failed
      obtain ⟨bad, before, after, whole, fine⟩ := List.find?_eq_some_iff_append.1 found
      refine .label before label after filled (Nat.not_lt.1 short) other (spells_iff.2 whole) ?_ ?_
      · simpa [isLabel_iff] using fine
      · simpa [← isLabel_iff] using bad
    · cases failed
  · intro refused
    cases refused with
    | missing empty => exact ⟨.hostMissing, by simp [empty], rfl⟩
    | long filled long => exact ⟨.hostTooLong, by simp [filled, maxHostBytes, long], rfl⟩
    | label before name after filled short other spells fine bad =>
        have found : (labels host).find? (fun label => !isLabel label) = some name := by
          refine List.find?_eq_some_iff_append.2 ⟨?_, before, after, spells_iff.1 spells, ?_⟩
          · simpa [← isLabel_iff] using bad
          · simpa [isLabel_iff] using fine
        rw [← IpLiteral.isLiteral_iff] at other
        exact ⟨.badLabel (String.ofList name), by simp [filled, maxHostBytes, short, other, found], rfl⟩

theorem inField_eq_error_iff {α : Type} {check : Except Fault α} : inField field check = .error e ↔
    e.field = field ∧ ∃ fault, check = .error fault ∧ fault.message = e.detail := by
  obtain ⟨name, detail⟩ := e
  cases check with
  | error fault => simp [inField, Except.mapError, ValidationError.ofFault, eq_comm]
  | ok a => simp [inField, Except.mapError]

/-- A host between blanks is let through if and only if it is not empty, at most 253 bytes long and an IP
literal or labels between dots; otherwise the error has the setting's name and says which of this fails
first, and of the labels it names the leftmost that is not one. -/
theorem host_grammar_exact (field s : String) :
    (inField field (checkHost s) = .ok () ↔ FitHost (Text.trimmed s.toList)) ∧
    ∀ e, inField field (checkHost s) = .error e ↔
      e.field = field ∧ RefusedHost (Text.trimmed s.toList) e.detail :=
  ⟨by rw [inField_eq_ok_iff, checkHost_eq_ok_iff_fit],
    fun e => by rw [inField_eq_error_iff, checkHost_error_iff]⟩

/-! ## Users and written addresses -/

def FitUser (s : String) : Prop :=
  Text.trimmed s.toList = [] ∨ IsUserName (Text.trimmed s.toList)

theorem checkUser_error_iff : (∃ fault, checkUser s = .error fault ∧ fault.message = detail) ↔
    ¬FitUser s ∧ "invalid user name '" ++ Text.trim s ++ "'" = detail := by
  rw [FitUser, ← checkUser_eq_ok_iff, checkUser]
  constructor
  · rintro ⟨fault, failed, rfl⟩
    split at failed
    · cases failed
    · rename_i other
      cases failed
      rw [if_neg other]
      refine ⟨?_, rfl⟩
      intro passed
      cases passed
  · rintro ⟨other, rfl⟩
    split
    · rename_i fit
      exact absurd (if_pos fit) other
    · exact ⟨_, rfl, rfl⟩

theorem checkPort_error_iff {port : UInt16} :
    (∃ fault, checkPort port = .error fault ∧ fault.message = detail) ↔
      port = 0 ∧ "port must be between 1 and 65535" = detail := by
  constructor
  · rintro ⟨fault, failed, rfl⟩
    unfold checkPort at failed
    split at failed
    · cases failed
      exact ⟨‹_›, rfl⟩
    · cases failed
  · rintro ⟨rfl, rfl⟩
    exact ⟨.portZero, rfl, rfl⟩

def FitAddress (s : String) : Prop :=
  ∃ host p, Address.Written (Text.trimmed s.toList) host p ∧ FitHost (Text.trimmed host) ∧ p ≠ 0

inductive RefusedAddress (s : String) : String → Prop
  | unread (unwritten : ∀ host p, ¬Address.Written (Text.trimmed s.toList) host p) :
      RefusedAddress s ("expected host:port, got '" ++ s ++ "'")
  | host (host : List Char) (p : Nat) (detail : String)
      (written : Address.Written (Text.trimmed s.toList) host p)
      (refused : RefusedHost (Text.trimmed host) detail) : RefusedAddress s detail
  | port (host : List Char) (written : Address.Written (Text.trimmed s.toList) host 0)
      (fit : FitHost (Text.trimmed host)) : RefusedAddress s "port must be between 1 and 65535"

theorem exists_checkAddress_iff : (∃ a, checkAddress s = .ok a) ↔ FitAddress s := by
  constructor
  · rintro ⟨a, accepted⟩
    obtain ⟨read, host, port⟩ := checkAddress_eq_ok_iff.1 accepted
    exact ⟨_, _, Address.parse?_eq_some_iff_written.1 read, checkHost_eq_ok_iff_fit.1 host,
      fun zero => port (UInt16.toNat_inj.1 zero)⟩
  · rintro ⟨host, p, written, fit, port⟩
    obtain ⟨a, read, rfl, rfl⟩ := Address.exists_of_written written
    refine ⟨a, checkAddress_eq_ok_iff.2 ⟨read, checkHost_eq_ok_iff_fit.2 fit, fun zero => port ?_⟩⟩
    rw [zero]
    rfl

theorem checkAddress_of_parse? {a : Address} (read : Address.parse? s = some a) :
    checkAddress s = checkHost a.host >>= fun _ => checkPort a.port >>= fun _ => .ok a := by
  rw [checkAddress, read]
  rfl

theorem checkAddress_error_iff : (∃ fault, checkAddress s = .error fault ∧ fault.message = detail) ↔
    RefusedAddress s detail := by
  cases read : Address.parse? s with
  | none =>
      have unwritten := Address.parse?_eq_none_iff_unwritten.1 read
      have failed : checkAddress s = .error (.notAnAddress s) := by rw [checkAddress, read]
      rw [failed]
      constructor
      · rintro ⟨_, ⟨⟩, rfl⟩
        exact .unread unwritten
      · intro refused
        cases refused with
        | unread => exact ⟨_, rfl, rfl⟩
        | host host p _ written => exact absurd written (unwritten host p)
        | port host written => exact absurd written (unwritten host 0)
  | some a =>
      have own := Address.parse?_eq_some_iff_written.1 read
      rw [checkAddress_of_parse? read]
      constructor
      · rintro ⟨fault, failed, rfl⟩
        rcases bind_eq_error_iff.1 failed with host | ⟨⟨_, host⟩, rest⟩
        · exact .host _ _ _ own (checkHost_error_iff.1 ⟨fault, host, rfl⟩)
        · rcases bind_eq_error_iff.1 rest with port | ⟨-, ⟨⟩⟩
          obtain ⟨zero, text⟩ := checkPort_error_iff.1 ⟨fault, port, rfl⟩
          rw [← text]
          rw [zero] at own
          exact .port _ own (checkHost_eq_ok_iff_fit.1 host)
      · intro refused
        cases refused with
        | unread unwritten => exact absurd own (unwritten _ _)
        | host host p _ written refused =>
            obtain ⟨rfl, rfl⟩ := Address.eq_of_written read written
            obtain ⟨fault, failed, text⟩ := checkHost_error_iff.2 refused
            exact ⟨fault, bind_eq_error_iff.2 (.inl failed), text⟩
        | port host written fit =>
            obtain ⟨rfl, zero⟩ := Address.eq_of_written read written
            obtain ⟨fault, failed, text⟩ := checkPort_error_iff.2 ⟨UInt16.toNat_inj.1 zero.symm, rfl⟩
            exact ⟨fault, bind_eq_error_iff.2 (.inr ⟨⟨_, checkHost_eq_ok_iff_fit.2 fit⟩,
              bind_eq_error_iff.2 (.inl failed)⟩), text⟩

end GatewayTunnel.Validation
