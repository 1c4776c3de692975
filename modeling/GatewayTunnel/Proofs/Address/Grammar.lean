import GatewayTunnel.Proofs.Address.Reading
import GatewayTunnel.Proofs.Text.Numerals

namespace GatewayTunnel.Address

variable {a : Address} {s : String} {cs host : List Char} {p : Nat}

def Written (cs host : List Char) (p : Nat) : Prop :=
  host ≠ [] ∧ ∃ port, Text.Numeral.IsNumeral port p ∧ p ≤ 65535 ∧
    ((']' ∉ host ∧ cs = '[' :: (host ++ ']' :: ':' :: port)) ∨
      (cs.head? ≠ some '[' ∧ ':' ∉ port ∧ cs = host ++ ':' :: port))

theorem parse?_eq_some_iff_written : parse? s = some a ↔
    Written (Text.trimmed s.toList) a.host.toList a.port.toNat := by
  rw [parse?_eq_some_iff]
  constructor
  · rintro ⟨port, cut, filled, number⟩
    obtain ⟨numeral, small⟩ := Text.Numeral.read_eq_some_iff.1 number
    exact ⟨filled, port, numeral, small, split?_eq_some_iff.1 cut⟩
  · rintro ⟨filled, port, numeral, small, shape⟩
    exact ⟨port, split?_eq_some_iff.2 shape, filled, Text.Numeral.read_eq_some_iff.2 ⟨numeral, small⟩⟩

theorem exists_of_written (written : Written (Text.trimmed s.toList) host p) :
    ∃ a, parse? s = some a ∧ a.host.toList = host ∧ a.port.toNat = p := by
  have ⟨_, _, _, small, _⟩ := written
  have port : (UInt16.ofNat p).toNat = p := UInt16.toNat_ofNat_of_lt' (Nat.lt_succ_of_le small)
  refine ⟨⟨String.ofList host, UInt16.ofNat p⟩, parse?_eq_some_iff_written.2 ?_,
    String.toList_ofList, port⟩
  rwa [String.toList_ofList, port]

theorem eq_of_written (read : parse? s = some a) (written : Written (Text.trimmed s.toList) host p) :
    host = a.host.toList ∧ p = a.port.toNat := by
  obtain ⟨b, other, rfl, rfl⟩ := exists_of_written written
  rw [read, Option.some.injEq] at other
  rw [other]
  exact ⟨rfl, rfl⟩

theorem parse?_eq_none_iff_unwritten : parse? s = none ↔
    ∀ host p, ¬Written (Text.trimmed s.toList) host p := by
  constructor
  · intro unread host p written
    obtain ⟨a, read, -⟩ := exists_of_written written
    rw [unread] at read
    cases read
  · intro unwritten
    cases read : parse? s with
    | none => rfl
    | some a => exact absurd (parse?_eq_some_iff_written.1 read) (unwritten _ _)

/-- A text is read as an address if and only if, without the blanks around it, it is a written form of it;
every other text is not read. -/
theorem written_forms_exact (s : String) :
    (∀ (host : String) (port : UInt16), parse? s = some ⟨host, port⟩ ↔
      Written (Text.trimmed s.toList) host.toList port.toNat) ∧
    (parse? s = none ↔ ∀ host p, ¬Written (Text.trimmed s.toList) host p) :=
  ⟨fun _ _ => parse?_eq_some_iff_written, parse?_eq_none_iff_unwritten⟩

/-- Signs and leading zeros belong to the port, and all but the last colon of a text without brackets to
the host. -/
example : parse? " ::1:+0080\t" = some ⟨"::1", 80⟩ ∧ parse? "[::1] :80" = none := by
  decide +kernel

end GatewayTunnel.Address
