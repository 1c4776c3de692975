import GatewayTunnel.Proofs.Text.Pieces
import GatewayTunnel.Validation

namespace GatewayTunnel.Validation

variable {host cs : List Char} {c : Char} {s : String}

def IsHostName (host : List Char) : Prop :=
  ∃ labels, labels ≠ [] ∧ (∀ label ∈ labels, isLabel label = true) ∧ host = ['.'].intercalate labels

def IsHost (host : List Char) : Prop :=
  IpLiteral.isLiteral host = true ∨ IsHostName host

/-! ## The characters of a host -/

def isHostChar (c : Char) : Bool :=
  c.isAlphanum || c == '-' || c == '.' || c == ':'

theorem isAlphanum_iff : c.isAlphanum = true ↔
    (65 ≤ c.toNat ∧ c.toNat ≤ 90 ∨ 97 ≤ c.toNat ∧ c.toNat ≤ 122) ∨ 48 ≤ c.toNat ∧ c.toNat ≤ 57 := by
  change (decide (65 ≤ c.val ∧ c.val ≤ 90) || (decide (97 ≤ c.val) && decide (c.val ≤ 122)) ||
    (decide (48 ≤ c.val) && decide (c.val ≤ 57))) = true ↔ _
  simp only [Bool.or_eq_true, Bool.and_eq_true, decide_eq_true_eq, UInt32.le_iff_toNat_le]
  rfl

theorem isHostChar_iff : isHostChar c = true ↔
    c.isAlphanum = true ∨ c = '-' ∨ c = '.' ∨ c = ':' := by
  simp only [isHostChar, Bool.or_eq_true, beq_iff_eq, or_assoc]

theorem isVisible_of_isHostChar (h : isHostChar c = true) : Text.isVisible c = true := by
  rcases isHostChar_iff.1 h with alphanumeric | rfl | rfl | rfl
  · rw [isAlphanum_iff] at alphanumeric
    simp only [Text.isVisible, Bool.and_eq_true, decide_eq_true_eq]
    omega
  all_goals decide

theorem isBlank_of_isHostChar (h : isHostChar c = true) : Text.isBlank c = false :=
  Text.isBlank_of_isVisible (isVisible_of_isHostChar h)

theorem isHostChar_of_isLabel (label : isLabel cs = true) :
    ∀ c ∈ cs, isHostChar c = true ∧ c ≠ '.' := by
  intro c member
  simp only [isLabel, Bool.and_eq_true, List.all_eq_true, Bool.or_eq_true, beq_iff_eq] at label
  obtain ⟨⟨⟨-, plain⟩, -⟩, -⟩ := label
  rcases plain c member with alphanumeric | rfl
  · refine ⟨by simp [isHostChar, alphanumeric], ?_⟩
    rintro rfl
    cases alphanumeric
  · decide

theorem isHostChar_of_isDigit (digit : c.isDigit = true) : isHostChar c = true := by
  refine isHostChar_iff.2 (.inl ?_)
  rw [Char.isAlphanum, digit, Bool.or_true]

theorem isHostChar_of_splitWhere {sep : Char} (fits : isHostChar sep = true)
    (pieces : ∀ piece ∈ Text.splitWhere (· == sep) cs, ∀ c ∈ piece, isHostChar c = true) :
    ∀ c ∈ cs, isHostChar c = true := by
  refine Text.forall_of_splitWhere (fun c cut => ?_) pieces
  rw [eq_of_beq cut]
  exact fits

end Validation

namespace IpLiteral

open Validation (isAlphanum_iff isHostChar isHostChar_iff isHostChar_of_isDigit isHostChar_of_splitWhere)

variable {cs before after : List Char}

theorem isHostChar_of_isOctet (octet : isOctet cs = true) : ∀ c ∈ cs, isHostChar c = true := by
  unfold isOctet at octet
  cases cs with
  | nil => nofun
  | cons c cs =>
      cases value : Text.Numeral.value? (c :: cs) with
      | none => simp [value] at octet
      | some n =>
          intro d member
          exact isHostChar_of_isDigit (Text.Numeral.isDigit_of_valueFrom? value d member)

theorem isHostChar_of_isV4 (v4 : isV4 cs = true) : ∀ c ∈ cs, isHostChar c = true := by
  simp only [isV4, Bool.and_eq_true, List.all_eq_true] at v4
  exact isHostChar_of_splitWhere rfl fun piece member => isHostChar_of_isOctet (v4.2 piece member)

theorem isHostChar_of_isGroup (group : isGroup cs = true) : ∀ c ∈ cs, isHostChar c = true := by
  intro c member
  simp only [isGroup, Bool.and_eq_true, List.all_eq_true] at group
  have digit := group.2 c member
  simp only [isHexDigit, Bool.or_eq_true, Bool.and_eq_true, decide_eq_true_eq, Char.le_def,
    UInt32.le_iff_toNat_le] at digit
  rcases digit with (decimal | lower) | upper
  · exact isHostChar_of_isDigit decimal
  all_goals
    refine isHostChar_iff.2 (.inl (isAlphanum_iff.2 (.inl ?_)))
    simp only [Char.toNat]
    grind

theorem isHostChar_of_groupCount? {pieces : List (List Char)} {n : Nat}
    (count : groupCount? pieces = some n) : ∀ piece ∈ pieces, ∀ c ∈ piece, isHostChar c = true := by
  fun_induction groupCount? pieces generalizing n with
  | case1 => nofun
  | case2 last group => simpa using isHostChar_of_isGroup group
  | case3 last _ v4 => simpa using isHostChar_of_isV4 v4
  | case4 => cases count
  | case5 piece rest _ group ih =>
      obtain ⟨m, others, -⟩ := Option.map_eq_some_iff.1 count
      exact List.forall_mem_cons.2 ⟨isHostChar_of_isGroup group, ih others⟩
  | case6 => cases count

theorem isHostChar_of_sideCount? {n : Nat} (count : sideCount? cs = some n) :
    ∀ c ∈ cs, isHostChar c = true := by
  unfold sideCount? at count
  split at count
  · rename_i empty
    rw [List.isEmpty_iff.1 empty]
    nofun
  · exact isHostChar_of_splitWhere rfl (isHostChar_of_groupCount? count)

theorem eq_of_splitCompressed? (cut : splitCompressed? cs = some (before, after)) :
    cs = before ++ ':' :: ':' :: after := by
  fun_induction splitCompressed? cs generalizing before after with
  | case1 rest =>
      obtain ⟨rfl, rfl⟩ := cut
      rfl
  | case2 c rest _ ih =>
      obtain ⟨⟨before', after'⟩, inner, same⟩ := Option.map_eq_some_iff.1 cut
      cases same
      rw [ih inner, List.cons_append]
  | case3 => cases cut

theorem isHostChar_of_isV6 (v6 : isV6 cs = true) : ∀ c ∈ cs, isHostChar c = true := by
  unfold isV6 at v6
  split at v6
  · exact isHostChar_of_sideCount? (eq_of_beq v6)
  · rename_i before after cut
    rw [eq_of_splitCompressed? cut]
    cases front : sideCount? before with
    | none => simp [front] at v6
    | some m =>
        cases back : sideCount? after with
        | none => simp [front, back] at v6
        | some n =>
            have front := isHostChar_of_sideCount? front
            have back := isHostChar_of_sideCount? back
            refine List.forall_mem_append.2 ⟨front, ?_⟩
            exact List.forall_mem_cons.2 ⟨rfl, List.forall_mem_cons.2 ⟨rfl, back⟩⟩

end IpLiteral

namespace Validation

variable {host : List Char} {c : Char} {s : String}

theorem isHostChar_of_isHost (valid : IsHost host) : ∀ c ∈ host, isHostChar c = true := by
  rcases valid with literal | ⟨labels, some, fine, rfl⟩
  · rw [IpLiteral.isLiteral, Bool.or_eq_true] at literal
    rcases literal with v4 | v6
    · exact IpLiteral.isHostChar_of_isV4 v4
    · exact IpLiteral.isHostChar_of_isV6 v6
  · have plain : ∀ label ∈ labels, '.' ∉ label := fun label member dot =>
      (isHostChar_of_isLabel (fine label member) '.' dot).2 rfl
    refine @isHostChar_of_splitWhere _ '.' rfl ?_
    rw [Text.splitWhere_intercalate some plain]
    exact fun label member c inside => (isHostChar_of_isLabel (fine label member) c inside).1

/-! ## The check -/

theorem isHostName_iff : IsHostName host ↔ ∀ label ∈ labels host, isLabel label = true := by
  constructor
  · rintro ⟨labels, some, fine, rfl⟩
    have plain : ∀ label ∈ labels, '.' ∉ label := fun label member dot =>
      (isHostChar_of_isLabel (fine label member) '.' dot).2 rfl
    rwa [Validation.labels, Text.splitWhere_intercalate some plain]
  · exact fun fine =>
      ⟨labels host, Text.splitWhere_ne_nil _ host, fine, (Text.intercalate_splitWhere '.' host).symm⟩

theorem checkHost_eq_ok_iff : checkHost s = .ok () ↔
    Text.trimmed s.toList ≠ [] ∧ (Text.trim s).utf8ByteSize ≤ maxHostBytes ∧
      IsHost (Text.trimmed s.toList) := by
  simp only [checkHost, IsHost, isHostName_iff, Text.trim]
  generalize Text.trimmed s.toList = host
  by_cases empty : host = []
  · simp [empty]
  by_cases long : (String.ofList host).utf8ByteSize > maxHostBytes
  · simp [empty, long, Nat.not_le.2 long]
  rw [if_neg (by simpa using empty), if_neg long]
  have fits := Nat.not_lt.1 long
  by_cases literal : IpLiteral.isLiteral host = true
  · simp [empty, fits, literal]
  rw [if_neg literal]
  cases bad : (labels host).find? fun label => !isLabel label with
  | some label =>
      have found := List.mem_of_find?_eq_some bad
      have refused : isLabel label = false := by simpa using List.find?_some bad
      refine iff_of_false nofun fun ⟨_, _, named⟩ => ?_
      rw [(named.resolve_left literal) label found] at refused
      cases refused
  | none =>
      have fine : ∀ label ∈ labels host, isLabel label = true := by
        simpa using List.find?_eq_none.1 bad
      exact iff_of_true rfl ⟨empty, fits, .inr fine⟩

end Validation

end GatewayTunnel
