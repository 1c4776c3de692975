import GatewayTunnel.Proofs.Text.Numerals
import GatewayTunnel.Proofs.Validation.Host

namespace GatewayTunnel.IpLiteral

variable {cs before after v4 : List Char} {pieces groups : List (List Char)} {n : Nat}

def IsOctet (cs : List Char) : Prop :=
  ∃ n ≤ 255, cs = Text.Numeral.digits n

def IsV4 (cs : List Char) : Prop :=
  Text.Joined '.' IsOctet 4 cs

def IsGroup (cs : List Char) : Prop :=
  1 ≤ cs.length ∧ cs.length ≤ 4 ∧
    ∀ c ∈ cs, c.isDigit = true ∨ ('a' ≤ c ∧ c ≤ 'f') ∨ ('A' ≤ c ∧ c ≤ 'F')

def AreGroups (n : Nat) (cs : List Char) : Prop :=
  Text.Joined ':' IsGroup n cs

def AreLastGroups (n : Nat) (cs : List Char) : Prop :=
  AreGroups n cs ∨ ∃ groups v4, groups.length + 2 = n ∧ (∀ group ∈ groups, IsGroup group) ∧ IsV4 v4 ∧
    cs = [':'].intercalate (groups ++ [v4])

/-- Eight groups, or at most seven around `::`. -/
def IsV6 (cs : List Char) : Prop :=
  AreLastGroups 8 cs ∨ ∃ m n before after, m + n ≤ 7 ∧ AreGroups m before ∧ AreLastGroups n after ∧
    cs = before ++ ':' :: ':' :: after

/-! ## v4 literals -/

theorem isOctet_iff : isOctet cs = true ↔ IsOctet cs := by
  simp only [isOctet, Bool.and_eq_true, Bool.or_eq_true, decide_eq_true_eq, beq_iff_eq, bne_iff_ne]
  constructor
  · rintro ⟨⟨-, first⟩, bounded⟩
    cases value : Text.Numeral.value? cs with
    | none => simp [value] at bounded
    | some n =>
        rw [value, decide_eq_true_eq] at bounded
        obtain ⟨filled, digits, rfl⟩ := Text.Numeral.value?_eq_some_iff.1 value
        exact ⟨_, bounded, (Text.Numeral.digits_valueOf filled digits first).symm⟩
  · rintro ⟨n, bounded, rfl⟩
    have short : (Text.Numeral.digits n).length ≤ 3 :=
      Text.Numeral.length_digits_le (by decide) (Nat.lt_of_le_of_lt bounded (by decide))
    refine ⟨⟨short, ?_⟩, by simpa [Text.Numeral.value?_digits] using bounded⟩
    rcases Nat.eq_zero_or_pos n with rfl | positive
    · exact .inl (by simp [Text.Numeral.digits])
    · exact .inr (Text.Numeral.head?_digits positive)

theorem not_mem_of_isOctet {c : Char} (other : c.isDigit = false) (octet : IsOctet cs) : c ∉ cs := by
  obtain ⟨n, -, rfl⟩ := octet
  intro member
  rw [Text.Numeral.isDigit_of_mem_digits member] at other
  cases other

theorem isV4_iff : isV4 cs = true ↔ IsV4 cs := by
  have plain : ∀ piece, IsOctet piece → '.' ∉ piece := fun _ => not_mem_of_isOctet rfl
  rw [IsV4, Text.joined_iff plain (by decide), isV4, Bool.and_eq_true, beq_iff_eq, List.all_eq_true]
  simp only [isOctet_iff]

theorem dot_mem_of_isV4 (v4 : IsV4 cs) : '.' ∈ cs := by
  obtain ⟨pieces, four, -, rfl⟩ := v4
  match pieces, four with
  | [a, b, c, d], _ => simp [List.intercalate]

theorem colon_not_mem_of_isV4 (v4 : IsV4 cs) : ':' ∉ cs := by
  obtain ⟨pieces, four, octets, rfl⟩ := v4
  match pieces, four with
  | [a, b, c, d], _ =>
    have plain : ∀ piece ∈ [a, b, c, d], ':' ∉ piece := fun piece member =>
      not_mem_of_isOctet rfl (octets piece member)
    simpa [List.intercalate] using plain

/-! ## Groups -/

theorem isGroup_iff : isGroup cs = true ↔ IsGroup cs := by
  simp only [isGroup, IsGroup, isHexDigit, Bool.and_eq_true, Bool.or_eq_true, decide_eq_true_eq,
    List.all_eq_true, and_assoc, or_assoc]

theorem not_mem_of_isGroup {c : Char} (other : isHexDigit c = false) (group : IsGroup cs) : c ∉ cs := by
  intro member
  have fits := (isGroup_iff.2 group)
  simp only [isGroup, Bool.and_eq_true, List.all_eq_true] at fits
  rw [fits.2 c member] at other
  cases other

theorem ne_nil_of_isGroup (group : IsGroup cs) : cs ≠ [] := by
  rintro rfl
  exact absurd group.1 (by decide)

theorem groupCount?_cons {piece : List Char} (group : IsGroup piece) (pieces : List (List Char)) :
    groupCount? (piece :: pieces) = (groupCount? pieces).map (· + 1) := by
  cases pieces <;> simp [groupCount?, isGroup_iff.2 group]

theorem groupCount?_append (fine : ∀ group ∈ groups, IsGroup group) (pieces : List (List Char)) :
    groupCount? (groups ++ pieces) = (groupCount? pieces).map (· + groups.length) := by
  induction groups with
  | nil => simp
  | cons group groups ih =>
      obtain ⟨first, others⟩ := List.forall_mem_cons.1 fine
      rw [List.cons_append, groupCount?_cons first, ih others, Option.map_map]
      rfl

theorem groupCount?_v4 (v4 : IsV4 cs) : groupCount? [cs] = some 2 := by
  have other : ¬isGroup cs = true := fun group =>
    not_mem_of_isGroup rfl (isGroup_iff.1 group) (dot_mem_of_isV4 v4)
  rw [groupCount?, if_neg other, if_pos (isV4_iff.2 v4)]

theorem groupCount?_eq_some_iff : groupCount? pieces = some n ↔
    (pieces.length = n ∧ ∀ piece ∈ pieces, IsGroup piece) ∨
    ∃ groups v4, groups.length + 2 = n ∧ (∀ group ∈ groups, IsGroup group) ∧ IsV4 v4 ∧
      pieces = groups ++ [v4] := by
  constructor
  · intro count
    -- The reader counts from the left; a v4 literal can only be what it has last.
    fun_induction groupCount? pieces generalizing n with
    | case1 =>
        cases count
        exact .inl ⟨rfl, List.forall_mem_nil _⟩
    | case2 last group =>
        cases count
        exact .inl ⟨rfl, by simpa using isGroup_iff.1 group⟩
    | case3 last _ v4 =>
        cases count
        exact .inr ⟨[], last, rfl, List.forall_mem_nil _, isV4_iff.1 v4, rfl⟩
    | case4 => cases count
    | case5 piece rest _ group ih =>
        obtain ⟨m, others, rfl⟩ := Option.map_eq_some_iff.1 count
        have first := isGroup_iff.1 group
        rcases ih others with ⟨rfl, fine⟩ | ⟨groups, v4, rfl, fine, last, rfl⟩
        · exact .inl ⟨rfl, List.forall_mem_cons.2 ⟨first, fine⟩⟩
        · exact .inr ⟨piece :: groups, v4, Nat.add_right_comm .., List.forall_mem_cons.2 ⟨first, fine⟩,
            last, rfl⟩
    | case6 => cases count
  · rintro (⟨rfl, fine⟩ | ⟨groups, v4, rfl, fine, last, rfl⟩)
    · have count := groupCount?_append fine []
      rw [List.append_nil] at count
      rw [count, groupCount?, Option.map_some, Nat.zero_add]
    · rw [groupCount?_append fine, groupCount?_v4 last, Option.map_some, Nat.add_comm]

theorem areGroups_iff : AreGroups n cs ↔ (n = 0 ∧ cs = []) ∨
    (Text.splitWhere (· == ':') cs).length = n ∧ ∀ piece ∈ Text.splitWhere (· == ':') cs, IsGroup piece := by
  have some : (Text.splitWhere (· == ':') cs).length ≠ 0 := fun none =>
    Text.splitWhere_ne_nil _ cs (List.length_eq_zero_iff.1 none)
  rcases Nat.eq_zero_or_pos n with rfl | positive
  · simp [AreGroups, Text.joined_zero_iff, some]
  · rw [AreGroups, Text.joined_iff (fun _ => not_mem_of_isGroup rfl) positive.ne', or_iff_right]
    exact fun none => positive.ne' none.1

theorem areLastGroups_iff : AreLastGroups n cs ↔ (n = 0 ∧ cs = []) ∨
    groupCount? (Text.splitWhere (· == ':') cs) = some n := by
  rw [groupCount?_eq_some_iff, ← or_assoc, ← areGroups_iff, AreLastGroups]
  refine or_congr_right (exists₂_congr fun groups v4 => ?_)
  refine and_congr_right fun _ => and_congr_right fun fine => and_congr_right fun last => ?_
  rw [Text.splitWhere_eq_iff, and_iff_right (by simp), and_iff_right]
  intro piece member
  rcases List.mem_append.1 member with group | equal
  · exact not_mem_of_isGroup rfl (fine piece group)
  · rw [List.mem_singleton.1 equal]
    exact colon_not_mem_of_isV4 last

theorem sideCount?_eq_some_iff : sideCount? cs = some n ↔ AreLastGroups n cs := by
  rw [areLastGroups_iff, sideCount?]
  cases cs with
  | nil => simp [Text.splitWhere, groupCount?, isGroup, isV4, eq_comm]
  | cons c cs => simp

theorem areGroups_iff_last : AreGroups n cs ↔ AreLastGroups n cs ∧ '.' ∉ cs := by
  constructor
  · intro groups
    refine ⟨.inl groups, fun dot => ?_⟩
    rcases areGroups_iff.1 groups with ⟨-, rfl⟩ | ⟨-, fine⟩
    · cases dot
    · have dotless : ∀ c ∈ cs, c ≠ '.' := by
        refine @Text.forall_of_splitWhere _ (· == ':') cs (· ≠ '.') (fun c cut => ?_) ?_
        · rw [eq_of_beq cut]
          decide
        · rintro piece member c inside rfl
          exact not_mem_of_isGroup rfl (fine piece member) inside
      exact dotless '.' dot rfl
  · rintro ⟨groups | ⟨groups, v4, -, -, last, rfl⟩, dotless⟩
    · exact groups
    · exact absurd (Text.mem_intercalate (List.mem_append_right _ List.mem_cons_self)
        (dot_mem_of_isV4 last)) dotless

/-! ## v6 literals -/

theorem nil_mem_splitWhere (cs ds : List Char) :
    [] ∈ Text.splitWhere (· == ':') (cs ++ ':' :: ':' :: ds) := by
  rw [Text.splitWhere_append rfl, Text.splitWhere]
  simp

theorem nil_not_mem_of_groups (groups : AreLastGroups n cs) (filled : cs ≠ []) :
    [] ∉ Text.splitWhere (· == ':') cs := by
  have count := (areLastGroups_iff.1 groups).resolve_left fun none => filled none.2
  intro member
  rcases groupCount?_eq_some_iff.1 count with ⟨-, fine⟩ | ⟨groups, v4, -, fine, last, whole⟩
  · exact ne_nil_of_isGroup (fine [] member) rfl
  · rw [whole] at member
    rcases List.mem_append.1 member with group | equal
    · exact ne_nil_of_isGroup (fine [] group) rfl
    · rw [← List.mem_singleton.1 equal] at last
      exact absurd (dot_mem_of_isV4 last) List.not_mem_nil

theorem splitCompressed?_eq_none (single : ∀ xs ys, cs ≠ xs ++ ':' :: ':' :: ys) :
    splitCompressed? cs = none := by
  cases cut : splitCompressed? cs with
  | none => rfl
  | some sides => exact absurd (eq_of_splitCompressed? cut) (single _ _)

theorem splitCompressed?_of_groups (groups : AreLastGroups n cs) : splitCompressed? cs = none := by
  refine splitCompressed?_eq_none fun xs ys double => ?_
  refine nil_not_mem_of_groups groups (fun empty => ?_) (double ▸ nil_mem_splitWhere xs ys)
  rw [empty] at double
  simp at double

theorem splitCompressed?_concat (groups : AreLastGroups n cs) : splitCompressed? (cs ++ [':']) = none := by
  rcases eq_or_ne cs [] with rfl | filled
  · rfl
  have pieces := nil_not_mem_of_groups groups filled
  refine splitCompressed?_eq_none fun xs ys double => ?_
  rcases List.eq_nil_or_concat ys with rfl | ⟨ys, c, rfl⟩
  · have longer : cs ++ [':'] = (xs ++ [':']) ++ [':'] := by simpa using double
    have same : cs = xs ++ [':'] := List.append_cancel_right longer
    rw [same, Text.splitWhere_concat rfl] at pieces
    exact pieces (List.mem_append_right _ List.mem_cons_self)
  · have split : cs ++ [':'] = (xs ++ ':' :: ':' :: ys) ++ [c] := by simpa using double
    rw [(List.append_inj' split rfl).1] at pieces
    exact pieces (nil_mem_splitWhere xs ys)

theorem splitCompressed?_append (single : splitCompressed? (before ++ [':']) = none) (after : List Char) :
    splitCompressed? (before ++ ':' :: ':' :: after) = some (before, after) := by
  induction before with
  | nil => rfl
  | cons c before ih =>
      have next : ∀ xs rest, c = ':' → before ++ ':' :: xs ≠ ':' :: rest := by
        rintro xs rest rfl more
        have first : (before ++ [':']).head? = some ':' := by
          cases before with
          | nil => rfl
          | cons d before => simpa using congrArg List.head? more
        obtain ⟨rest', start⟩ := List.head?_eq_some_iff.1 first
        rw [List.cons_append, start] at single
        cases single
      rw [List.cons_append, splitCompressed?.eq_2 _ _ (next [])] at single
      rw [List.cons_append, splitCompressed?.eq_2 _ _ (next _), ih (Option.map_eq_none_iff.1 single)]
      rfl

theorem isV6_iff : isV6 cs = true ↔ IsV6 cs := by
  unfold isV6
  cases cut : splitCompressed? cs with
  | none =>
      simp only [beq_iff_eq, sideCount?_eq_some_iff, IsV6]
      refine (or_iff_left ?_).symm
      rintro ⟨m, n, before, after, -, front, -, rfl⟩
      rw [splitCompressed?_append (splitCompressed?_concat (areGroups_iff_last.1 front).1)] at cut
      cases cut
  | some sides =>
      obtain ⟨before, after⟩ := sides
      constructor
      · intro v6
        simp only [Bool.and_eq_true, Bool.not_eq_true', List.contains_eq_mem, decide_eq_false_iff_not] at v6
        obtain ⟨dotless, few⟩ := v6
        split at few
        · rename_i m n front back
          rw [sideCount?_eq_some_iff] at front back
          exact .inr ⟨m, n, before, after, of_decide_eq_true few, areGroups_iff_last.2 ⟨front, dotless⟩,
            back, eq_of_splitCompressed? cut⟩
        · cases few
      -- Groups before a double colon have none of their own, so the grammar's is the one that was cut at.
      · rintro (eight | ⟨m, n, before', after', few, front, back, rfl⟩)
        · rw [splitCompressed?_of_groups eight] at cut
          cases cut
        · obtain ⟨front, dotless⟩ := areGroups_iff_last.1 front
          rw [splitCompressed?_append (splitCompressed?_concat front)] at cut
          cases cut
          simp [dotless, sideCount?_eq_some_iff.2 front, sideCount?_eq_some_iff.2 back, few]

theorem isLiteral_iff : isLiteral cs = true ↔ IsV4 cs ∨ IsV6 cs := by
  rw [isLiteral, Bool.or_eq_true, isV4_iff, isV6_iff]

end GatewayTunnel.IpLiteral
