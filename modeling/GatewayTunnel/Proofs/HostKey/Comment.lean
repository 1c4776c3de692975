import GatewayTunnel.Proofs.HostKey.Pinning
import GatewayTunnel.Proofs.Text.Pieces

namespace GatewayTunnel.Text

/-! ## One line of a text -/

theorem trimmed_concat {c : Char} (blank : isBlank c = true) (cs : List Char) :
    trimmed (cs ++ [c]) = trimmed cs := by
  unfold trimmed trimStart
  rw [List.dropWhile_append]
  split
  · rename_i empty
    simp [List.isEmpty_iff.1 empty, blank]
  · exact List.rdropWhile_concat_pos isBlank _ _ blank

theorem trimmed_dropReturn (line : List Char) : trimmed (dropReturn line) = trimmed line := by
  unfold dropReturn
  split
  · rename_i last
    obtain ⟨front, rfl⟩ := List.getLast?_eq_some_iff.1 last
    rw [List.dropLast_concat, trimmed_concat rfl]
  · rfl

structure IsLine (before line after : List Char) : Prop where
  starts : before = [] ∨ before.getLast? = some '\n'
  whole : '\n' ∉ line
  ends : after = [] ∨ after.head? = some '\n'

theorem IsLine.exists_pieces {before line after : List Char} (cut : IsLine before line after) :
    ∃ front back, ∀ middle, '\n' ∉ middle →
      splitWhere (· == '\n') (before ++ (middle ++ after)) = front ++ middle :: back := by
  obtain ⟨back, rest⟩ : ∃ back, ∀ middle, '\n' ∉ middle →
      splitWhere (· == '\n') (middle ++ after) = middle :: back := by
    have plain {middle : List Char} (whole : '\n' ∉ middle) : ∀ c ∈ middle, (c == '\n') = false := by
      rintro c member
      rw [beq_eq_false_iff_ne]
      rintro rfl
      exact whole member
    rcases cut.ends with rfl | first
    · refine ⟨[], fun middle whole => ?_⟩
      rw [List.append_nil, splitWhere_eq_singleton (plain whole)]
    · obtain ⟨after, rfl⟩ := List.head?_eq_some_iff.1 first
      exact ⟨_, fun middle whole => splitWhere_append_cons (plain whole) rfl⟩
  rcases cut.starts with rfl | last
  · exact ⟨[], back, rest⟩
  · obtain ⟨before, rfl⟩ := List.getLast?_eq_some_iff.1 last
    refine ⟨splitWhere (· == '\n') before, back, fun middle whole => ?_⟩
    rw [List.append_assoc, List.singleton_append, splitWhere_append rfl, rest middle whole]

end GatewayTunnel.Text

namespace GatewayTunnel.HostKeyVerifier

open AuthorizedKeys (IsEntry isFilled isFilled_iff ofLine ofLine_eq_ok_iff ofLine_trimmed)
open Text (IsLine)

variable {before line after : List Char} {v v' : HostKeyVerifier} {k : PublicKey}

def entries (lines : List (List Char)) : List (Except EntryError PublicKey) :=
  (lines.filter isFilled).map ofLine

theorem entries_append (lines lines' : List (List Char)) :
    entries (lines ++ lines') = entries lines ++ entries lines' := by
  rw [entries, List.filter_append, List.map_append]
  rfl

theorem entries_cons (line : List Char) (rest : List (List Char)) :
    entries (line :: rest) = if isFilled line then ofLine line :: entries rest else entries rest := by
  unfold entries
  by_cases filled : isFilled line <;> simp [filled]

theorem entries_dropReturn (line : List Char) (rest : List (List Char)) :
    entries (Text.dropReturn line :: rest) = entries (line :: rest) := by
  have filled : isFilled (Text.dropReturn line) = isFilled line := by
    simp only [isFilled, Text.trimmed_dropReturn]
  have read : ofLine (Text.dropReturn line) = ofLine line := by
    rw [← ofLine_trimmed, Text.trimmed_dropReturn, ofLine_trimmed]
  rw [entries_cons, entries_cons, filled, read]

theorem entries_endLines (pieces : List (List Char)) :
    entries (Text.endLines pieces) = entries pieces := by
  fun_induction Text.endLines pieces with
  | case1 => rfl
  | case2 last empty =>
      rw [List.isEmpty_iff.1 empty]
      rfl
  | case3 => rfl
  | case4 line rest _ ih => rw [entries_dropReturn, entries_cons, entries_cons, ih]

theorem map_filledLines (text : String) :
    (filledLines text).map ofLine = entries (Text.splitWhere (· == '\n') text.toList) :=
  entries_endLines _

theorem exists_entries (cut : IsLine before line after) (filled : Text.trimmed line ≠ []) :
    ∃ front back,
      (filledLines (String.ofList (before ++ (line ++ after)))).map ofLine =
        front ++ ofLine line :: back ∧
      (filledLines (String.ofList (before ++ after))).map ofLine = front ++ back := by
  obtain ⟨front, back, pieces⟩ := cut.exists_pieces
  refine ⟨entries front, entries back, ?_, ?_⟩
  · rw [map_filledLines, String.toList_ofList, pieces line cut.whole, entries_append, entries_cons,
      if_pos (isFilled_iff.2 filled)]
  · have without := pieces [] List.not_mem_nil
    rw [List.nil_append] at without
    rw [map_filledLines, String.toList_ofList, without, entries_append]
    rfl

theorem exists_entry_of_ok (cut : IsLine before line after) (filled : Text.trimmed line ≠ [])
    (ok : ofAuthorizedKeys (String.ofList (before ++ (line ++ after))) = .ok v) :
    ∃ k front back, IsEntry line k ∧ v.allowed = front ++ k :: back ∧
      ofAuthorizedKeys (String.ofList (before ++ after)) = .ok ⟨front ++ back⟩ := by
  obtain ⟨front, back, whole, without⟩ := exists_entries cut filled
  have read := ofAuthorizedKeys_eq_ok_iff.1 ok
  rw [whole] at read
  obtain ⟨keys, rest, allowed, rfl, tail⟩ := List.map_eq_append_iff.1 read.symm
  obtain ⟨k, keys', rfl, entry, rfl⟩ := List.map_eq_cons_iff.1 tail
  refine ⟨k, keys, keys', ofLine_eq_ok_iff.1 entry.symm, allowed, ?_⟩
  rw [ofAuthorizedKeys_eq_ok_iff, without, List.map_append]

theorem ok_of_isEntry (cut : IsLine before line after) (entry : IsEntry line k)
    (ok : ofAuthorizedKeys (String.ofList (before ++ after)) = .ok v) :
    ∃ v, ofAuthorizedKeys (String.ofList (before ++ (line ++ after))) = .ok v := by
  obtain ⟨front, back, whole, without⟩ :=
    exists_entries cut (isFilled_iff.1 (isFilled_of_isEntry entry))
  have read := ofAuthorizedKeys_eq_ok_iff.1 ok
  rw [without] at read
  obtain ⟨keys, rest, -, rfl, rfl⟩ := List.map_eq_append_iff.1 read.symm
  refine ⟨⟨keys ++ k :: rest⟩, ?_⟩
  rw [ofAuthorizedKeys_eq_ok_iff, whole, ofLine_eq_ok_iff.2 entry]
  simp

/-- The first visible character of the line is `#`. -/
def IsComment (line : List Char) : Prop :=
  (Text.trimmed line).head? = some '#'

instance (line : List Char) : Decidable (IsComment line) :=
  inferInstanceAs (Decidable ((Text.trimmed line).head? = some '#'))

/-- A list with a comment line can be read if the line is an entry in spite of its sign, and the list can
be read without it. The line then adds the key of this entry, which is trusted, and only if another line
has that key too are the keys those of the list without the line. -/
theorem comment_counts_as_entry (cut : IsLine before line after) (comment : IsComment line) :
    ((∃ v, ofAuthorizedKeys (String.ofList (before ++ (line ++ after))) = .ok v) ↔
      (∃ k, IsEntry line k) ∧ ∃ v, ofAuthorizedKeys (String.ofList (before ++ after)) = .ok v) ∧
    ∀ v v', ofAuthorizedKeys (String.ofList (before ++ (line ++ after))) = .ok v →
      ofAuthorizedKeys (String.ofList (before ++ after)) = .ok v' →
      ∃ k front back, IsEntry line k ∧ v.allowed = front ++ k :: back ∧ v'.allowed = front ++ back ∧
        (∀ gateway, v.verify gateway k = ⟨.ok (), []⟩) ∧
        ((∀ key, v.allows key = v'.allows key) ↔ v'.allows k = true) := by
  have filled : Text.trimmed line ≠ [] := by
    intro blank
    rw [IsComment, blank] at comment
    cases comment
  refine ⟨⟨fun ⟨v, ok⟩ => ?_, fun ⟨⟨k, entry⟩, v, ok⟩ => ok_of_isEntry cut entry ok⟩,
    fun v v' ok without => ?_⟩
  · obtain ⟨k, front, back, entry, -, without⟩ := exists_entry_of_ok cut filled ok
    exact ⟨⟨k, entry⟩, _, without⟩
  · obtain ⟨k, front, back, entry, allowed, without'⟩ := exists_entry_of_ok cut filled ok
    obtain rfl := Except.ok.inj (without'.symm.trans without)
    have added : ∀ key, v.allows key = true ↔
        k.encode = key.encode ∨ allows ⟨front ++ back⟩ key = true := by
      intro key
      simp only [allows_iff, allowed, List.mem_append, List.mem_cons]
      grind
    refine ⟨k, front, back, entry, allowed, rfl, fun gateway => ?_, ?_⟩
    · have some : v.isPinned = true := isPinned_iff.2 (by simp [allowed])
      simp [verify, some, (added k).2 (.inl rfl)]
    · constructor
      · intro same
        rw [← same, added]
        exact .inl rfl
      · intro listed key
        rw [Bool.eq_iff_iff, added, or_iff_right_of_imp]
        intro equal
        obtain ⟨k', member, same⟩ := allows_iff.1 listed
        exact allows_iff.2 ⟨k', member, same.trans equal⟩

/-! ## A key behind the sign -/

def commented : List Char :=
  "\t# ssh-ed25519 AAAAC3NzaC1lZDI1NTE5AAAAIAEBAQEBAQEBAQEBAQEBAQEBAQEBAQEBAQEBAQEBAQEB old\r".toList

def others : List Char :=
  "\nssh-ed25519 AAAAC3NzaC1lZDI1NTE5AAAAIAICAgICAgICAgICAgICAgICAgICAgICAgICAgICAgIC".toList

def keyOf (n : UInt8) : PublicKey := .ed25519 (.replicate 32 n)

theorem isLine_commented : IsLine [] commented others :=
  ⟨.inl rfl, by decide +kernel, .inr rfl⟩

theorem isComment_commented : IsComment commented := by decide +kernel

theorem ofAuthorizedKeys_commented :
    ofAuthorizedKeys (String.ofList (commented ++ others)) = .ok ⟨[keyOf 1, keyOf 2]⟩ := by
  rw [ofAuthorizedKeys_eq_ok_iff, map_filledLines, String.toList_ofList]
  decide +kernel

theorem ofAuthorizedKeys_others :
    ofAuthorizedKeys (String.ofList others) = .ok ⟨[keyOf 2]⟩ := by
  rw [ofAuthorizedKeys_eq_ok_iff, map_filledLines, String.toList_ofList]
  decide +kernel

theorem comment_counts_as_entry_first :
    IsLine [] commented others ∧ IsComment commented ∧ ∃ k front back, IsEntry commented k ∧
      [keyOf 1, keyOf 2] = front ++ k :: back ∧ [keyOf 2] = front ++ back ∧
      ∀ gateway, (HostKeyVerifier.mk [keyOf 1, keyOf 2]).verify gateway k = ⟨.ok (), []⟩ := by
  obtain ⟨k, front, back, entry, allowed, left, trusted, -⟩ :=
    (comment_counts_as_entry isLine_commented isComment_commented).2 _ _
      ofAuthorizedKeys_commented ofAuthorizedKeys_others
  exact ⟨isLine_commented, isComment_commented, k, front, back, entry, allowed, left, trusted⟩

/-- The key behind the sign is trusted, and without the line it is not. -/
theorem commented_key_trusted : IsLine [] commented others ∧ IsComment commented ∧
    ofAuthorizedKeys (String.ofList (commented ++ others)) = .ok ⟨[keyOf 1, keyOf 2]⟩ ∧
    ofAuthorizedKeys (String.ofList others) = .ok ⟨[keyOf 2]⟩ ∧
    allows ⟨[keyOf 1, keyOf 2]⟩ (keyOf 1) = true ∧ allows ⟨[keyOf 2]⟩ (keyOf 1) = false :=
  ⟨isLine_commented, isComment_commented, ofAuthorizedKeys_commented, ofAuthorizedKeys_others,
    by decide +kernel, by decide +kernel⟩

end GatewayTunnel.HostKeyVerifier
