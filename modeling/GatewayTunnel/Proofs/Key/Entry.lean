import GatewayTunnel.Key.Authorized
import GatewayTunnel.Proofs.Text.Words

namespace GatewayTunnel.AuthorizedKeys

variable {line type data : List Char} {words : List (List Char)} {k : PublicKey}

/-- The line is an entry for the key: after options, none of which looks like a type, come the type of
the key and the key in base64. The words after these do not count. -/
def IsEntry (line : List Char) (k : PublicKey) : Prop :=
  ∃ options type data comment, Text.words line = options ++ type :: data :: comment ∧
    (∀ word ∈ options, isType word = false) ∧ isType type = true ∧
    PublicKey.ofBase64 (String.ofList data) = .ok k ∧ k.algorithm = String.ofList type

theorem readKey_eq_ok_iff : readKey type data = .ok k ↔
    PublicKey.ofBase64 (String.ofList data) = .ok k ∧ k.algorithm = String.ofList type := by
  unfold readKey
  cases read : PublicKey.ofBase64 (String.ofList data) with
  | error e => simp [Except.mapError, bind, Except.bind]
  | ok k' =>
      by_cases same : k'.algorithm = String.ofList type
      · simp only [Except.mapError, bind, Except.bind, if_pos same, pure, Except.pure,
          Except.ok.injEq, iff_self_and]
        rintro rfl
        exact same
      · simp only [Except.mapError, bind, Except.bind, if_neg same, throw, throwThe,
          MonadExceptOf.throw, reduceCtorEq, Except.ok.injEq, false_iff, not_and]
        rintro rfl
        exact same

theorem ofWords_append {options comment : List (List Char)}
    (plain : ∀ word ∈ options, isType word = false) (typed : isType type = true) :
    ofWords (options ++ type :: data :: comment) = readKey type data := by
  have skipped : (options ++ type :: data :: comment).dropWhile (fun word => !isType word) =
      type :: data :: comment := by
    rw [List.dropWhile_append_of_pos (by simpa using plain)]
    simp [typed]
  simp only [ofWords, skipped]

theorem ofWords_eq_ok_iff : ofWords words = .ok k ↔ ∃ options type data comment,
    words = options ++ type :: data :: comment ∧ (∀ word ∈ options, isType word = false) ∧
      isType type = true ∧ readKey type data = .ok k := by
  constructor
  · intro read
    unfold ofWords at read
    split at read
    · cases read
    · cases read
    · rename_i type data comment rest
      refine ⟨words.takeWhile fun word => !isType word, type, data, comment, ?_, ?_, ?_, read⟩
      · rw [← rest, List.takeWhile_append_dropWhile]
      · intro word mem
        simpa using List.mem_takeWhile_imp mem
      · have filled : words.dropWhile (fun word => !isType word) ≠ [] := by simp [rest]
        simpa [rest] using List.head_dropWhile_not _ filled
  · rintro ⟨options, type, data, comment, rfl, plain, typed, read⟩
    rw [ofWords_append plain typed, read]

theorem ofLine_eq_ok_iff : ofLine line = .ok k ↔ IsEntry line k := by
  simp only [ofLine, ofWords_eq_ok_iff, readKey_eq_ok_iff, IsEntry]

theorem ofLine_trimmed (line : List Char) : ofLine (Text.trimmed line) = ofLine line := by
  simp only [ofLine, Text.words_trimmed]

def isFilled (line : List Char) : Bool :=
  Text.trimmed line ≠ []

theorem isFilled_iff : isFilled line = true ↔ Text.trimmed line ≠ [] := by
  simp [isFilled]

/-- Every line that is not blank is an entry for one of the keys, in order, or the first one that is
none is named. -/
theorem ofLines_cases (number : Nat) (lines : List (List Char)) :
    (∃ before line after e, lines = before ++ line :: after ∧
      (∀ l ∈ before, Text.trimmed l = [] ∨ ∃ k, IsEntry l k) ∧ Text.trimmed line ≠ [] ∧
      ofLine line = .error e ∧
      ofLines number lines = .error (.invalidPublicKey (number + before.length) e.message)) ∨
    ∃ keys, ofLines number lines = .ok keys ∧
      (lines.filter isFilled).map ofLine = keys.map .ok := by
  induction lines generalizing number with
  | nil => exact .inr ⟨[], rfl, rfl⟩
  | cons l rest ih =>
      by_cases blank : Text.trimmed l = []
      · have skipped : ofLines number (l :: rest) = ofLines (number + 1) rest := by
          simp [ofLines, Text.trimmed_eq_nil_iff.1 blank]
        rw [skipped]
        rcases ih (number + 1) with ⟨before, line, after, e, rfl, fine, bad, why, failed⟩ |
          ⟨keys, ok, entries⟩
        · refine .inl ⟨l :: before, line, after, e, rfl,
            List.forall_mem_cons.2 ⟨.inl blank, fine⟩, bad, why, ?_⟩
          rw [failed, List.length_cons, Nat.add_assoc, Nat.add_comm 1]
        · exact .inr ⟨keys, ok, by rwa [List.filter_cons_of_neg (by simp [isFilled, blank])]⟩
      · have visible : l.all Text.isBlank = false := by
          simpa using mt Text.trimmed_eq_nil_iff.2 blank
        cases read : ofLine l with
        | error e =>
            refine .inl ⟨[], l, rest, e, rfl, nofun, blank, read, ?_⟩
            simp [ofLines, visible, ofLine_trimmed, read]
        | ok k =>
            have next : ofLines number (l :: rest) =
                (ofLines (number + 1) rest).map (k :: ·) := by
              simp [ofLines, visible, ofLine_trimmed, read]
            rw [next]
            rcases ih (number + 1) with ⟨before, line, after, e, rfl, fine, bad, why, failed⟩ |
              ⟨keys, ok, entries⟩
            · refine .inl ⟨l :: before, line, after, e, rfl,
                List.forall_mem_cons.2 ⟨.inr ⟨k, ofLine_eq_ok_iff.1 read⟩, fine⟩, bad, why, ?_⟩
              rw [failed, List.length_cons, Nat.add_assoc, Nat.add_comm 1]
              rfl
            · refine .inr ⟨k :: keys, by rw [ok]; rfl, ?_⟩
              rw [List.filter_cons_of_pos (by simpa [isFilled] using blank), List.map_cons, read,
                entries, List.map_cons]

end GatewayTunnel.AuthorizedKeys
