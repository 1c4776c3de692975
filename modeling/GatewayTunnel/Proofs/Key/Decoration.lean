import GatewayTunnel.Proofs.Key.Entry

namespace GatewayTunnel

namespace Text

structure Word where
  chars : List Char
  filled : chars ≠ [] := by decide
  visible : chars.any isBlank = false := by decide +kernel

structure Gap where
  chars : List Char
  filled : chars ≠ [] := by decide
  blank : chars.all isBlank = true := by decide +kernel

variable {rest : List Char}

theorem Gap.words_append (gap : Gap) (rest : List Char) : words (gap.chars ++ rest) = words rest :=
  words_blank_append (List.all_eq_true.1 gap.blank) rest

theorem Gap.ends_append (gap : Gap) (rest : List Char) : Ends (gap.chars ++ rest) := by
  intro c first
  rw [List.head?_append_of_ne_nil _ gap.filled] at first
  exact List.all_eq_true.1 gap.blank c (List.mem_of_mem_head? first)

theorem Word.words_append (word : Word) (ends : Ends rest) :
    words (word.chars ++ rest) = word.chars :: words rest := by
  have visible : ∀ c ∈ word.chars, isBlank c = false := by simpa using word.visible
  exact words_word_append visible word.filled ends

def ahead (options : List (Word × Gap)) : List Char :=
  options.flatMap fun (word, gap) => word.chars ++ gap.chars

def behind (comment : List (Gap × Word)) : List Char :=
  comment.flatMap fun (gap, word) => gap.chars ++ word.chars

theorem ahead_cons_append (word : Word) (gap : Gap) (options : List (Word × Gap))
    (rest : List Char) : ahead ((word, gap) :: options) ++ rest =
      word.chars ++ (gap.chars ++ (ahead options ++ rest)) := by
  simp [ahead]

theorem behind_cons_append (gap : Gap) (word : Word) (comment : List (Gap × Word))
    (rest : List Char) : behind ((gap, word) :: comment) ++ rest =
      gap.chars ++ (word.chars ++ (behind comment ++ rest)) := by
  simp [behind]

theorem words_ahead_append (options : List (Word × Gap)) (rest : List Char) :
    words (ahead options ++ rest) = (options.map fun option => option.1.chars) ++ words rest := by
  induction options with
  | nil => rfl
  | cons option options ih =>
      obtain ⟨word, gap⟩ := option
      rw [ahead_cons_append, word.words_append (gap.ends_append _), gap.words_append, ih]
      rfl

variable {after : List Char}

theorem ends_of_blank (blank : after.all isBlank = true) : Ends after :=
  fun c first => List.all_eq_true.1 blank c (List.mem_of_mem_head? first)

theorem words_of_blank (blank : after.all isBlank = true) : words after = [] := by
  rw [← List.append_nil after, words_blank_append (List.all_eq_true.1 blank)]
  rfl

theorem ends_behind_append (comment : List (Gap × Word)) (ends : Ends after) :
    Ends (behind comment ++ after) := by
  cases comment with
  | nil => exact ends
  | cons word comment =>
      obtain ⟨gap, word⟩ := word
      rw [behind_cons_append]
      exact gap.ends_append _

theorem words_behind_append (comment : List (Gap × Word)) (ends : Ends after) :
    words (behind comment ++ after) = (comment.map fun word => word.2.chars) ++ words after := by
  induction comment with
  | nil => rfl
  | cons word comment ih =>
      obtain ⟨gap, word⟩ := word
      rw [behind_cons_append, gap.words_append, word.words_append (ends_behind_append comment ends), ih]
      rfl

end Text

namespace AuthorizedKeys

def LooksLikeType (word : List Char) : Prop :=
  ∃ start ∈ ["ssh-", "ecdsa-sha2-", "sk-"], start.toList <+: word

theorem isType_iff {word : List Char} : isType word = true ↔ LooksLikeType word := by
  simp [isType, typeStarts, LooksLikeType]

instance (word : List Char) : Decidable (LooksLikeType word) :=
  decidable_of_iff (isType word = true) isType_iff

structure Decoration where
  before : List Char
  options : List (Text.Word × Text.Gap)
  between : Text.Gap
  comment : List (Text.Gap × Text.Word)
  after : List Char
  before_blank : before.all Text.isBlank = true := by decide +kernel
  plain : ∀ option ∈ options, ¬LooksLikeType option.1.chars := by decide +kernel
  after_blank : after.all Text.isBlank = true := by decide +kernel

variable {type : Text.Word}

namespace Decoration

def line (d : Decoration) (type key : Text.Word) : List Char :=
  d.before ++ (Text.ahead d.options ++
    (type.chars ++ (d.between.chars ++ (key.chars ++ (Text.behind d.comment ++ d.after)))))

theorem words_line (d : Decoration) (type key : Text.Word) : Text.words (d.line type key) =
    (d.options.map fun option => option.1.chars) ++
      type.chars :: key.chars :: d.comment.map fun word => word.2.chars := by
  have finish : Text.Ends d.after := Text.ends_of_blank d.after_blank
  rw [line, Text.words_blank_append (List.all_eq_true.1 d.before_blank), Text.words_ahead_append,
    type.words_append (d.between.ends_append _), d.between.words_append,
    key.words_append (Text.ends_behind_append d.comment finish),
    Text.words_behind_append d.comment finish, Text.words_of_blank d.after_blank, List.append_nil]

theorem ofLine_line (d : Decoration) (key : Text.Word) (typed : LooksLikeType type.chars) :
    ofLine (d.line type key) = readKey type.chars key.chars := by
  have plain : ∀ word ∈ d.options.map fun option => option.1.chars, isType word = false := by
    intro word member
    obtain ⟨option, listed, rfl⟩ := List.mem_map.1 member
    rw [← Bool.not_eq_true, isType_iff]
    exact d.plain option listed
  rw [ofLine, words_line, ofWords_append plain (isType_iff.2 typed)]

def bare : Decoration where
  before := []
  options := []
  between := { chars := [' '] }
  comment := []
  after := []

theorem line_bare (type key : Text.Word) : bare.line type key = type.chars ++ ' ' :: key.chars := by
  simp [line, bare, Text.ahead, Text.behind]

end Decoration

/-- With its options, its comment and its blanks, a line gives the same key or the same error as with the
type and the key alone, and the key is the one that is written in it. -/
theorem decoration_ignored (d : Decoration) (type key : Text.Word)
    (typed : LooksLikeType type.chars) :
    ofLine (d.line type key) = ofLine (type.chars ++ ' ' :: key.chars) ∧
      ∀ k, ofLine (d.line type key) = .ok k ↔
        PublicKey.ofBase64 (String.ofList key.chars) = .ok k ∧
          k.algorithm = String.ofList type.chars := by
  have decorated := d.ofLine_line key typed
  have plain := Decoration.bare.ofLine_line key typed
  rw [Decoration.line_bare] at plain
  refine ⟨decorated.trans plain.symm, fun k => ?_⟩
  rw [decorated, readKey_eq_ok_iff]

/-! ## Misleading decoration -/

def sampleType : Text.Word where
  chars := "ssh-ed25519".toList

def sampleKey : Text.Word where
  chars := "AAAAC3NzaC1lZDI1NTE5AAAAIAEBAQEBAQEBAQEBAQEBAQEBAQEBAQEBAQEBAQEBAQEB".toList

/-- An option with a type in it, a comment that could be an entry, and blanks of many kinds. -/
def misleading : Decoration where
  before := ['\u3000']
  options := [({ chars := "no-pty".toList }, { chars := ['\t', '\u0085'] }),
    ({ chars := "key=ssh-rsa".toList }, { chars := [' '] })]
  between := { chars := ['\u2028', '\u00a0'] }
  comment := [({ chars := [' '] }, { chars := "ssh-rsa".toList }),
    ({ chars := ['\u2003', '\u2003'] }, { chars := "AAAAB3".toList })]
  after := ['\r']

theorem decoration_ignored_misleading : LooksLikeType sampleType.chars ∧
    misleading.line sampleType sampleKey =
      "\u3000no-pty\t\u0085key=ssh-rsa ssh-ed25519\u2028\u00a0".toList ++ sampleKey.chars ++
        " ssh-rsa\u2003\u2003AAAAB3\r".toList ∧
    ofLine (misleading.line sampleType sampleKey) = ofLine ("ssh-ed25519 ".toList ++ sampleKey.chars) ∧
    ofLine (misleading.line sampleType sampleKey) = .ok (.ed25519 (.replicate 32 1)) := by
  have typed : LooksLikeType sampleType.chars := by decide +kernel
  obtain ⟨same, read⟩ := decoration_ignored misleading sampleType sampleKey typed
  exact ⟨typed, by decide +kernel, same, (read _).2 ⟨by decide +kernel, by decide +kernel⟩⟩

end AuthorizedKeys

end GatewayTunnel
