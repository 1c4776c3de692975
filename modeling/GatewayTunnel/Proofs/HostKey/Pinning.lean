import GatewayTunnel.HostKey
import GatewayTunnel.Proofs.Key.Entry

namespace GatewayTunnel.HostKeyVerifier

open AuthorizedKeys (IsEntry isFilled isFilled_iff ofLine ofLine_eq_ok_iff ofLines_cases)

variable {v : HostKeyVerifier} {lines : List (List Char)} {text : String} {key : PublicKey}
  {gateway : String}

def filledLines (text : String) : List (List Char) :=
  (Text.lines text.toList).filter isFilled

/-- Some line is an entry for a key with the canonical form of the given one. -/
def Listed (text : String) (key : PublicKey) : Prop :=
  ∃ line ∈ Text.lines text.toList, ∃ k, IsEntry line k ∧ k.encode = key.encode

theorem isPinned_iff : v.isPinned = true ↔ v.allowed ≠ [] := by
  simp [isPinned]

theorem allows_iff : v.allows key = true ↔ ∃ k ∈ v.allowed, k.encode = key.encode := by
  simp [allows]

theorem verify_cases (v : HostKeyVerifier) (gateway : String) (key : PublicKey) :
    (v.allowed = [] ∧ v.verify gateway key = ⟨.ok (), [.presented gateway (.ofKey key)]⟩) ∨
    (v.allowed ≠ [] ∧ v.allows key = true ∧ v.verify gateway key = ⟨.ok (), []⟩) ∨
    (v.allowed ≠ [] ∧ v.allows key = false ∧
      v.verify gateway key = ⟨.error (mismatch key), [.rejected gateway (.ofKey key)]⟩) := by
  unfold verify
  split
  · rename_i unpinned
    exact .inl ⟨by simpa [isPinned] using unpinned, rfl⟩
  · rename_i pinned
    have some : v.allowed ≠ [] := by simpa [isPinned] using pinned
    split
    · rename_i allowed
      exact .inr (.inl ⟨some, allowed, rfl⟩)
    · rename_i refused
      exact .inr (.inr ⟨some, by simpa using refused, rfl⟩)

theorem isFilled_of_isEntry {line : List Char} {k : PublicKey} (entry : IsEntry line k) :
    isFilled line = true := by
  obtain ⟨options, type, data, comment, words, -⟩ := entry
  have filled : Text.trimmed line ≠ [] := by
    intro blank
    rw [← Text.words_trimmed, blank] at words
    simp [Text.words, Text.splitWhere] at words
  simpa [isFilled] using filled

theorem blank_or_entry {keys : List PublicKey} {line : List Char}
    (read : (filledLines text).map ofLine = keys.map .ok) (mem : line ∈ Text.lines text.toList) :
    Text.trimmed line = [] ∨ ∃ k, IsEntry line k := by
  by_cases blank : Text.trimmed line = []
  · exact .inl blank
  · have kept : ofLine line ∈ (filledLines text).map ofLine :=
      List.mem_map_of_mem (List.mem_filter.2 ⟨mem, isFilled_iff.2 blank⟩)
    rw [read] at kept
    obtain ⟨k, -, same⟩ := List.mem_map.1 kept
    exact .inr ⟨k, ofLine_eq_ok_iff.1 same.symm⟩

theorem listed_iff {keys : List PublicKey} (read : (filledLines text).map ofLine = keys.map .ok) :
    Listed text key ↔ ∃ k ∈ keys, k.encode = key.encode := by
  have mem : ∀ k, k ∈ keys ↔ ∃ line ∈ filledLines text, ofLine line = .ok k := by
    intro k
    rw [← List.mem_map, read]
    simp
  constructor
  · rintro ⟨line, inText, k, entry, same⟩
    have filled : line ∈ filledLines text :=
      List.mem_filter.2 ⟨inText, isFilled_of_isEntry entry⟩
    exact ⟨k, (mem k).2 ⟨line, filled, ofLine_eq_ok_iff.2 entry⟩, same⟩
  · rintro ⟨k, inKeys, same⟩
    obtain ⟨line, filled, read⟩ := (mem k).1 inKeys
    exact ⟨line, (List.mem_filter.1 filled).1, k, ofLine_eq_ok_iff.1 read, same⟩

/-- The verifier of a list, or the error at its first line that is neither blank nor an entry. -/
theorem ofAuthorizedKeys_cases (text : String) :
    (∃ before line after e, Text.lines text.toList = before ++ line :: after ∧
      (∀ l ∈ before, Text.trimmed l = [] ∨ ∃ k, IsEntry l k) ∧ Text.trimmed line ≠ [] ∧
      ofLine line = .error e ∧
      ofAuthorizedKeys text = .error (.invalidPublicKey (before.length + 1) e.message)) ∨
    ∃ v, ofAuthorizedKeys text = .ok v ∧ (filledLines text).map ofLine = v.allowed.map .ok := by
  rcases ofLines_cases 1 (Text.lines text.toList) with
    ⟨before, line, after, e, lines, fine, bad, why, failed⟩ | ⟨keys, ok, read⟩
  · refine .inl ⟨before, line, after, e, lines, fine, bad, why, ?_⟩
    simp [ofAuthorizedKeys, AuthorizedKeys.parse, failed, Except.map, Nat.add_comm]
  · exact .inr ⟨⟨keys⟩, by simp [ofAuthorizedKeys, AuthorizedKeys.parse, ok, Except.map], read⟩

theorem ofAuthorizedKeys_eq_ok_iff : ofAuthorizedKeys text = .ok v ↔
    (filledLines text).map ofLine = v.allowed.map .ok := by
  rcases ofAuthorizedKeys_cases text with
    ⟨before, line, after, e, lines, -, bad, why, failed⟩ | ⟨v', ok, read⟩
  · rw [failed]
    refine iff_of_false nofun fun read => ?_
    have filled : line ∈ filledLines text :=
      List.mem_filter.2 ⟨by simp [lines], isFilled_iff.2 bad⟩
    have member : ofLine line ∈ v.allowed.map .ok := read ▸ List.mem_map_of_mem filled
    obtain ⟨k, -, same⟩ := List.mem_map.1 member
    rw [why] at same
    cases same
  · rw [ok, read]
    constructor
    · rintro ⟨⟩
      rfl
    · intro same
      have keys := List.map_injective_iff.2 (fun _ _ => Except.ok.inj) same
      exact congrArg Except.ok (congrArg HostKeyVerifier.mk keys)

theorem isPinned_iff_of_read (read : (filledLines text).map ofLine = v.allowed.map .ok) :
    v.isPinned = true ↔ ∃ l ∈ Text.lines text.toList, Text.trimmed l ≠ [] := by
  have count : (filledLines text).length = v.allowed.length := by
    simpa using congrArg List.length read
  rw [isPinned_iff, ← List.length_pos_iff, ← count, List.length_pos_iff_exists_mem]
  simp [filledLines, isFilled_iff]

theorem unreadable_of_error {e : ConfigError} (failed : ofAuthorizedKeys text = .error e) :
    (∃ number reason, e = .invalidPublicKey number reason) ∧
      ∃ line ∈ Text.lines text.toList, Text.trimmed line ≠ [] ∧ ∀ k, ¬IsEntry line k := by
  rcases ofAuthorizedKeys_cases text with
    ⟨before, line, after, e', lines, -, bad, why, failed'⟩ | ⟨v, ok, -⟩
  · rw [failed'] at failed
    cases failed
    refine ⟨⟨_, _, rfl⟩, line, by simp [lines], bad, fun k entry => ?_⟩
    rw [ofLine_eq_ok_iff.2 entry] at why
    cases why
  · rw [ok] at failed
    cases failed

theorem blank_or_entry_of_ok (ok : ofAuthorizedKeys text = .ok v) :
    ∀ line ∈ Text.lines text.toList, Text.trimmed line = [] ∨ ∃ k, IsEntry line k :=
  fun _ member => blank_or_entry (ofAuthorizedKeys_eq_ok_iff.1 ok) member

/-- A list of authorized keys is refused at its first line that is neither blank nor an entry. If there
is no such line, each line that is not blank allows one key, and without one every key is accepted and
reported; otherwise exactly the keys with the canonical form of an allowed one are accepted, silently,
and each other key is refused and reported. -/
theorem pinning_exact (text : String) :
    (∃ before line after e, Text.lines text.toList = before ++ line :: after ∧
      (∀ l ∈ before, Text.trimmed l = [] ∨ ∃ k, IsEntry l k) ∧
      Text.trimmed line ≠ [] ∧ (∀ k, ¬IsEntry line k) ∧ ofLine line = .error e ∧
      ofAuthorizedKeys text = .error (.invalidPublicKey (before.length + 1) e.message)) ∨
    ∃ v, ofAuthorizedKeys text = .ok v ∧
      (∀ l ∈ Text.lines text.toList, Text.trimmed l = [] ∨ ∃ k, IsEntry l k) ∧
      v.allowed.length = (filledLines text).length ∧
      (v.isPinned = true ↔ ∃ l ∈ Text.lines text.toList, Text.trimmed l ≠ []) ∧
      ∀ gateway key,
        ((v.verify gateway key).result = .ok () ↔
          (∀ l ∈ Text.lines text.toList, Text.trimmed l = []) ∨ Listed text key) ∧
        (v.isPinned = false →
          (v.verify gateway key).events = [.presented gateway (.ofKey key)]) ∧
        (v.isPinned = true → Listed text key → (v.verify gateway key).events = []) ∧
        (v.isPinned = true → ¬Listed text key →
          v.verify gateway key =
            ⟨.error (.trust ("host key mismatch, server sent " ++ key.algorithm ++ " " ++ key.base64)),
              [.rejected gateway ⟨key.algorithm, key.base64, key.fingerprint⟩]⟩) := by
  rcases ofAuthorizedKeys_cases text with
    ⟨before, line, after, e, lines, fine, bad, why, failed⟩ | ⟨v, ok, read⟩
  · refine .inl ⟨before, line, after, e, lines, fine, bad, fun k entry => ?_, why, failed⟩
    rw [ofLine_eq_ok_iff.2 entry] at why
    cases why
  · have pinned : v.isPinned = true ↔ ∃ l ∈ Text.lines text.toList, Text.trimmed l ≠ [] := by
      have filled : v.allowed ≠ [] ↔ filledLines text ≠ [] := by
        rw [ne_eq, ne_eq, ← List.map_eq_nil_iff (f := ofLine), read, List.map_eq_nil_iff]
      rw [isPinned_iff, filled, filledLines, ne_eq, List.filter_eq_nil_iff]
      simp [isFilled_iff]
    have listed : ∀ key, Listed text key ↔ v.allows key = true := fun key =>
      (listed_iff read).trans allows_iff.symm
    have blank : (∀ l ∈ Text.lines text.toList, Text.trimmed l = []) ↔ v.allowed = [] := by
      have unpinned := not_congr (pinned.symm.trans isPinned_iff)
      simpa using unpinned
    refine .inr ⟨v, ok, fun l mem => blank_or_entry read mem,
      by simpa using (congrArg List.length read).symm, pinned, fun gateway key => ?_⟩
    rw [blank, listed key, ← Bool.not_eq_true, isPinned_iff]
    rcases verify_cases v gateway key with ⟨none, verdict⟩ | ⟨some, allowed, verdict⟩ |
      ⟨some, refused, verdict⟩
    · simp [verdict, none]
    · simp [verdict, some, allowed]
    · simp [verdict, some, refused, mismatch, HostKeyInfo.ofKey]

example : ofAuthorizedKeys " \n\n\tssh-ed25519 \n" =
    .error (.invalidPublicKey 3 "missing key data after ssh-ed25519") := by
  rfl

end GatewayTunnel.HostKeyVerifier
