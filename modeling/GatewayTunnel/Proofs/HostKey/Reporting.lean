import GatewayTunnel.Proofs.Bytes.Base64
import GatewayTunnel.Proofs.HostKey.Pinning
import GatewayTunnel.Proofs.Key.Decoding

namespace GatewayTunnel

open AuthorizedKeys (IsEntry isType isFilled isFilled_iff ofLine ofLine_eq_ok_iff)

variable {bs : Bytes} {k key : PublicKey} {text : String} {line : List Char} {v : HostKeyVerifier}

namespace PublicKey

def isKnown : PublicKey → Bool
  | foreign .. => false
  | _ => true

theorem algorithm_isType (known : k.isKnown = true) :
    isType k.algorithm.toList = true ∧ k.algorithm.toList ≠ [] ∧
      ∀ c ∈ k.algorithm.toList, Text.isVisible c = true := by
  have shape : (isType k.algorithm.toList && !k.algorithm.toList.isEmpty &&
      k.algorithm.toList.all Text.isVisible) = true := by
    cases k with
    | foreign => cases known
    | ecdsa curve =>
        rw [algorithm]
        cases curve <;> decide +kernel
    | _ =>
        rw [algorithm]
        decide +kernel
  simpa only [Bool.and_eq_true, Bool.not_eq_true', List.isEmpty_eq_false_iff, List.all_eq_true,
    and_assoc] using shape

theorem ofBase64_base64 (read : decode bs = .ok k) : ofBase64 k.base64 = .ok k := by
  rw [ofBase64, base64, Base64.decode_text]
  exact decode_encode read

theorem isVisible_of_mem_base64 {c : Char} (member : c ∈ k.base64.toList) :
    Text.isVisible c = true := by
  rw [base64, Base64.text, String.toList_ofList] at member
  exact Base64.isVisible_of_mem_encode member

theorem base64_ne_nil (k : PublicKey) : k.base64.toList ≠ [] := by
  intro none
  have back : Base64.decode (Bytes.ofString k.base64) = .ok k.encode := Base64.decode_text k.encode
  rw [String.toList_eq_nil_iff.1 none] at back
  have empty : k.encode = [] := (Except.ok.inj back).symm
  simp [encode, Wire.text, Wire.string, Wire.word, Bytes.ofNat] at empty

end PublicKey

namespace HostKeyInfo

def entry (info : HostKeyInfo) : String :=
  info.type ++ " " ++ info.base64

theorem toList_entry (k : PublicKey) :
    (ofKey k).entry.toList = k.algorithm.toList ++ ' ' :: k.base64.toList := by
  simp [entry, ofKey]

theorem isEntry_entry (read : PublicKey.decode bs = .ok k) (known : k.isKnown = true) :
    IsEntry (ofKey k).entry.toList k := by
  obtain ⟨shaped, some, visible⟩ := PublicKey.algorithm_isType known
  have words : Text.words (ofKey k).entry.toList = [k.algorithm.toList, k.base64.toList] := by
    rw [toList_entry, Text.words_cons visible some, Text.words_single
      (fun c => PublicKey.isVisible_of_mem_base64) k.base64_ne_nil]
  refine ⟨[], _, _, [], words, nofun, shaped, ?_, ?_⟩
  · rw [String.ofList_toList]
    exact PublicKey.ofBase64_base64 read
  · rw [String.ofList_toList]

theorem lines_entry (known : k.isKnown = true) :
    Text.lines (ofKey k).entry.toList = [(ofKey k).entry.toList] := by
  have visible := (PublicKey.algorithm_isType known).2.2
  refine Text.lines_single ?_ (by simp [toList_entry])
  rw [toList_entry]
  intro cut
  rcases List.mem_append.1 cut with inType | inRest
  · exact absurd (visible _ inType) (by decide)
  · rcases List.mem_cons.1 inRest with blank | inKey
    · cases blank
    · exact absurd (PublicKey.isVisible_of_mem_base64 inKey) (by decide)

end HostKeyInfo

namespace HostKeyVerifier

theorem ofAuthorizedKeys_single (whole : Text.lines text.toList = [line]) (entry : IsEntry line k) :
    ofAuthorizedKeys text = .ok ⟨[k]⟩ := by
  have read := ofLine_eq_ok_iff.2 entry
  rcases ofAuthorizedKeys_cases text with ⟨before, line', after, e, lines, -, -, why, -⟩ |
    ⟨v, ok, keys⟩
  · have same : line' = line := by
      have member : line' ∈ Text.lines text.toList := by simp [lines]
      rw [whole] at member
      exact List.mem_singleton.1 member
    rw [same, read] at why
    cases why
  · have filled : filledLines text = [line] := by
      rw [filledLines, whole]
      exact List.filter_eq_self.2 (by simpa using isFilled_of_isEntry entry)
    rw [filled, List.map_singleton, read] at keys
    obtain ⟨k', allowed, same⟩ := List.map_eq_singleton_iff.1 keys.symm
    obtain rfl := Except.ok.inj same
    rw [ok, ← allowed]

theorem verify_single (k : PublicKey) (gateway : String) (key : PublicKey) :
    (HostKeyVerifier.mk [k]).verify gateway key = if k.encode = key.encode then ⟨.ok (), []⟩
      else ⟨.error (mismatch key), [.rejected gateway (.ofKey key)]⟩ := by
  simp [verify, isPinned, allows]

/-- The report on a key, as an entry, pins the gateway to that key. -/
theorem reported_key_pins (read : PublicKey.decode bs = .ok k) (known : k.isKnown = true)
    (gateway : String) : ∃ info, acceptAny.verify gateway k = ⟨.ok (), [.presented gateway info]⟩ ∧
      ∃ v, ofAuthorizedKeys info.entry = .ok v ∧ v.allowed.length = 1 ∧
        (∀ gateway, v.verify gateway k = ⟨.ok (), []⟩) ∧
        ∀ gateway key, key.encode ≠ k.encode → v.verify gateway key =
          ⟨.error (mismatch key), [.rejected gateway (.ofKey key)]⟩ := by
  have pinned := ofAuthorizedKeys_single (HostKeyInfo.lines_entry known)
    (HostKeyInfo.isEntry_entry read known)
  refine ⟨.ofKey k, rfl, ⟨[k]⟩, pinned, rfl, ?_, ?_⟩
  · intro gateway
    rw [verify_single, if_pos rfl]
  · intro gateway key differs
    rw [verify_single, if_neg (Ne.symm differs)]

def sampleKey : PublicKey :=
  .rsa [1, 0, 1] [0, 0xc3, 0x5d]

/-- The key under a newer signature name, with a byte left over. -/
def sampleVariant : Bytes :=
  Wire.text "rsa-sha2-256" ++ (sampleKey.fields ++ [7])

theorem decode_sampleVariant : PublicKey.decode sampleVariant = .ok sampleKey :=
  PublicKey.decode_eq_ok_iff.2
    ⟨show ∀ number ∈ [[1, 0, 1], [0, 0xc3, 0x5d]], _ by decide, "rsa-sha2-256", by decide, [7], rfl⟩

theorem reported_key_pins_variant : PublicKey.decode sampleVariant = .ok sampleKey ∧
    sampleVariant ≠ sampleKey.encode ∧ sampleKey.isKnown = true ∧
    ∃ info, acceptAny.verify "gateway.example:22" sampleKey =
        ⟨.ok (), [.presented "gateway.example:22" info]⟩ ∧
      ∃ v, ofAuthorizedKeys info.entry = .ok v ∧ v.allowed.length = 1 ∧
        (∀ gateway, v.verify gateway sampleKey = ⟨.ok (), []⟩) ∧
        ∀ gateway key, key.encode ≠ sampleKey.encode → v.verify gateway key =
          ⟨.error (mismatch key), [.rejected gateway (.ofKey key)]⟩ :=
  ⟨decode_sampleVariant, by decide, rfl, reported_key_pins decode_sampleVariant rfl _⟩

end HostKeyVerifier

end GatewayTunnel
