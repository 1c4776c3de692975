import GatewayTunnel.Bytes

namespace GatewayTunnel.Bytes

variable {c d : Char} {a b : String} {xs ys : Bytes}

/-- The bytes of a character are the digits of its code in base 64, the first of them marked with their
number. -/
theorem encode_cases (c : Char) :
    (c.toNat < 128 ∧ String.utf8EncodeChar c = [.ofNat c.toNat]) ∨
    (∃ p q, c.toNat = 64 * p + q ∧ 2 ≤ p ∧ p < 32 ∧ q < 64 ∧
      String.utf8EncodeChar c = [.ofNat (p + 192), .ofNat (q + 128)]) ∨
    (∃ p q r, c.toNat = 64 * (64 * p + q) + r ∧ 32 ≤ 64 * p + q ∧ p < 16 ∧ q < 64 ∧ r < 64 ∧
      String.utf8EncodeChar c = [.ofNat (p + 224), .ofNat (q + 128), .ofNat (r + 128)]) ∨
    ∃ p q r s, c.toNat = 64 * (64 * (64 * p + q) + r) + s ∧ 16 ≤ 64 * p + q ∧
      p < 8 ∧ q < 64 ∧ r < 64 ∧ s < 64 ∧ String.utf8EncodeChar c =
        [.ofNat (p + 240), .ofNat (q + 128), .ofNat (r + 128), .ofNat (s + 128)] := by
  have code : c.val.toNat = c.toNat := rfl
  have bound : c.toNat < 1114112 := by
    rcases c.valid with low | high
    · exact Nat.lt_trans low (by decide)
    · exact high.2
  unfold String.utf8EncodeChar
  simp only [code]
  split
  · exact .inl ⟨by omega, rfl⟩
  · split
    · exact .inr (.inl ⟨_, _, by omega, by omega, by omega, by omega, rfl⟩)
    · split
      · exact .inr (.inr (.inl ⟨_, _, _, by omega, by omega, by omega, by omega, by omega, rfl⟩))
      · exact .inr (.inr (.inr ⟨_, _, _, _, by omega, by omega, by omega, by omega, by omega, by omega, rfl⟩))

theorem ofNat_cons_lt_iff {m n : Nat} (hm : m < 256) (hn : n < 256) :
    UInt8.ofNat m :: xs < UInt8.ofNat n :: ys ↔ m < n ∨ m = n ∧ xs < ys := by
  rw [List.cons_lt_cons_iff, UInt8.lt_iff_toNat_lt, ← UInt8.toNat_inj, UInt8.toNat_ofNat_of_lt' hm,
    UInt8.toNat_ofNat_of_lt' hn]

theorem encode_append_lt_iff : String.utf8EncodeChar c ++ xs < String.utf8EncodeChar d ++ ys ↔
    c.toNat < d.toNat ∨ c.toNat = d.toNat ∧ xs < ys := by
  obtain ⟨_, code⟩ | ⟨_, _, _, _, _, _, code⟩ | ⟨_, _, _, _, _, _, _, _, code⟩ |
      ⟨_, _, _, _, _, _, _, _, _, _, code⟩ := encode_cases c <;>
    obtain ⟨_, code'⟩ | ⟨_, _, _, _, _, _, code'⟩ | ⟨_, _, _, _, _, _, _, _, code'⟩ |
      ⟨_, _, _, _, _, _, _, _, _, _, code'⟩ := encode_cases d
  · rw [code, code']
    exact ofNat_cons_lt_iff (by omega) (by omega)
  -- The first bytes tell how many there are; of equally many, the digits compare as the codes do.
  all_goals
    rw [code, code']
    simp (disch := omega) only [List.cons_append, List.nil_append, ofNat_cons_lt_iff]
    by_cases tail : xs < ys <;> simp only [tail, and_true, and_false, or_false] <;> omega

theorem flatMap_lt_iff {cs ds : List Char} :
    cs.flatMap String.utf8EncodeChar < ds.flatMap String.utf8EncodeChar ↔ cs < ds := by
  induction cs generalizing ds with
  | nil =>
      cases ds with
      | nil => simp
      | cons d ds =>
          obtain ⟨first, rest, code⟩ := List.exists_cons_of_ne_nil (@String.utf8EncodeChar_ne_nil d)
          rw [List.flatMap_nil, List.flatMap_cons, code]
          exact iff_of_true (List.nil_lt_cons ..) (List.nil_lt_cons ..)
  | cons c cs ih =>
      cases ds with
      | nil => simp
      | cons d ds =>
          rw [List.flatMap_cons, List.flatMap_cons, encode_append_lt_iff, ih, List.cons_lt_cons_iff,
            Char.toNat_inj]
          rfl

theorem ofString_le_iff : ofString a ≤ ofString b ↔ a ≤ b := by
  rw [← List.not_lt, ← String.not_lt, ofString, ofString, flatMap_lt_iff]
  rfl

end GatewayTunnel.Bytes
