import GatewayTunnel.Bytes.Base64
import GatewayTunnel.Proofs.Text.Words

namespace GatewayTunnel

def Bytes.ofChar (c : Char) : UInt8 :=
  UInt8.ofNat c.toNat

theorem Bytes.ofString_visible {cs : List Char} (visible : ∀ c ∈ cs, Text.isVisible c = true) :
    ofString (String.ofList cs) = cs.map ofChar := by
  rw [ofString, String.toList_ofList]
  induction cs with
  | nil => rfl
  | cons c cs ih =>
      obtain ⟨seen, others⟩ := List.forall_mem_cons.1 visible
      simp only [Text.isVisible, Bool.and_eq_true, decide_eq_true_eq] at seen
      have ascii : String.utf8EncodeChar c = [ofChar c] := if_pos (Nat.le_of_lt seen.2)
      rw [List.flatMap_cons, ascii, ih others, List.map_cons, List.singleton_append]

namespace Base64

variable {bs : Bytes} {padding : Bool} {m n o p : Nat} {i j k l : Nat}

/-! ## Symbols -/

theorem isVisible_symbol (n : Nat) : Text.isVisible (symbol n) = true := by
  have small : ∀ n < 64, Text.isVisible (symbol n) = true := by decide
  by_cases below : n < 64
  · exact small n below
  · have last : symbol n = '/' := by
      unfold symbol
      rw [if_neg (by omega), if_neg (by omega), if_neg (by omega), if_neg (by omega)]
    rw [last]
    rfl

theorem isVisible_of_mem_encodeGroup {c : Char} (member : c ∈ encodeGroup padding bs) :
    Text.isVisible c = true := by
  unfold encodeGroup at member
  split at member <;> cases padding <;> simp at member <;>
    rcases member with rfl | rfl | rfl | rfl <;> first | exact isVisible_symbol _ | rfl

def symbolByte (n : Nat) : UInt8 :=
  Bytes.ofChar (symbol n)

theorem value?_symbolByte (small : n < 64) : value? (symbolByte n) = some n :=
  value?_symbol n small

theorem symbolByte_ne_pad (small : n < 64) : (symbolByte n == pad) = false := by
  have differs : ∀ n < 64, (symbolByte n == pad) = false := by decide
  exact differs n small

/-! ## Groups -/

theorem decodeGroup_four (hm : m < 64) (hn : n < 64) (ho : o < 64) (hp : p < 64) :
    decodeGroup [(symbolByte m, i), (symbolByte n, j), (symbolByte o, k), (symbolByte p, l)] =
      .ok (unpack [m, n, o, p]) := by
  simp [decodeGroup, symbolByte_ne_pad, values, value?_symbolByte, hasTrailingBits, Except.map,
    bind, Except.bind, pure, Except.pure, *]

theorem decodeGroup_three (hm : m < 64) (hn : n < 64) (ho : o < 64) (clean : o % 4 = 0) :
    decodeGroup [(symbolByte m, i), (symbolByte n, j), (symbolByte o, k), (pad, l)] =
      .ok (unpack [m, n, o]) := by
  simp [decodeGroup, symbolByte_ne_pad, values, value?_symbolByte, hasTrailingBits, Except.map,
    bind, Except.bind, pure, Except.pure, *]

theorem decodeGroup_two (hm : m < 64) (hn : n < 64) (clean : n % 16 = 0) :
    decodeGroup [(symbolByte m, i), (symbolByte n, j), (pad, k), (pad, l)] =
      .ok (unpack [m, n]) := by
  simp [decodeGroup, symbolByte_ne_pad, values, value?_symbolByte, hasTrailingBits, Except.map,
    bind, Except.bind, pure, Except.pure, *]

theorem unpack_three (a b c : UInt8) :
    unpack [((a.toNat * 256 + b.toNat) * 256 + c.toNat) / 262144,
      ((a.toNat * 256 + b.toNat) * 256 + c.toNat) / 4096 % 64,
      ((a.toNat * 256 + b.toNat) * 256 + c.toNat) / 64 % 64,
      ((a.toNat * 256 + b.toNat) * 256 + c.toNat) % 64] = [a, b, c] := by
  have ha := a.toNat_lt
  have hb := b.toNat_lt
  have hc := c.toNat_lt
  simp only [unpack, List.cons.injEq, and_true, ← UInt8.toNat_inj, UInt8.toNat_ofNat']
  omega

theorem unpack_two (a b : UInt8) :
    unpack [(a.toNat * 256 + b.toNat) * 4 / 4096, (a.toNat * 256 + b.toNat) * 4 / 64 % 64,
      (a.toNat * 256 + b.toNat) * 4 % 64] = [a, b] := by
  have ha := a.toNat_lt
  have hb := b.toNat_lt
  simp only [unpack, List.cons.injEq, and_true, ← UInt8.toNat_inj, UInt8.toNat_ofNat']
  omega

theorem unpack_one (a : UInt8) : unpack [a.toNat * 16 / 64, a.toNat * 16 % 64] = [a] := by
  have ha := a.toNat_lt
  simp only [unpack, List.cons.injEq, and_true, ← UInt8.toNat_inj, UInt8.toNat_ofNat']
  omega

def place (cs : List Char) (k : Nat) : List Placed :=
  (cs.map Bytes.ofChar).zipIdx k

theorem place_append (cs ds : List Char) (k : Nat) :
    place (cs ++ ds) k = place cs k ++ place ds (k + cs.length) := by
  rw [place, List.map_append, List.zipIdx_append, List.length_map]
  rfl

theorem place_one (a : UInt8) : place (encodeGroup true [a]) k =
    [(symbolByte (a.toNat * 16 / 64), k), (symbolByte (a.toNat * 16 % 64), k + 1), (pad, k + 2),
      (pad, k + 3)] := rfl

theorem place_two (a b : UInt8) : place (encodeGroup true [a, b]) k =
    [(symbolByte ((a.toNat * 256 + b.toNat) * 4 / 4096), k),
      (symbolByte ((a.toNat * 256 + b.toNat) * 4 / 64 % 64), k + 1),
      (symbolByte ((a.toNat * 256 + b.toNat) * 4 % 64), k + 2), (pad, k + 3)] := rfl

theorem place_three (a b c : UInt8) : place (encodeGroup true [a, b, c]) k =
    [(symbolByte (((a.toNat * 256 + b.toNat) * 256 + c.toNat) / 262144), k),
      (symbolByte (((a.toNat * 256 + b.toNat) * 256 + c.toNat) / 4096 % 64), k + 1),
      (symbolByte (((a.toNat * 256 + b.toNat) * 256 + c.toNat) / 64 % 64), k + 2),
      (symbolByte (((a.toNat * 256 + b.toNat) * 256 + c.toNat) % 64), k + 3)] := rfl

theorem decodeGroup_encodeGroup (some : bs ≠ []) (few : bs.length ≤ 3) :
    decodeGroup (place (encodeGroup true bs) k) = .ok bs := by
  match bs with
  | [a] =>
      have ha := a.toNat_lt
      rw [place_one, decodeGroup_two (by omega) (by omega) (by omega), unpack_one]
  | [a, b] =>
      have ha := a.toNat_lt
      have hb := b.toNat_lt
      rw [place_two, decodeGroup_three (by omega) (by omega) (by omega) (by omega), unpack_two]
  | [a, b, c] =>
      have ha := a.toNat_lt
      have hb := b.toNat_lt
      have hc := c.toNat_lt
      rw [place_three, decodeGroup_four (by omega) (by omega) (by omega) (by omega), unpack_three]
  | _ :: _ :: _ :: _ :: _ =>
      simp only [List.length_cons] at few
      omega

theorem length_encodeGroup (some : bs ≠ []) (few : bs.length ≤ 3) :
    (encodeGroup true bs).length = 4 := by
  match bs with
  | [_] | [_, _] | [_, _, _] => rfl
  | _ :: _ :: _ :: _ :: _ =>
      simp only [List.length_cons] at few
      omega

/-! ## Texts -/

theorem decodeGroups_cons {group rest : List Placed} (four : group.length = 4) :
    decodeGroups (group ++ rest) = do
      let bs ← decodeGroup group
      return bs ++ (← decodeGroups rest) := by
  match group with
  | [_, _, _, _] => rfl

theorem decodeGroups_last (some : bs ≠ []) (few : bs.length ≤ 3) :
    decodeGroups (place (encodeGroup true bs) k) = .ok bs := by
  have four : (place (encodeGroup true bs) k).length = 4 := by
    simp [place, length_encodeGroup some few]
  rw [← List.append_nil (place _ _), decodeGroups_cons four, decodeGroup_encodeGroup some few]
  simp [decodeGroups, bind, Except.bind, pure, Except.pure]

theorem decodeGroups_encode (bs : Bytes) (k : Nat) :
    decodeGroups (place (encode true bs) k) = .ok bs := by
  induction bs using encode.induct generalizing k with
  | case1 a b c rest ih =>
      have four : (place (encodeGroup true [a, b, c]) k).length = 4 := rfl
      have first : decodeGroup (place (encodeGroup true [a, b, c]) k) = .ok [a, b, c] :=
        decodeGroup_encodeGroup (by simp) (by simp)
      rw [encode, place_append, decodeGroups_cons four, first, ih]
      rfl
  | case2 rest short =>
      match rest, short with
      | [], _ => rfl
      | [a], _ => exact decodeGroups_last (by simp) (by simp)
      | [a, b], _ => exact decodeGroups_last (by simp) (by simp)
      | a :: b :: c :: rest, short => exact absurd rfl (short a b c rest)

theorem isVisible_of_mem_encode {c : Char} (member : c ∈ encode padding bs) :
    Text.isVisible c = true := by
  induction bs using encode.induct with
  | case1 x y z rest ih =>
      rw [encode] at member
      rcases List.mem_append.1 member with group | later
      · exact isVisible_of_mem_encodeGroup group
      · exact ih later
  | case2 rest short =>
      rw [encode] at member
      · exact isVisible_of_mem_encodeGroup member
      · exact short

theorem isLineEnd_ofChar {c : Char} (visible : Text.isVisible c = true) :
    isLineEnd (Bytes.ofChar c) = false := by
  simp only [Text.isVisible, Bool.and_eq_true, decide_eq_true_eq] at visible
  have same : (Bytes.ofChar c).toNat = c.toNat := by
    rw [Bytes.ofChar, UInt8.toNat_ofNat']
    omega
  rw [isLineEnd, Bool.or_eq_false_iff, beq_eq_false_iff_ne, beq_eq_false_iff_ne]
  constructor <;> intro lineEnd <;> rw [lineEnd] at same <;> simp at same <;> omega

theorem decode_text (bs : Bytes) : decode (Bytes.ofString (text bs)) = .ok bs := by
  have visible : ∀ c ∈ encode true bs, Text.isVisible c = true := fun c => isVisible_of_mem_encode
  have kept : (place (encode true bs) 0).filter (fun placed => !isLineEnd placed.1) =
      place (encode true bs) 0 := by
    refine List.filter_eq_self.2 fun placed member => ?_
    obtain ⟨c, inText, same⟩ := List.mem_map.1 (List.fst_mem_of_mem_zipIdx member)
    rw [← same, isLineEnd_ofChar (visible c inText)]
    rfl
  rw [decode, text, Bytes.ofString_visible visible]
  exact (congrArg decodeGroups kept).trans (decodeGroups_encode bs 0)

end Base64

end GatewayTunnel
