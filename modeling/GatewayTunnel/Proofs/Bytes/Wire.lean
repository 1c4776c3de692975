import GatewayTunnel.Bytes.Wire
import Mathlib.Data.List.Induction

namespace GatewayTunnel

namespace Bytes

variable {bs : Bytes} {s : String} {width n : Nat}

/-! ## Numbers -/

theorem toNat_concat (bs : Bytes) (b : UInt8) : toNat (bs ++ [b]) = toNat bs * 256 + b.toNat := by
  simp [toNat]

theorem toNat_lt (bs : Bytes) : toNat bs < Nat.pow 256 bs.length := by
  induction bs using List.reverseRecOn with
  | nil => exact Nat.one_pos
  | append_singleton bs b ih =>
      have small := b.toNat_lt
      rw [toNat_concat, List.length_append, List.length_singleton]
      change _ < Nat.pow 256 bs.length * 256
      omega

theorem toNat_ofNat (fits : n < Nat.pow 256 width) : toNat (ofNat width n) = n := by
  induction width generalizing n with
  | zero =>
      rw [Nat.lt_one_iff.1 fits]
      rfl
  | succ width ih =>
      change n < Nat.pow 256 width * 256 at fits
      have front : n / 256 < Nat.pow 256 width := Nat.div_lt_of_lt_mul (by omega)
      rw [ofNat, toNat_concat, ih front, UInt8.toNat_ofNat']
      omega

theorem ofNat_toNat (bs : Bytes) : ofNat bs.length (toNat bs) = bs := by
  induction bs using List.reverseRecOn with
  | nil => rfl
  | append_singleton bs b ih =>
      have front : (toNat bs * 256 + b.toNat) / 256 = toNat bs := by
        have small := b.toNat_lt
        omega
      have last : UInt8.ofNat (toNat bs * 256 + b.toNat) = b := by
        apply UInt8.toNat_inj.1
        have small := b.toNat_lt
        rw [UInt8.toNat_ofNat']
        omega
      rw [toNat_concat, List.length_append, List.length_singleton, ofNat, front, last, ih]

/-! ## Texts -/

theorem toString?_eq_some_iff : toString? bs = some s ↔ ofString s = bs := by
  have packed : (⟨bs.toArray⟩ : ByteArray) = bs.toByteArray := ByteArray.ext (by simp)
  have written : s.toByteArray = (ofString s).toByteArray := String.utf8Encode_toList.symm
  rw [toString?, packed]
  constructor
  · intro read
    obtain ⟨valid, same⟩ := Option.dite_none_right_eq_some.1 read
    have raw : s.toByteArray = bs.toByteArray := by
      rw [← Option.some.inj same]
      rfl
    exact List.toByteArray_inj.1 (written.symm.trans raw)
  · rintro rfl
    rw [← written]
    exact dif_pos s.isValidUTF8

end Bytes

namespace Wire

variable {α β : Type} {x : Read α} {f : α → Read β} {a : α} {b : β} {bs rest field : Bytes}
  {s : String} {n : Nat}

def Takes (x : Read α) (bs : Bytes) (a : α) (rest : Bytes) : Prop :=
  x.run bs = .ok (a, rest)

/-! ## Steps -/

theorem takes_bind : Takes (x >>= f) bs b rest ↔
    ∃ a middle, Takes x bs a middle ∧ Takes (f a) middle b rest := by
  unfold Takes
  rw [StateT.run_bind]
  cases x.run bs with
  | error e => simp [bind, Except.bind]
  | ok taken => simp [bind, Except.bind, Prod.ext_iff]

@[simp] theorem takes_pure {c : α} : Takes (pure c) bs a rest ↔ c = a ∧ bs = rest := by
  rw [Takes, StateT.run_pure]
  simp [pure, Except.pure]

@[simp] theorem takes_throw {e : KeyError} : ¬Takes (throw e : Read α) bs a rest := by
  rintro ⟨⟩

@[simp] theorem takes_lift {c : Except KeyError α} :
    Takes (liftM c) bs a rest ↔ c = .ok a ∧ bs = rest := by
  cases c <;> simp [Takes, liftM, monadLift, MonadLift.monadLift, StateT.run, StateT.lift, bind,
    Except.bind, pure, Except.pure]

theorem takes_guard {p : Prop} [Decidable p] {c : α} {e : KeyError} :
    Takes (if p then pure c else throw e) bs a rest ↔ p ∧ c = a ∧ bs = rest := by
  split <;> simp_all

theorem takes_unless {p : Prop} [Decidable p] {e : KeyError} {g : Unit → Read α} :
    Takes (if p then throw e >>= g else x) bs a rest ↔ ¬p ∧ Takes x bs a rest := by
  split
  · simp [*, takes_bind]
  · simp [*]

theorem run_take (n : Nat) (bs : Bytes) : (take n).run bs =
    if bs.length < n then .error .length else .ok (bs.take n, bs.drop n) := by
  by_cases short : bs.length < n
  · simp only [take, StateT.run_bind, StateT.run_get, pure_bind, if_pos short]
    rfl
  · simp only [take, StateT.run_bind, StateT.run_get, pure_bind, if_neg short]
    rfl

theorem takes_take : Takes (take n) bs field rest ↔ field.length = n ∧ bs = field ++ rest := by
  rw [Takes, run_take]
  constructor
  · intro taken
    split at taken
    · cases taken
    · rename_i long
      obtain ⟨rfl, rfl⟩ := Prod.mk.inj (Except.ok.inj taken)
      exact ⟨List.length_take_of_le (Nat.le_of_not_lt long), (List.take_append_drop n bs).symm⟩
  · rintro ⟨rfl, rfl⟩
    simp

/-! ## Fields -/

theorem takes_readWord : Takes readWord bs n rest ↔ n < Nat.pow 256 4 ∧ bs = word n ++ rest := by
  simp only [readWord, takes_bind, takes_take, takes_pure]
  constructor
  · rintro ⟨four, middle, ⟨size, rfl⟩, rfl, rfl⟩
    have same := Bytes.ofNat_toNat four
    have fits := Bytes.toNat_lt four
    rw [size] at same fits
    exact ⟨fits, by rw [word, same]⟩
  · rintro ⟨fits, rfl⟩
    exact ⟨word n, rest, ⟨Bytes.length_ofNat 4 n, rfl⟩, Bytes.toNat_ofNat fits, rfl⟩

theorem takes_readString : Takes readString bs field rest ↔
    field.length ≤ maxLength ∧ bs = string field ++ rest := by
  simp only [readString, takes_bind, takes_readWord, takes_unless, takes_take]
  constructor
  · rintro ⟨_, _, ⟨-, rfl⟩, short, rfl, rfl⟩
    exact ⟨Nat.le_of_not_lt short, by rw [string, List.append_assoc]⟩
  · rintro ⟨short, rfl⟩
    have fits : field.length < Nat.pow 256 4 := Nat.lt_of_le_of_lt short (by decide)
    exact ⟨field.length, field ++ rest, ⟨fits, by rw [string, List.append_assoc]⟩,
      Nat.not_lt.2 short, rfl, rfl⟩

theorem takes_readStringUpTo {bound : Nat} : Takes (readStringUpTo bound) bs field rest ↔
    field.length ≤ bound ∧ field.length ≤ maxLength ∧ bs = string field ++ rest := by
  simp only [readStringUpTo, takes_bind, takes_readString, takes_unless, takes_pure]
  constructor
  · rintro ⟨_, _, ⟨short, rfl⟩, within, rfl, rfl⟩
    exact ⟨Nat.le_of_not_lt within, short, rfl⟩
  · rintro ⟨within, short, rfl⟩
    exact ⟨field, rest, ⟨short, rfl⟩, Nat.not_lt.2 within, rfl, rfl⟩

theorem takes_readFixed : Takes (readFixed n) bs field rest ↔
    field.length = n ∧ field.length ≤ maxLength ∧ bs = string field ++ rest := by
  simp only [readFixed, takes_bind, takes_readString, takes_guard]
  constructor
  · rintro ⟨_, _, ⟨short, rfl⟩, size, rfl, rfl⟩
    exact ⟨size, short, rfl⟩
  · rintro ⟨size, short, rfl⟩
    exact ⟨field, rest, ⟨short, rfl⟩, size, rfl, rfl⟩

theorem takes_readNumber : Takes readNumber bs field rest ↔
    isNumber field = true ∧ field.length ≤ maxLength ∧ bs = string field ++ rest := by
  simp only [readNumber, takes_bind, takes_readString, takes_guard]
  constructor
  · rintro ⟨_, _, ⟨short, rfl⟩, number, rfl, rfl⟩
    exact ⟨number, short, rfl⟩
  · rintro ⟨number, short, rfl⟩
    exact ⟨field, rest, ⟨short, rfl⟩, number, rfl, rfl⟩

theorem decodeText_eq_ok_iff : decodeText field = .ok s ↔ Bytes.ofString s = field := by
  rw [← Bytes.toString?_eq_some_iff]
  unfold decodeText
  cases field.toString? <;> simp

theorem takes_readText : Takes readText bs s rest ↔
    (Bytes.ofString s).length ≤ maxLength ∧ bs = text s ++ rest := by
  simp only [readText, takes_bind, takes_readString, takes_lift, decodeText_eq_ok_iff]
  constructor
  · rintro ⟨_, _, ⟨short, rfl⟩, rfl, rfl⟩
    exact ⟨short, rfl⟩
  · rintro ⟨short, rfl⟩
    exact ⟨Bytes.ofString s, rest, ⟨short, rfl⟩, rfl, rfl⟩

theorem takes_readName : Takes readName bs s rest ↔
    (Bytes.ofString s).length ≤ maxNameLength ∧ bs = text s ++ rest := by
  simp only [readName, takes_bind, takes_readStringUpTo, takes_lift, decodeText_eq_ok_iff]
  constructor
  · rintro ⟨_, _, ⟨within, -, rfl⟩, rfl, rfl⟩
    exact ⟨within, rfl⟩
  · rintro ⟨within, rfl⟩
    exact ⟨Bytes.ofString s, rest, ⟨within, Nat.le_trans within (by decide), rfl⟩, rfl, rfl⟩

end Wire

end GatewayTunnel
