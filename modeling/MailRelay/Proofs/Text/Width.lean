import MailRelay.Proofs.Text.Decoding
import Mathlib.Algebra.BigOperators.Group.List.Basic
import Mathlib.Algebra.GroupWithZero.Nat

set_option autoImplicit false

namespace MailRelay.Utf8

def width (cs : List Char) : Nat := (cs.map Char.utf8Size).sum

@[simp] theorem width_nil : width [] = 0 := rfl

@[simp] theorem width_cons (c : Char) (cs : List Char) : width (c :: cs) = c.utf8Size + width cs := by
  simp [width]

@[simp] theorem width_append (first second : List Char) :
    width (first ++ second) = width first + width second := by
  simp [width]

@[simp] theorem width_reverse (cs : List Char) : width cs.reverse = width cs := by
  simp [width]

theorem width_eq_length (cs : List Char) : width cs = (encode cs).length := by
  induction cs with
  | nil => rfl
  | cons c cs ih =>
    have first : encode (c :: cs) = String.utf8EncodeChar c ++ encode cs := rfl
    rw [width_cons, ih, first, List.length_append, String.length_utf8EncodeChar]

theorem utf8ByteSize_eq (s : String) : s.utf8ByteSize = width s.toList := by
  rw [width_eq_length, ← ofString_eq_encode]
  rfl

theorem utf8Size_of_byte (b : UInt8) (ascii : b < 128) : (Char.ofNat b.toNat).utf8Size = 1 := by
  have every : ∀ n < 128, (Char.ofNat n).utf8Size = 1 := by decide
  exact every _ (UInt8.lt_iff_toNat_lt.1 ascii)

def weight (bytes : Bytes) : Nat := (bytes.map fun b => if b < 128 then 1 else 3).sum

@[simp] theorem weight_nil : weight [] = 0 := rfl

theorem weight_cons (b : UInt8) (bytes : Bytes) :
    weight (b :: bytes) = (if b < 128 then 1 else 3) + weight bytes := by
  simp [weight]

@[simp] theorem weight_append (first second : Bytes) :
    weight (first ++ second) = weight first + weight second := by
  simp [weight]

@[simp] theorem weight_reverse (bytes : Bytes) : weight bytes.reverse = weight bytes := by
  simp [weight]

theorem length_le_weight (bytes : Bytes) : bytes.length ≤ weight bytes := by
  induction bytes with
  | nil => exact Nat.le_refl 0
  | cons b bytes ih =>
    rw [weight_cons, List.length_cons]
    split <;> omega

theorem weight_cons_le (b : UInt8) (bytes : Bytes) : weight (b :: bytes) ≤ 3 + weight bytes := by
  rw [weight_cons]
  split <;> omega

theorem weight_le (bytes : Bytes) : weight bytes ≤ 3 * bytes.length := by
  induction bytes with
  | nil => exact Nat.le_refl 0
  | cons b bytes ih =>
    rw [weight_cons, List.length_cons]
    split <;> omega

theorem weight_eq (bytes : Bytes) :
    weight bytes = bytes.length + 2 * bytes.countP fun b => !decide (b < 128) := by
  induction bytes with
  | nil => rfl
  | cons b bytes ih =>
    rw [weight_cons, ih, List.length_cons, List.countP_cons]
    by_cases ascii : b < 128 <;> simp [ascii] <;> omega

theorem weight_ascii {bytes : Bytes} (ascii : ∀ b ∈ bytes, b < 128) :
    weight bytes = bytes.length := by
  induction bytes with
  | nil => rfl
  | cons b bytes ih =>
    obtain ⟨first, others⟩ := List.forall_mem_cons.1 ascii
    rw [weight_cons, if_pos first, ih others, List.length_cons, Nat.add_comm]

theorem weight_drop (n : Nat) (bytes : Bytes) : weight (bytes.drop n) ≤ weight bytes := by
  have whole := weight_append (bytes.take n) (bytes.drop n)
  rw [List.take_append_drop] at whole
  omega

theorem utf8Size_replacement : replacement.utf8Size = 3 := by
  decide

theorem width_decodeLossy (bytes : Bytes) : width (decodeLossy bytes) ≤ weight bytes := by
  have heavy (b : UInt8) (rest : Bytes) (other : ∀ c, scan b rest ≠ .character c 1) : ¬ b < 128 :=
    fun ascii => other _ (scan_ascii (UInt8.lt_iff_toNat_lt.1 ascii) rest)
  induction bytes using decodeLossy_induction with
  | nil => simp [decodeLossy_nil]
  | character b rest c size scanned ih =>
    obtain ⟨tail, more, rfl, rfl, spelled⟩ := scan_character scanned
    have size : c.utf8Size = (b :: tail).length := by
      rw [← String.length_utf8EncodeChar, spelled]
    have enough := length_le_weight (b :: tail)
    rw [decodeLossy_cons, scanned, ← List.cons_append, weight_append, width_cons, size]
    exact Nat.add_le_add enough (by simpa using ih)
  | malformed b rest size scanned ih =>
    have later := weight_drop (size - 1) rest
    rw [decodeLossy_cons, scanned, weight_cons, if_neg (heavy b rest (by simp [scanned])), width_cons,
      utf8Size_replacement]
    omega
  | truncated b rest cut =>
    rw [decodeLossy_cons, cut, weight_cons, if_neg (heavy b rest (by simp [cut])), width_cons,
      utf8Size_replacement, width_nil]
    omega

theorem decodeLossy_encode (cs : List Char) (rest : Bytes) :
    decodeLossy (encode cs ++ rest) = cs ++ decodeLossy rest := by
  induction cs with
  | nil => rfl
  | cons c cs ih =>
    obtain ⟨b, tail, spelled, scanned⟩ := scan_utf8EncodeChar c (encode cs ++ rest)
    have first : encode (c :: cs) = b :: tail ++ encode cs := by
      rw [← spelled]
      rfl
    rw [first, List.append_assoc, List.cons_append, decodeLossy_cons, scanned]
    simp [ih]

theorem decodeLossy_of_decode {bytes : Bytes} {cs : List Char} (decoded : decode bytes = .ok cs) :
    decodeLossy bytes = cs := by
  rw [← encode_of_decode decoded, ← List.append_nil (encode cs), decodeLossy_encode,
    decodeLossy_nil, List.append_nil]

end MailRelay.Utf8
