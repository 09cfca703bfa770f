import MailRelay.Text.Ascii
import MailRelay.Text.Blank

set_option autoImplicit false

namespace MailRelay.Text

def AllDigits (s : List Char) : Prop :=
  ∀ c ∈ s, c.isDigit = true

theorem toNat_of_isDigit {c : Char} (digit : c.isDigit = true) :
    48 ≤ c.toNat ∧ c.toNat ≤ 57 := by
  simpa [Char.isDigit, UInt32.le_iff_toNat_le] using digit

theorem isBlank_of_isDigit {c : Char} (digit : c.isDigit = true) : isBlank c = false := by
  have numeral := toNat_of_isDigit digit
  simp only [isBlank, Bool.or_eq_false_iff, Bool.and_eq_false_iff, decide_eq_false_iff_not,
    beq_eq_false_iff_ne]
  omega

theorem foldl_digits {s : List Char} (digits : AllDigits s) (n : Nat) :
    s.foldl (fun n c => n.bind fun n => (digit? c).map (10 * n + ·)) (some n) =
      some (Nat.ofDigitChars 10 s n) := by
  induction s generalizing n with
  | nil => rfl
  | cons c rest ih =>
    have first : digit? c = some (c.toNat - '0'.toNat) := if_pos (digits c List.mem_cons_self)
    have others : AllDigits rest := fun d member => digits d (List.mem_cons_of_mem _ member)
    rw [List.foldl_cons, Option.bind_some, first, Option.map_some, ih others,
      Nat.ofDigitChars_cons]

theorem natural?_of_digits {s : List Char} (digits : AllDigits s) (filled : s ≠ []) :
    natural? s = some (Nat.ofDigitChars 10 s 0) := by
  cases s with
  | nil => exact absurd rfl filled
  | cons c rest => exact foldl_digits digits 0

theorem toList_padded (width n : Nat) :
    (padded width n).toList =
      List.replicate (width - (Nat.toDigits 10 n).length) '0' ++ Nat.toDigits 10 n := by
  have length : n.repr.length = (Nat.toDigits 10 n).length := by
    rw [← String.length_toList, Nat.toList_repr]
  simp [padded, length]

theorem allDigits_padded (width n : Nat) : AllDigits (padded width n).toList := by
  intro c member
  rw [toList_padded, List.mem_append, List.mem_replicate] at member
  rcases member with ⟨-, rfl⟩ | member
  · decide
  · exact Nat.isDigit_of_mem_toDigits (by decide) (by decide) member

theorem padded_ne_nil (width n : Nat) : (padded width n).toList ≠ [] := by
  simp [toList_padded]

theorem length_padded {width n : Nat} (positive : 0 < width) (fits : n < Nat.pow 10 width) :
    (padded width n).toList.length = width := by
  have short := (Nat.length_toDigits_le_iff (by decide) positive).2 fits
  rw [toList_padded, List.length_append, List.length_replicate]
  omega

theorem natural?_padded (width n : Nat) : natural? (padded width n).toList = some n := by
  rw [natural?_of_digits (allDigits_padded width n) (padded_ne_nil width n), toList_padded,
    Nat.ofDigitChars_append, Nat.ofDigitChars_replicate_zero, Nat.mul_zero,
    Nat.ofDigitChars_ten_toDigits]

end MailRelay.Text
