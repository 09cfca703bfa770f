import MailRelay.Text.Ascii
import MailRelay.Text.Utf8

set_option autoImplicit false

namespace MailRelay

namespace Utf8

theorem ofString_eq_encode (s : String) : ofString s = encode s.toList := by
  have bytes := String.utf8Encode_toList (b := s)
  rw [ofString, String.toUTF8_eq_toByteArray, ← bytes, List.utf8Encode, List.data_toByteArray]
  rfl

theorem ofString_append (s t : String) : ofString (s ++ t) = ofString s ++ ofString t := by
  simp [ofString_eq_encode, encode]

-- Every byte of a character outside ASCII has its highest bit set.
theorem mem_utf8EncodeChar_iff (c : Char) {b : UInt8} (ascii : b.toNat < 128) :
    b ∈ String.utf8EncodeChar c ↔ c.toNat = b.toNat := by
  have number : c.toNat = c.val.toNat := rfl
  unfold String.utf8EncodeChar
  simp only [number]
  split
  · simp only [List.mem_singleton, ← UInt8.toNat_inj, UInt8.toNat_ofNat']
    omega
  · split
    · simp only [List.mem_cons, List.not_mem_nil, or_false, ← UInt8.toNat_inj, UInt8.toNat_ofNat']
      omega
    · split
      · simp only [List.mem_cons, List.not_mem_nil, or_false, ← UInt8.toNat_inj,
          UInt8.toNat_ofNat']
        omega
      · simp only [List.mem_cons, List.not_mem_nil, or_false, ← UInt8.toNat_inj,
          UInt8.toNat_ofNat']
        omega

theorem mem_ofString_iff (s : String) (c : Char) (ascii : c.toNat < 128) :
    UInt8.ofNat c.toNat ∈ ofString s ↔ c ∈ s.toList := by
  have number : (UInt8.ofNat c.toNat).toNat = c.toNat := by
    rw [UInt8.toNat_ofNat']
    omega
  rw [ofString_eq_encode, encode, List.mem_flatMap]
  constructor
  · rintro ⟨other, member, byte⟩
    have same := (mem_utf8EncodeChar_iff other (by omega)).1 byte
    rw [number] at same
    rwa [← Char.ofNat_toNat c, ← same, Char.ofNat_toNat]
  · intro member
    exact ⟨c, member, (mem_utf8EncodeChar_iff c (by omega)).2 number.symm⟩

theorem scan_ascii {b : UInt8} (ascii : b.toNat < 128) (rest : Bytes) :
    scan b rest = .character (Char.ofNat b.toNat) 1 := by
  have below : b < 0x80 := UInt8.lt_iff_toNat_lt.2 ascii
  rw [scan, if_pos below]

theorem decodeAfter_ascii (bytes : Bytes) (ascii : ∀ b ∈ bytes, b.toNat < 128)
    (read : List Char) (index : Nat) :
    decodeAfter read index bytes =
      .ok (read.reverse ++ bytes.map fun b => Char.ofNat b.toNat) := by
  induction bytes generalizing read index with
  | nil => simp [decodeAfter]
  | cons b rest ih =>
    rw [List.forall_mem_cons] at ascii
    rw [decodeAfter, scan_ascii ascii.1]
    simp [ih ascii.2]

theorem decode_ascii {bytes : Bytes} (ascii : ∀ b ∈ bytes, b.toNat < 128) :
    decode bytes = .ok (bytes.map fun b => Char.ofNat b.toNat) :=
  decodeAfter_ascii bytes ascii [] 0

end Utf8

namespace Text

theorem hasLineBreak_eq_false_iff (s : String) :
    hasLineBreak s = false ↔ '\r' ∉ s.toList ∧ '\n' ∉ s.toList := by
  simp only [hasLineBreak, List.any_eq_false, Bool.or_eq_true, beq_iff_eq, not_or]
  constructor
  · intro clean
    exact ⟨fun member => (clean _ member).1 rfl, fun member => (clean _ member).2 rfl⟩
  · rintro ⟨noReturn, noFeed⟩ c member
    exact ⟨fun same => noReturn (same ▸ member), fun same => noFeed (same ▸ member)⟩

theorem hasLineBreak_append (s t : String) :
    hasLineBreak (s ++ t) = (hasLineBreak s || hasLineBreak t) := by
  simp [hasLineBreak]

end Text

-- Induction along the lines of an input, up to what follows the last line feed.
theorem line_induction {P : Bytes → Prop} (tail : ∀ bytes, 10 ∉ bytes → P bytes)
    (line : ∀ raw rest, 10 ∉ raw → P rest → P (raw ++ 10 :: rest)) (bytes : Bytes) : P bytes := by
  by_cases ended : 10 ∈ bytes
  · obtain ⟨raw, rest, rfl, single⟩ := List.eq_append_cons_of_mem ended
    exact line raw rest single (line_induction tail line rest)
  · exact tail bytes ended
  termination_by bytes.length
  decreasing_by subst_vars; simp only [List.length_append, List.length_cons]; omega

def IsLine (bytes : Bytes) : Prop :=
  ∃ body, bytes = body ++ [13, 10] ∧ 13 ∉ body ∧ 10 ∉ body

def IsEnded (bytes : Bytes) : Prop :=
  ∃ raw, bytes = raw ++ [10] ∧ 10 ∉ raw

theorem isLine_ofString_iff (s : String) :
    IsLine (Utf8.ofString (s ++ "\r\n")) ↔ Text.hasLineBreak s = false := by
  have ending : Utf8.ofString "\r\n" = [13, 10] := by decide
  have returns : 13 ∈ Utf8.ofString s ↔ '\r' ∈ s.toList := Utf8.mem_ofString_iff s '\r' (by decide)
  have feeds : 10 ∈ Utf8.ofString s ↔ '\n' ∈ s.toList := Utf8.mem_ofString_iff s '\n' (by decide)
  rw [Utf8.ofString_append, ending, Text.hasLineBreak_eq_false_iff, ← returns, ← feeds]
  constructor
  · rintro ⟨body, same, clean⟩
    rwa [List.append_cancel_right same]
  · intro clean
    exact ⟨_, rfl, clean⟩

end MailRelay
