import MailRelay.Proofs.Text.Utf8
import Mathlib.Data.Bool.Basic

set_option autoImplicit false

namespace MailRelay

namespace Utf8

theorem isTail_iff {b : UInt8} : isTail b = true ↔ 0x80 ≤ b.toNat ∧ b.toNat ≤ 0xBF := by
  simp [isTail, UInt8.le_iff_toNat_le]

theorem payload_ofNat (n : Nat) : payload (UInt8.ofNat (n % 64 + 128)) = n % 64 := by
  simp only [payload, UInt8.toNat_ofNat']
  omega

theorem isTail_ofNat (n : Nat) : isTail (UInt8.ofNat (n % 64 + 128)) = true := by
  simp only [isTail_iff, UInt8.toNat_ofNat']
  omega

inductive Spelling : Bytes → Nat → Prop where
  | one {b : UInt8} (ascii : b.toNat < 0x80) : Spelling [b] b.toNat
  | two {b b₁ : UInt8} (first : 0xC2 ≤ b.toNat ∧ b.toNat ≤ 0xDF) (tail : isTail b₁ = true) :
    Spelling [b, b₁] (b.toNat % 32 * 64 + payload b₁)
  | three {b b₁ b₂ : UInt8} (first : 0xE0 ≤ b.toNat ∧ b.toNat ≤ 0xEF)
      (tail₁ : isTail b₁ = true) (tail₂ : isTail b₂ = true)
      (low : b.toNat = 0xE0 → 0xA0 ≤ b₁.toNat) (high : b.toNat = 0xED → b₁.toNat ≤ 0x9F) :
    Spelling [b, b₁, b₂] (b.toNat % 16 * 4096 + payload b₁ * 64 + payload b₂)
  | four {b b₁ b₂ b₃ : UInt8} (first : 0xF0 ≤ b.toNat ∧ b.toNat ≤ 0xF4)
      (tail₁ : isTail b₁ = true) (tail₂ : isTail b₂ = true) (tail₃ : isTail b₃ = true)
      (low : b.toNat = 0xF0 → 0x90 ≤ b₁.toNat) (high : b.toNat = 0xF4 → b₁.toNat ≤ 0x8F) :
    Spelling [b, b₁, b₂, b₃]
      (b.toNat % 8 * 262144 + payload b₁ * 4096 + payload b₂ * 64 + payload b₃)

namespace Spelling

variable {bytes : Bytes} {n : Nat}

theorem valid (spelling : Spelling bytes n) : n.isValidChar := by
  unfold Nat.isValidChar
  cases spelling with
  | one ascii => omega
  | two first tail =>
    simp only [payload]
    omega
  | three first tail₁ tail₂ low high =>
    simp only [isTail_iff, payload] at *
    omega
  | four first tail₁ tail₂ tail₃ low high =>
    simp only [isTail_iff, payload] at *
    omega

theorem utf8EncodeChar_eq (spelling : Spelling bytes n) :
    String.utf8EncodeChar (Char.ofNat n) = bytes := by
  have number : (Char.ofNat n).val.toNat = n := by
    rw [Char.ofNat, dif_pos spelling.valid]
    rfl
  have value (b : UInt8) : payload b = b.toNat % 64 := rfl
  unfold String.utf8EncodeChar
  simp only [number]
  cases spelling with
  | one ascii => rw [if_pos (by omega), UInt8.ofNat_toNat]
  | @two b b₁ first tail =>
    have := value b₁
    rw [isTail_iff] at tail
    rw [if_neg (by omega), if_pos (by omega)]
    simp only [List.cons.injEq, ← UInt8.toNat_inj, UInt8.toNat_ofNat', and_true]
    omega
  | @three b b₁ b₂ first tail₁ tail₂ low high =>
    have := value b₁
    have := value b₂
    rw [isTail_iff] at tail₁ tail₂
    rw [if_neg (by omega), if_neg (by omega), if_pos (by omega)]
    simp only [List.cons.injEq, ← UInt8.toNat_inj, UInt8.toNat_ofNat', and_true]
    omega
  | @four b b₁ b₂ b₃ first tail₁ tail₂ tail₃ low high =>
    have := value b₁
    have := value b₂
    have := value b₃
    rw [isTail_iff] at tail₁ tail₂ tail₃
    rw [if_neg (by omega), if_neg (by omega), if_neg (by omega)]
    simp only [List.cons.injEq, ← UInt8.toNat_inj, UInt8.toNat_ofNat', and_true]
    omega

end Spelling

theorem spelling_char (c : Char) : Spelling (String.utf8EncodeChar c) c.toNat := by
  have valid : c.toNat < 0xD800 ∨ (0xDFFF < c.toNat ∧ c.toNat < 0x110000) := c.valid
  have number : c.val.toNat = c.toNat := rfl
  unfold String.utf8EncodeChar
  simp only [number]
  generalize c.toNat = n at valid
  split
  · have first : (UInt8.ofNat n).toNat = n := by
      rw [UInt8.toNat_ofNat']
      omega
    have spelling := Spelling.one (b := UInt8.ofNat n) (by omega)
    rwa [first] at spelling
  split
  · have first : (UInt8.ofNat (n / 64 % 32 + 192)).toNat = n / 64 + 192 := by
      rw [UInt8.toNat_ofNat']
      omega
    have sum : (n / 64 + 192) % 32 * 64 + n % 64 = n := by omega
    have spelling := Spelling.two (b := UInt8.ofNat (n / 64 % 32 + 192)) (by omega) (isTail_ofNat n)
    rwa [first, payload_ofNat, sum] at spelling
  split
  · have first : (UInt8.ofNat (n / 4096 % 16 + 224)).toNat = n / 4096 + 224 := by
      rw [UInt8.toNat_ofNat']
      omega
    have next : (UInt8.ofNat (n / 64 % 64 + 128)).toNat = n / 64 % 64 + 128 := by
      rw [UInt8.toNat_ofNat']
      omega
    have sum : (n / 4096 + 224) % 16 * 4096 + n / 64 % 64 * 64 + n % 64 = n := by omega
    have spelling := Spelling.three (b := UInt8.ofNat (n / 4096 % 16 + 224)) (by omega)
      (isTail_ofNat (n / 64)) (isTail_ofNat n) (by omega) (by omega)
    rwa [first, payload_ofNat, payload_ofNat, sum] at spelling
  · have first : (UInt8.ofNat (n / 262144 % 8 + 240)).toNat = n / 262144 + 240 := by
      rw [UInt8.toNat_ofNat']
      omega
    have next : (UInt8.ofNat (n / 4096 % 64 + 128)).toNat = n / 4096 % 64 + 128 := by
      rw [UInt8.toNat_ofNat']
      omega
    have sum : (n / 262144 + 240) % 8 * 262144 + n / 4096 % 64 * 4096 + n / 64 % 64 * 64 +
        n % 64 = n := by omega
    have spelling := Spelling.four (b := UInt8.ofNat (n / 262144 % 8 + 240)) (by omega)
      (isTail_ofNat (n / 4096)) (isTail_ofNat (n / 64)) (isTail_ofNat n) (by omega) (by omega)
    rwa [first, payload_ofNat, payload_ofNat, payload_ofNat, sum] at spelling

variable {b : UInt8} {lead : Lead} {rest : Bytes} {c : Char} {size : Nat}

def Lead.Fits (b : UInt8) (lead : Lead) : Prop :=
  (lead.tail = 1 ∧ (0xC2 ≤ b.toNat ∧ b.toNat ≤ 0xDF) ∧
    ∀ x : UInt8, lead.low ≤ x ∧ x ≤ lead.high ↔ isTail x = true) ∨
  (lead.tail = 2 ∧ (0xE0 ≤ b.toNat ∧ b.toNat ≤ 0xEF) ∧
    ∀ x : UInt8, lead.low ≤ x ∧ x ≤ lead.high ↔
      isTail x = true ∧ (b.toNat = 0xE0 → 0xA0 ≤ x.toNat) ∧ (b.toNat = 0xED → x.toNat ≤ 0x9F)) ∨
  (lead.tail = 3 ∧ (0xF0 ≤ b.toNat ∧ b.toNat ≤ 0xF4) ∧
    ∀ x : UInt8, lead.low ≤ x ∧ x ≤ lead.high ↔
      isTail x = true ∧ (b.toNat = 0xF0 → 0x90 ≤ x.toNat) ∧ (b.toNat = 0xF4 → x.toNat ≤ 0x8F))

theorem fits_of_lead? (found : lead? b = some lead) : lead.Fits b := by
  simp only [lead?, UInt8.le_iff_toNat_le, Bool.and_eq_true, decide_eq_true_eq, beq_iff_eq,
    ← UInt8.toNat_inj, UInt8.reduceToNat] at found
  simp only [Lead.Fits, isTail_iff, UInt8.le_iff_toNat_le]
  repeat' split at found
  all_goals cases found
  all_goals simp only [UInt8.reduceToNat]
  all_goals grind

theorem lead?_isSome (first : 0xC2 ≤ b.toNat ∧ b.toNat ≤ 0xF4) : ∃ lead, lead? b = some lead := by
  simp only [lead?, UInt8.le_iff_toNat_le, Bool.and_eq_true, decide_eq_true_eq, beq_iff_eq,
    ← UInt8.toNat_inj, UInt8.reduceToNat]
  repeat' split
  all_goals first | exact ⟨_, rfl⟩ | omega

theorem scan_of_spelling {bytes : Bytes} {n : Nat} (spelling : Spelling (b :: bytes) n)
    (rest : Bytes) : scan b (bytes ++ rest) = .character (Char.ofNat n) (bytes.length + 1) := by
  have above (high : 0xC2 ≤ b.toNat) : ¬ b < 0x80 := by
    have limit : (0x80 : UInt8).toNat = 0x80 := rfl
    rw [UInt8.lt_iff_toNat_lt]
    omega
  cases spelling with
  | one ascii => exact scan_ascii ascii rest
  | two first tail =>
    obtain ⟨lead, found⟩ := lead?_isSome (b := b) (by omega)
    rcases fits_of_lead? found with ⟨size, -, next⟩ | ⟨-, other, -⟩ | ⟨-, other, -⟩
    · simp [scan, above first.1, found, size, (next _).2 tail]
    · omega
    · omega
  | three first tail₁ tail₂ low high =>
    obtain ⟨lead, found⟩ := lead?_isSome (b := b) (by omega)
    rcases fits_of_lead? found with ⟨-, other, -⟩ | ⟨size, -, next⟩ | ⟨-, other, -⟩
    · omega
    · simp [scan, above (by omega), found, size, (next _).2 ⟨tail₁, low, high⟩, tail₂]
    · omega
  | four first tail₁ tail₂ tail₃ low high =>
    obtain ⟨lead, found⟩ := lead?_isSome (b := b) (by omega)
    rcases fits_of_lead? found with ⟨-, other, -⟩ | ⟨-, other, -⟩ | ⟨size, -, next⟩
    · omega
    · omega
    · simp [scan, above (by omega), found, size, (next _).2 ⟨tail₁, low, high⟩, tail₂, tail₃]

theorem spelling_of_scan (scanned : scan b rest = .character c size) :
    ∃ tail more n, rest = tail ++ more ∧ size = tail.length + 1 ∧ c = Char.ofNat n ∧
      Spelling (b :: tail) n := by
  unfold scan at scanned
  split at scanned
  · next ascii =>
    cases scanned
    exact ⟨[], rest, _, rfl, rfl, rfl, .one (by simpa [UInt8.lt_iff_toNat_lt] using ascii)⟩
  split at scanned
  · cases scanned
  next lead found =>
  split at scanned
  · cases scanned
  next b₁ rest =>
  split at scanned
  · cases scanned
  next allowed =>
  have allowed : lead.low ≤ b₁ ∧ b₁ ≤ lead.high := by simpa using allowed
  -- The first byte says how many there are.
  rcases fits_of_lead? found with ⟨size, first, next⟩ | ⟨size, first, next⟩ | ⟨size, first, next⟩
  · simp only [size, beq_self_eq_true, if_true] at scanned
    cases scanned
    exact ⟨[b₁], rest, _, rfl, rfl, rfl, .two first ((next b₁).1 allowed)⟩
  · obtain ⟨tail₁, low, high⟩ := (next b₁).1 allowed
    simp only [size, Nat.reduceBEq, Bool.false_eq_true, if_false] at scanned
    split at scanned
    · cases scanned
    split at scanned
    · cases scanned
    next b₂ rest tail₂ =>
    cases scanned
    exact ⟨[b₁, b₂], rest, _, rfl, rfl, rfl, .three first tail₁ (by simpa using tail₂) low high⟩
  · obtain ⟨tail₁, low, high⟩ := (next b₁).1 allowed
    simp only [size, Nat.reduceBEq, Bool.false_eq_true, if_false] at scanned
    split at scanned
    · cases scanned
    split at scanned
    · cases scanned
    next b₂ rest tail₂ =>
    split at scanned
    · cases scanned
    next b₃ rest =>
    split at scanned
    · cases scanned
    next tail₃ =>
    cases scanned
    exact ⟨[b₁, b₂, b₃], rest, _, rfl, rfl, rfl,
      .four first tail₁ (by simpa using tail₂) (by simpa using tail₃) low high⟩

theorem scan_character (scanned : scan b rest = .character c size) :
    ∃ tail more, rest = tail ++ more ∧ size = tail.length + 1 ∧
      String.utf8EncodeChar c = b :: tail := by
  obtain ⟨tail, more, n, parts, sized, rfl, spelling⟩ := spelling_of_scan scanned
  exact ⟨tail, more, parts, sized, spelling.utf8EncodeChar_eq⟩

theorem scan_utf8EncodeChar (c : Char) (rest : Bytes) :
    ∃ b tail, String.utf8EncodeChar c = b :: tail ∧
      scan b (tail ++ rest) = .character c (tail.length + 1) := by
  have spelling := spelling_char c
  cases spelled : String.utf8EncodeChar c with
  | nil => simp at spelled
  | cons b tail =>
    rw [spelled] at spelling
    exact ⟨b, tail, rfl, by rw [scan_of_spelling spelling, Char.ofNat_toNat]⟩

theorem decodeAfter_encode (cs : List Char) (rest : Bytes) (read : List Char) (index : Nat) :
    decodeAfter read index (encode cs ++ rest) =
      decodeAfter (cs.reverse ++ read) (index + (encode cs).length) rest := by
  induction cs generalizing read index with
  | nil => rfl
  | cons c cs ih =>
    obtain ⟨b, tail, spelled, scanned⟩ := scan_utf8EncodeChar c (encode cs ++ rest)
    have first : encode (c :: cs) = b :: tail ++ encode cs := by
      rw [← spelled]
      rfl
    rw [first, List.append_assoc, List.cons_append, decodeAfter, scanned]
    simp [ih, Nat.add_assoc, Nat.add_comm, Nat.add_left_comm]

theorem decode_encode (cs : List Char) : decode (encode cs) = .ok cs := by
  have decoded := decodeAfter_encode cs [] [] 0
  rw [List.append_nil] at decoded
  rw [decode, decoded, decodeAfter]
  simp

theorem ofString_injective {s t : String} (same : ofString s = ofString t) : s = t := by
  rw [ofString_eq_encode, ofString_eq_encode] at same
  have decoded := decode_encode s.toList
  rw [same, decode_encode, Except.ok.injEq] at decoded
  exact String.toList_inj.1 decoded.symm

theorem ofString_eq_nil_iff {s : String} : ofString s = [] ↔ s = "" := by
  have empty : ofString "" = [] := rfl
  constructor
  · intro none
    exact ofString_injective (none.trans empty.symm)
  · rintro rfl
    exact empty

theorem encode_of_decodeAfter {bytes : Bytes} {read cs : List Char} {index : Nat}
    (decoded : decodeAfter read index bytes = .ok cs) :
    encode cs = encode read.reverse ++ bytes := by
  fun_induction decodeAfter read index bytes with
  | case1 =>
    cases decoded
    simp
  | case2 read index b rest c size scanned ih =>
    obtain ⟨tail, more, rfl, rfl, spelled⟩ := scan_character scanned
    rw [ih decoded]
    simp [encode, spelled]
  | case3 => cases decoded
  | case4 => cases decoded

theorem encode_of_decode {bytes : Bytes} {cs : List Char} (decoded : decode bytes = .ok cs) :
    encode cs = bytes :=
  encode_of_decodeAfter decoded

theorem encode_append (first second : List Char) :
    encode (first ++ second) = encode first ++ encode second :=
  List.flatMap_append

theorem mem_encode_iff (cs : List Char) (c : Char) (ascii : c.toNat < 128) :
    UInt8.ofNat c.toNat ∈ encode cs ↔ c ∈ cs := by
  have same := mem_ofString_iff (String.ofList cs) c ascii
  rwa [ofString_eq_encode, String.toList_ofList] at same

theorem decodeLossyAfter_eq (read : List Char) (bytes : Bytes) :
    decodeLossyAfter read bytes = read.reverse ++ decodeLossy bytes := by
  rw [decodeLossy]
  suffices every : ∀ more, decodeLossyAfter more bytes = more.reverse ++ decodeLossyAfter [] bytes
    from every read
  induction read, bytes using decodeLossyAfter.induct with
  | case1 => simp [decodeLossyAfter]
  | case2 read b rest c size scanned ih | case3 read b rest size scanned ih =>
    intro more
    simp only [decodeLossyAfter, scanned]
    rw [ih, ih [_]]
    simp
  | case4 read b rest scanned =>
    intro more
    simp [decodeLossyAfter, scanned]

theorem decodeLossy_nil : decodeLossy [] = [] := by
  simp [decodeLossy, decodeLossyAfter]

theorem decodeLossy_cons (b : UInt8) (rest : Bytes) :
    decodeLossy (b :: rest) =
      match scan b rest with
      | .character c size => c :: decodeLossy (rest.drop (size - 1))
      | .malformed size => replacement :: decodeLossy (rest.drop (size - 1))
      | .truncated => [replacement] := by
  rw [decodeLossy, decodeLossyAfter]
  cases scan b rest <;> simp [decodeLossyAfter_eq]

-- Induction along what is read: a character, or a stretch that is none.
theorem decodeLossy_induction {P : Bytes → Prop} (nil : P [])
    (character : ∀ b rest c size, scan b rest = .character c size → P (rest.drop (size - 1)) →
      P (b :: rest))
    (malformed : ∀ b rest size, scan b rest = .malformed size → P (rest.drop (size - 1)) →
      P (b :: rest))
    (truncated : ∀ b rest, scan b rest = .truncated → P (b :: rest)) (bytes : Bytes) : P bytes := by
  have every (read : List Char) : P bytes := by
    induction read, bytes using decodeLossyAfter.induct with
    | case1 => exact nil
    | case2 read b rest c size scanned ih => exact character b rest c size scanned ih
    | case3 read b rest size scanned ih => exact malformed b rest size scanned ih
    | case4 read b rest scanned => exact truncated b rest scanned
  exact every []

end Utf8

end MailRelay
