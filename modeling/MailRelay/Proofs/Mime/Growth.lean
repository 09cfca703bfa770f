import MailRelay.Mime.Part
import MailRelay.Proofs.Text.Width

set_option autoImplicit false

namespace MailRelay

open Utf8

namespace Base64

theorem length_group {a b c d : UInt8} {bytes : Bytes} (read : group? a b c d = some bytes) :
    bytes.length ≤ 3 := by
  simp only [group?, Option.bind_eq_bind, Option.bind_eq_some_iff] at read
  obtain ⟨x, -, y, -, read⟩ := read
  split at read
  · cases read
    simp
  obtain ⟨z, -, read⟩ := Option.bind_eq_some_iff.1 read
  split at read
  · cases read
    simp
  obtain ⟨w, -, read⟩ := Option.bind_eq_some_iff.1 read
  cases read
  simp

theorem length_decodeAfter {read text bytes : Bytes} (decoded : decodeAfter? read text = some bytes) :
    bytes.length ≤ read.length + text.length := by
  fun_induction decodeAfter? read text with
  | case1 read a b c d rest group found ih =>
    have short := length_group found
    have later := ih decoded
    simp only [List.length_append, List.length_reverse, List.length_cons] at later ⊢
    omega
  | case2 => cases decoded
  | case3 =>
    cases decoded
    simp
  | case4 => cases decoded

end Base64

namespace QuotedText

/-- Every line that a line feed ends has a carriage return in front of it. -/
def HasReturns (bytes : Bytes) : Prop :=
  ∀ line ∈ (splitLines bytes).dropLast, line.getLast? = some 13

theorem splitLines_tail {bytes : Bytes} (tail : 10 ∉ bytes) : splitLines bytes = [bytes] :=
  List.splitOn_eq_singleton tail

theorem splitLines_line {raw : Bytes} (single : 10 ∉ raw) (rest : Bytes) :
    splitLines (raw ++ 10 :: rest) = raw :: splitLines rest :=
  List.splitOn_append_cons_self_of_not_mem single rest

theorem splitLines_ne_nil (bytes : Bytes) : splitLines bytes ≠ [] :=
  List.splitOn_ne_nil 10 bytes

theorem hasReturns_line {raw rest : Bytes} (single : 10 ∉ raw) :
    HasReturns (raw ++ 10 :: rest) ↔ raw.getLast? = some 13 ∧ HasReturns rest := by
  rw [HasReturns, splitLines_line single, List.dropLast_cons_of_ne_nil (splitLines_ne_nil rest),
    List.forall_mem_cons]
  rfl

theorem HasReturns.filter_isKept {bytes : Bytes} (returns : HasReturns bytes) :
    HasReturns (bytes.filter isKept) := by
  induction bytes using line_induction with
  | tail bytes tail =>
    have gone : 10 ∉ bytes.filter isKept := fun member => tail (List.mem_filter.1 member).1
    rw [HasReturns, splitLines_tail gone]
    exact List.forall_mem_nil _
  | line raw rest single ih =>
    have gone : 10 ∉ raw.filter isKept := fun member => single (List.mem_filter.1 member).1
    obtain ⟨last, later⟩ := (hasReturns_line single).1 returns
    obtain ⟨front, rfl⟩ := List.getLast?_eq_some_iff.1 last
    rw [List.filter_append, List.filter_cons_of_pos (by decide), hasReturns_line gone]
    refine ⟨?_, ih later⟩
    rw [List.filter_append, List.filter_cons_of_pos (by decide)]
    simp

theorem weight_decodeLine (read line : Bytes) (ascii : ∀ b ∈ line, b < 128) :
    weight (decodeLine read line).1 ≤ weight read + line.length := by
  fun_induction decodeLine read line with
  | case1 => simp
  | case2 read b rest other ih =>
    obtain ⟨first, others⟩ := List.forall_mem_cons.1 ascii
    have later := ih others
    rw [weight_cons, if_pos first] at later
    rw [List.length_cons]
    omega
  | case3 => simp
  | case4 read b escaped c =>
    have second : c < 128 := ascii c (by simp)
    rw [weight_cons, weight_cons, if_pos second, if_pos (by decide : escape < 128)]
    simp only [List.length_cons, List.length_nil]
    omega
  | case5 read b escaped c d rest x y _ _ ih =>
    have later := ih fun b member => ascii b (by simp [member])
    have light := weight_cons_le (UInt8.ofNat (x * 16 + y)) read
    simp only [List.length_cons]
    omega
  | case6 read b escaped c d rest none ih =>
    have later := ih fun b member => ascii b (by simp [member])
    have second : c < 128 := ascii c (by simp)
    have third : d < 128 := ascii d (by simp)
    rw [weight_cons, weight_cons, weight_cons, if_pos second, if_pos third,
      if_pos (by decide : escape < 128)] at later
    simp only [List.length_cons]
    omega

theorem trimEnd_sublist (line : Bytes) : (trimEnd line).Sublist line := by
  have short := List.dropWhile_sublist isBlank (l := line.reverse)
  simpa [trimEnd] using short.reverse

theorem length_trimEnd_of_return {line : Bytes} (returns : line.getLast? = some 13) :
    (trimEnd line).length + 1 ≤ line.length := by
  obtain ⟨front, rfl⟩ := List.getLast?_eq_some_iff.1 returns
  have dropped : trimEnd (front ++ [13]) = trimEnd front := by
    simp [trimEnd, isBlank]
  rw [dropped, List.length_append, List.length_singleton]
  exact Nat.succ_le_succ (trimEnd_sublist front).length_le

-- A line feed becomes two bytes, but the return in front of it is none any more.
theorem weight_decodeLines (bytes : Bytes) (ascii : ∀ b ∈ bytes, b < 128) (read : Bytes) :
    weight (decodeLines read (splitLines bytes)) ≤ weight read + 2 * bytes.length ∧
      (HasReturns bytes →
        weight (decodeLines read (splitLines bytes)) ≤ weight read + bytes.length) := by
  induction bytes using line_induction generalizing read with
  | tail bytes tail =>
    have short := trimEnd_sublist bytes
    have light := weight_decodeLine read (trimEnd bytes) fun b member =>
      ascii b (short.subset member)
    have length := short.length_le
    rw [splitLines_tail tail, decodeLines, weight_reverse]
    exact ⟨by omega, fun _ => by omega⟩
  | line raw rest single ih =>
    obtain ⟨front, others⟩ := List.forall_mem_append.1 ascii
    have ih := ih (List.forall_mem_cons.1 others).2
    have short := trimEnd_sublist raw
    have light := weight_decodeLine read (trimEnd raw) fun b member => front b (short.subset member)
    have length := short.length_le
    obtain ⟨next, more, lines⟩ := List.exists_cons_of_ne_nil (splitLines_ne_nil rest)
    rw [splitLines_line single, hasReturns_line single, lines, decodeLines]
    · simp only [← lines, List.length_append, List.length_cons]
      generalize decodeLine read (trimEnd raw) = line at light
      obtain ⟨after, ends⟩ := line
      dsimp only at light
      have added : weight (10 :: 13 :: after) = 1 + (1 + weight after) := by
        rw [weight_cons, weight_cons, if_pos (by decide), if_pos (by decide)]
      cases ends with
      | true =>
        obtain ⟨twice, once⟩ := ih (10 :: 13 :: after)
        refine ⟨by dsimp only; omega, fun ⟨returns, later⟩ => ?_⟩
        have trimmed := length_trimEnd_of_return returns
        have := once later
        dsimp only
        omega
      | false =>
        obtain ⟨twice, once⟩ := ih after
        refine ⟨by dsimp only; omega, fun ⟨returns, later⟩ => ?_⟩
        have := once later
        dsimp only
        omega
    · exact fun none => by simp at none

theorem weight_decode (text : Bytes) :
    weight (decode text) ≤ 2 * text.length ∧
      (HasReturns text → weight (decode text) ≤ text.length) := by
  have ascii : ∀ b ∈ text.filter isKept, b < 128 := by
    intro b member
    have kept := (List.mem_filter.1 member).2
    simp only [isKept] at kept
    grind
  have length := List.length_filter_le isKept text
  obtain ⟨twice, once⟩ := weight_decodeLines _ ascii []
  rw [weight_nil] at twice once
  refine ⟨by rw [decode]; omega, fun returns => ?_⟩
  have := once returns.filter_isKept
  rw [decode]
  omega

end QuotedText

namespace Charset

theorem utf8Size_of_small {c : Char} (small : c.toNat < 0x10000) : c.utf8Size ≤ 3 := by
  have number : c.val ≤ 0xFFFF := UInt32.le_iff_toNat_le.2 (Nat.le_of_lt_succ small)
  rw [Char.utf8Size]
  split
  · decide
  split
  · decide
  split
  · exact Nat.le_refl 3
  · next large => exact absurd number large

theorem utf8Size_ofNat {n : Nat} (small : n < 0x10000) : (Char.ofNat n).utf8Size ≤ 3 := by
  refine utf8Size_of_small ?_
  by_cases valid : n.isValidChar
  · rw [Char.ofNat, dif_pos valid]
    exact small
  · rw [Char.ofNat, dif_neg valid]
    decide

theorem unit_lt (bigEndian : Bool) (a b : UInt8) : unit bigEndian a b < 0x10000 := by
  have first := a.toNat_lt
  have second := b.toNat_lt
  unfold unit
  split <;> omega

theorem width_decodeUnits (bigEndian : Bool) (high : Option Nat) (read : List Char) (bytes : Bytes) :
    width (decodeUnits bigEndian high read bytes) ≤
      width read + (if high.isSome then 3 else 0) + 3 * ((bytes.length + 1) / 2) := by
  fun_induction decodeUnits bigEndian high read bytes with
  | case1 read a b rest u h _ c ih =>
    have pair := Char.utf8Size_le_four c
    simp only [width_cons, Option.isSome, if_true, Bool.false_eq_true, if_false,
      List.length_cons] at ih ⊢
    omega
  | case2 read a b rest u h _ _ ih =>
    simp only [width_cons, utf8Size_replacement, Option.isSome, if_true, List.length_cons] at ih ⊢
    omega
  | case3 read a b rest u h _ _ ih | case6 read a b rest u _ _ ih =>
    have single : (Char.ofNat u).utf8Size ≤ 3 := utf8Size_ofNat (unit_lt bigEndian a b)
    simp only [width_cons, utf8Size_replacement, Option.isSome, if_true, Bool.false_eq_true,
      if_false, List.length_cons] at ih ⊢
    omega
  | case4 read a b rest u _ ih | case5 read a b rest u _ _ ih =>
    simp only [width_cons, utf8Size_replacement, Option.isSome, if_true, Bool.false_eq_true,
      if_false, List.length_cons] at ih ⊢
    omega
  | case7 high read b =>
    simp only [width_reverse, width_cons, utf8Size_replacement, List.length_cons, List.length_nil]
    omega
  | case8 high read =>
    cases high <;> simp [utf8Size_replacement, Nat.add_comm]

def Small (s : String) : Prop := ∀ c ∈ s.toList, c.utf8Size ≤ 3

theorem small_ofList (cs : List Char) (small : (cs.all fun c => c.utf8Size ≤ 3) = true) :
    Small (String.ofList cs) := by
  intro c member
  rw [String.toList_ofList] at member
  simpa using List.all_eq_true.1 small c member

theorem small_append_iff (s t : String) : Small (s ++ t) ↔ Small s ∧ Small t := by
  simp [Small, String.toList_append, or_imp, forall_and]

def IsNarrow : Charset → Prop
  | single upper => Small upper
  | _ => True

-- The tables are looked at piece by piece, since a long text takes long to be spelled out.
open Tables in
set_option maxRecDepth 100000 in
theorem narrow_of_labels : ∀ entry ∈ labels, entry.2.IsNarrow := by
  unfold labels windows1250 windows1251 windows1252 windows1253 windows1254 windows1255 windows1256
    windows1257 windows1258 windows874 ibm866 latin2 latin3 latin4 isoCyrillic isoArabic isoGreek
    isoHebrew latin6 latin7 latin8 latin9 latin10 koi8r koi8u macintosh macCyrillic
  simp only [List.forall_mem_cons, List.not_mem_nil, false_imp_iff, imp_true_iff, IsNarrow,
    true_and, and_true, small_append_iff]
  and_intros
  all_goals exact small_ofList _ (by decide +kernel)

theorem narrow_of_ofLabel {label : String} {set : Charset} (found : ofLabel? label = some set) :
    set.IsNarrow := by
  have narrow := narrow_of_labels
  unfold ofLabel? at found
  generalize labels = all at found narrow
  obtain ⟨entry, among, rfl⟩ := Option.map_eq_some_iff.1 found
  exact narrow entry (List.mem_of_find?_eq_some among)

def yield (bytes : Bytes) : Nat := max (weight bytes) (3 * ((bytes.length + 1) / 2))

theorem yield_le (bytes : Bytes) : yield bytes ≤ 3 * bytes.length := by
  have light := weight_le bytes
  rw [yield]
  omega

theorem width_map_le {f : UInt8 → Char} (bytes : Bytes)
    (light : ∀ b ∈ bytes, (f b).utf8Size ≤ if b < 128 then 1 else 3) :
    width (bytes.map f) ≤ weight bytes := by
  induction bytes with
  | nil => exact Nat.le_refl 0
  | cons b bytes ih =>
    obtain ⟨first, others⟩ := List.forall_mem_cons.1 light
    rw [List.map_cons, width_cons, weight_cons]
    exact Nat.add_le_add first (ih others)

theorem utf8Size_decodeByte {upper : String} (small : Small upper) (b : UInt8) :
    (decodeByte upper.toList.toArray b).utf8Size ≤ if b < 128 then 1 else 3 := by
  unfold decodeByte
  split
  · next ascii => exact Nat.le_of_eq (utf8Size_of_byte b ascii)
  · rw [Array.getD_eq_getD_getElem?, List.getElem?_toArray]
    cases found : upper.toList[b.toNat - 128]? with
    | none => exact Nat.le_of_eq utf8Size_replacement
    | some c => exact small c (List.mem_of_getElem? found)

/-- Whether ASCII in a set is ASCII. -/
def keepsAscii : Charset → Bool
  | utf16 _ | replaced => false
  | foreign set => set.keepsAscii
  | utf8 | single _ | userDefined => true

example : (ofLabel? "ISO-2022-JP").map keepsAscii = some false := by decide

/-- Whether ASCII bytes in a set may become anything, after others. -/
def isShifting : Charset → Bool
  | foreign set => !set.keepsAscii
  | _ => false

section

variable [ForeignDecoders]

theorem width_decode_le_weight {set : Charset} (narrow : set.IsNarrow)
    (keeps : set.keepsAscii = true) (bytes : Bytes) : width (set.decode bytes) ≤ weight bytes := by
  cases set with
  | utf8 => exact width_decodeLossy bytes
  | single upper => exact width_map_le bytes fun b _ => utf8Size_decodeByte narrow b
  | userDefined =>
    refine width_map_le bytes fun b _ => ?_
    have small := b.toNat_lt
    split
    · next ascii => exact Nat.le_of_eq (utf8Size_of_byte b ascii)
    · exact utf8Size_ofNat (by omega)
  | foreign set =>
    have keeps : set.keepsAscii = true := keeps
    have grows := ForeignDecoders.grows set bytes
    simp only [keeps, Bool.and_true] at grows
    rw [decode, width_eq_length, weight_eq]
    exact grows
  | utf16 | replaced => cases keeps

theorem width_decode {set : Charset} (narrow : set.IsNarrow) (steady : set.isShifting = false)
    (bytes : Bytes) : width (set.decode bytes) ≤ yield bytes := by
  cases keeps : set.keepsAscii with
  | true => exact Nat.le_trans (width_decode_le_weight narrow keeps bytes) (Nat.le_max_left ..)
  | false =>
    refine Nat.le_trans ?_ (Nat.le_max_right ..)
    cases set with
    | utf16 bigEndian =>
      have units := width_decodeUnits bigEndian none [] bytes
      rwa [width_nil, Option.isSome_none, if_neg Bool.false_ne_true, Nat.zero_add] at units
    | replaced =>
      cases bytes with
      | nil => exact Nat.zero_le _
      | cons b bytes =>
        rw [decode, if_neg (by simp), width_cons, width_nil, utf8Size_replacement, List.length_cons]
        omega
    | foreign set => simp_all [isShifting, keepsAscii]
    | utf8 | single | userDefined => cases keeps

theorem width_decode_thrice {set : Charset} (narrow : set.IsNarrow) (bytes : Bytes) :
    width (set.decode bytes) ≤ 3 * bytes.length := by
  cases steady : set.isShifting with
  | false => exact Nat.le_trans (width_decode narrow steady bytes) (yield_le bytes)
  | true =>
    cases set with
    | foreign set =>
      have shifts : set.keepsAscii = false := by simpa [isShifting] using steady
      have grows := ForeignDecoders.grows set bytes
      simp only [shifts, Bool.and_false, Bool.not_false, List.countP_true] at grows
      rw [decode, width_eq_length]
      omega
    | utf8 | utf16 | single | userDefined | replaced => cases steady

end

theorem width_decodeAscii (bytes : Bytes) : width (decodeAscii bytes) ≤ weight bytes := by
  refine width_map_le bytes fun b _ => ?_
  split
  · next ascii => exact Nat.le_of_eq (utf8Size_of_byte b ascii)
  · exact Nat.le_of_eq utf8Size_replacement

theorem marked_cases {bytes rest : Bytes} {set : Charset}
    (marked : marked? bytes = some (set, rest)) :
    set = utf8 ∧ bytes = encode ['\uFEFF'] ++ rest ∨
      (∃ bigEndian, set = utf16 bigEndian) ∧
        (bytes = 0xFF :: 0xFE :: rest ∨ bytes = 0xFE :: 0xFF :: rest) := by
  unfold marked? at marked
  split at marked
  · cases marked
    exact .inl ⟨rfl, rfl⟩
  · cases marked
    exact .inr ⟨⟨false, rfl⟩, .inl rfl⟩
  · cases marked
    exact .inr ⟨⟨true, rfl⟩, .inr rfl⟩
  · cases marked

theorem yield_append (first second : Bytes) : yield second ≤ yield (first ++ second) := by
  simp only [yield, weight_append, List.length_append]
  omega

variable [ForeignDecoders]

theorem decodeLabelled_cases (label : String) (bytes : Bytes) :
    decodeLabelled label bytes = decodeAscii bytes ∨
      ∃ set mark rest, set.IsNarrow ∧ (set.isShifting = true → ofLabel? label = some set) ∧
        bytes = mark ++ rest ∧ decodeLabelled label bytes = set.decode rest := by
  cases found : ofLabel? label with
  | none => exact .inl (by simp [decodeLabelled, found])
  | some set =>
    refine .inr ?_
    cases marked : marked? bytes with
    | none =>
      exact ⟨set, [], bytes, narrow_of_ofLabel found, fun _ => rfl, rfl,
        by simp [decodeLabelled, found, marked]⟩
    | some announced =>
      obtain ⟨set', rest⟩ := announced
      have read : decodeLabelled label bytes = set'.decode rest := by
        simp [decodeLabelled, found, marked]
      rcases marked_cases marked with ⟨rfl, same⟩ | ⟨⟨bigEndian, rfl⟩, same | same⟩
      · exact ⟨utf8, _, rest, trivial, nofun, same, read⟩
      · exact ⟨utf16 bigEndian, [0xFF, 0xFE], rest, trivial, nofun, same, read⟩
      · exact ⟨utf16 bigEndian, [0xFE, 0xFF], rest, trivial, nofun, same, read⟩

theorem width_decodeLabelled {label : String}
    (steady : ∀ set, ofLabel? label = some set → set.isShifting = false) (bytes : Bytes) :
    width (decodeLabelled label bytes) ≤ yield bytes := by
  rcases decodeLabelled_cases label bytes with ascii | ⟨set, mark, rest, narrow, named, rfl, read⟩
  · rw [ascii]
    exact Nat.le_trans (width_decodeAscii bytes) (Nat.le_max_left ..)
  · have steady : set.isShifting = false := by
      by_contra shifting
      exact shifting (steady set (named (Bool.of_not_eq_false shifting)))
    rw [read]
    exact Nat.le_trans (width_decode narrow steady rest) (yield_append mark rest)

theorem width_decodeLabelled_thrice (label : String) (bytes : Bytes) :
    width (decodeLabelled label bytes) ≤ 3 * bytes.length := by
  rcases decodeLabelled_cases label bytes with ascii | ⟨set, mark, rest, narrow, -, rfl, read⟩
  · rw [ascii]
    exact Nat.le_trans (width_decodeAscii bytes) (weight_le bytes)
  · have thrice := width_decode_thrice narrow rest
    rw [read, List.length_append]
    omega

/-- Text that is as long in UTF-8: ASCII in a set that has ASCII, or well-formed UTF-8. -/
def IsPlain (label : String) (bytes : Bytes) : Prop :=
  (∀ b ∈ bytes, b < 128) ∧ (∀ set, ofLabel? label = some set → set.keepsAscii = true) ∨
    ofLabel? label = some utf8 ∧ ∃ cs, Utf8.decode bytes = .ok cs

theorem width_of_isPlain {label : String} {bytes : Bytes} (plain : IsPlain label bytes) :
    width (decodeLabelled label bytes) ≤ bytes.length := by
  unfold decodeLabelled
  rcases plain with ⟨ascii, keeps⟩ | ⟨utf8, cs, decoded⟩
  · have unmarked : marked? bytes = none := by
      cases marked : marked? bytes with
      | none => rfl
      | some found =>
        rcases marked_cases marked with ⟨-, same⟩ | ⟨-, same | same⟩
        · exact absurd (ascii 0xEF (same ▸ List.mem_append_left _ (by decide))) (by decide)
        · exact absurd (ascii 0xFF (by simp [same])) (by decide)
        · exact absurd (ascii 0xFE (by simp [same])) (by decide)
    rw [unmarked, ← weight_ascii ascii]
    split
    · next set found =>
      exact width_decode_le_weight (narrow_of_ofLabel found) (keeps set found) bytes
    · exact width_decodeAscii bytes
  · have whole : width (decodeLossy bytes) = bytes.length := by
      rw [decodeLossy_of_decode decoded, width_eq_length, encode_of_decode decoded]
    rw [utf8]
    dsimp only
    split
    · next set rest marked =>
      rcases marked_cases marked with ⟨rfl, rfl⟩ | ⟨-, same⟩
      · rw [decodeLossy_encode, width_append] at whole
        exact Nat.le_trans (Nat.le_add_left ..) (Nat.le_of_eq whole)
      · exfalso
        rcases same with rfl | rfl <;> simp [Utf8.decode, decodeAfter, scan, lead?] at decoded
    · exact Nat.le_of_eq whole

end Charset

namespace TransferEncoding

variable {encoding : TransferEncoding} {content bytes : Bytes}

theorem length_base64 (decoded : base64.decode? content = some bytes) :
    bytes.length ≤ content.length := by
  have short := Base64.length_decodeAfter decoded
  have length := List.length_filter_le (fun b => !isSpacing b) content
  rw [List.length_nil] at short
  omega

theorem yield_decode (decoded : encoding.decode? content = some bytes) :
    Charset.yield bytes ≤ 3 * content.length := by
  have worst := Charset.yield_le bytes
  cases encoding with
  | asIs =>
    cases decoded
    exact worst
  | base64 =>
    have short := length_base64 decoded
    omega
  | quoted =>
    cases decoded
    have light := (QuotedText.weight_decode content).1
    have short := length_le_weight (QuotedText.decode content)
    rw [Charset.yield]
    omega

theorem length_decode_twice (decoded : encoding.decode? content = some bytes) :
    bytes.length ≤ 2 * content.length := by
  cases encoding with
  | asIs =>
    cases decoded
    omega
  | base64 =>
    have short := length_base64 decoded
    omega
  | quoted =>
    cases decoded
    exact Nat.le_trans (length_le_weight _) (QuotedText.weight_decode content).1

theorem length_decode (decoded : encoding.decode? content = some bytes)
    (returns : encoding = quoted → QuotedText.HasReturns content) :
    bytes.length ≤ content.length := by
  cases encoding with
  | asIs =>
    cases decoded
    exact Nat.le_refl _
  | base64 => exact length_base64 decoded
  | quoted =>
    cases decoded
    exact Nat.le_trans (length_le_weight _) ((QuotedText.weight_decode content).2 (returns rfl))

end TransferEncoding

namespace Leaf

def isText (l : Leaf) : Bool :=
  l.filename.isNone && (l.mediaType == "text/html" || l.mediaType == "text/plain")

def isShifting (l : Leaf) : Bool := (Charset.ofLabel? l.charset).any Charset.isShifting

/-- A part whose line ends do not grow, or are read in a set in which they stay what they are. -/
def IsModerate (l : Leaf) : Prop :=
  l.isText = true → l.encoding = .quoted → QuotedText.HasReturns l.content ∨ l.isShifting = false

/-- A part that does not grow when it is decoded. -/
structure IsSteady (l : Leaf) : Prop where
  returns : l.encoding = .quoted → QuotedText.HasReturns l.content
  plain : l.isText = true → ∀ bytes, l.data = .ok bytes → Charset.IsPlain l.charset bytes

variable {l : Leaf} {bytes : Bytes}

theorem decode_of_data (data : l.data = .ok bytes) : l.encoding.decode? l.content = some bytes := by
  unfold Leaf.data at data
  split at data
  · next found =>
    cases data
    exact found
  · cases data

theorem length_data_twice (data : l.data = .ok bytes) : bytes.length ≤ 2 * l.content.length :=
  TransferEncoding.length_decode_twice (decode_of_data data)

structure Gives [ForeignDecoders] (l : Leaf) (n : Nat) : Prop where
  data : ∀ bytes, l.data = .ok bytes → bytes.length ≤ n
  text : l.isText = true → ∀ s, l.text = .ok s → s.utf8ByteSize ≤ n

variable [ForeignDecoders]

theorem text_ok {s : String} (text : l.text = .ok s) :
    ∃ bytes, l.data = .ok bytes ∧
      s.utf8ByteSize = width (Charset.decodeLabelled l.charset bytes) := by
  unfold Leaf.text at text
  cases data : l.data with
  | error e =>
    rw [data] at text
    cases text
  | ok bytes =>
    rw [data, Except.map, Except.ok.injEq] at text
    exact ⟨bytes, rfl, by rw [← text, utf8ByteSize_eq, String.toList_ofList]⟩

theorem gives_of_data {n : Nat} (short : ∀ bytes, l.data = .ok bytes → bytes.length ≤ n)
    (narrow : l.isText = true → ∀ bytes, l.data = .ok bytes →
      width (Charset.decodeLabelled l.charset bytes) ≤ n) : l.Gives n := by
  refine ⟨short, fun isText s text => ?_⟩
  obtain ⟨bytes, data, size⟩ := text_ok text
  rw [size]
  exact narrow isText bytes data

theorem gives_sixfold (l : Leaf) : l.Gives (6 * l.content.length) := by
  refine gives_of_data (fun bytes data => ?_) fun _ bytes data => ?_
  · have twice := length_data_twice data
    omega
  · have twice := length_data_twice data
    have thrice := Charset.width_decodeLabelled_thrice l.charset bytes
    omega

theorem IsModerate.gives (moderate : l.IsModerate) : l.Gives (3 * l.content.length) := by
  refine gives_of_data (fun bytes data => ?_) fun isText bytes data => ?_
  · have twice := length_data_twice data
    omega
  have decoded := decode_of_data data
  by_cases steady : l.isShifting = false
  · refine Nat.le_trans (Charset.width_decodeLabelled (fun set found => ?_) bytes)
      (TransferEncoding.yield_decode decoded)
    simpa [isShifting, found] using steady
  · have short := TransferEncoding.length_decode decoded fun quoted =>
      (moderate isText quoted).resolve_right steady
    have thrice := Charset.width_decodeLabelled_thrice l.charset bytes
    omega

theorem IsSteady.gives (steady : l.IsSteady) : l.Gives l.content.length := by
  have short (bytes : Bytes) (data : l.data = .ok bytes) : bytes.length ≤ l.content.length :=
    TransferEncoding.length_decode (decode_of_data data) steady.returns
  refine gives_of_data short fun isText bytes data => ?_
  exact Nat.le_trans (Charset.width_of_isPlain (steady.plain isText bytes data)) (short bytes data)

end Leaf

end MailRelay
