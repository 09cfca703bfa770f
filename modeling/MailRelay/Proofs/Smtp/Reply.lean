import MailRelay.Proofs.Text.Decoding
import MailRelay.Proofs.Text.Numeral
import MailRelay.Smtp.Reply
import Mathlib.Data.List.Basic

set_option autoImplicit false

namespace MailRelay

namespace Reply

theorem not_isLineFeed {raw : Bytes} (single : 10 ∉ raw) : ∀ b ∈ raw, (!isLineFeed b) = true := by
  rintro b member
  simp only [isLineFeed, Bool.not_eq_true', beq_eq_false_iff_ne]
  rintro rfl
  exact single member

inductive LineEffect where
  | refuses (e : ReplyError)
  | passes
  | completes (line : ReplyLine)
  | continues (line : ReplyLine)

def LineEffect.line? : LineEffect → Option ReplyLine
  | refuses _ | passes => none
  | completes line | continues line => some line

def lineEffect (code : Option Nat) (raw : Bytes) : LineEffect :=
  match ReplyLine.decode raw with
  | .error e => .refuses e
  | .ok text =>
    if text.isEmpty then .passes
    else
      match ReplyLine.read text with
      | .error e => .refuses e
      | .ok line =>
        match checkCode code line.code with
        | .error e => .refuses e
        | .ok () => if line.isLast then .completes line else .continues line

variable {code : Option Nat} {texts : List String} {used : Nat} {raw bytes : Bytes}

theorem lineEffect_of_read {cs : List Char} {line : ReplyLine}
    (decoded : ReplyLine.decode raw = .ok cs) (understood : ReplyLine.read cs = .ok line)
    (agreed : checkCode code line.code = .ok ()) :
    lineEffect code raw = if line.isLast then .completes line else .continues line := by
  have filled : cs.isEmpty = false := by
    cases cs with
    | nil => cases understood
    | cons => rfl
  simp [lineEffect, decoded, filled, understood, agreed]

theorem read_of_lineEffect {line : ReplyLine} (holds : (lineEffect code raw).line? = some line) :
    ∃ cs, ReplyLine.decode raw = .ok cs ∧ ReplyLine.read cs = .ok line ∧
      checkCode code line.code = .ok () := by
  unfold lineEffect at holds
  cases decoded : ReplyLine.decode raw with
  | error e =>
    rw [decoded] at holds
    cases holds
  | ok cs =>
    simp only [decoded] at holds
    split at holds
    · cases holds
    cases understood : ReplyLine.read cs with
    | error e =>
      rw [understood] at holds
      cases holds
    | ok found =>
      simp only [understood] at holds
      cases agreed : checkCode code found.code with
      | error e =>
        rw [agreed] at holds
        cases holds
      | ok =>
        simp only [agreed] at holds
        split at holds <;> cases holds <;> exact ⟨cs, rfl, understood, agreed⟩

theorem readAfter_tail (tail : 10 ∉ bytes) : readAfter code texts used bytes = .ok none := by
  rw [readAfter]
  split
  · rfl
  · next found =>
    rw [← List.append_nil bytes, List.dropWhile_append_of_pos (not_isLineFeed tail)] at found
    cases found

theorem readAfter_line (single : 10 ∉ raw) (rest : Bytes) :
    readAfter code texts used (raw ++ 10 :: rest) =
      match lineEffect code raw with
      | .refuses e => .error e
      | .passes => readAfter code texts (used + raw.length + 1) rest
      | .completes line =>
        .ok (some (⟨line.code, (line.text :: texts).reverse⟩, used + raw.length + 1))
      | .continues line =>
        readAfter (some line.code) (line.text :: texts) (used + raw.length + 1) rest := by
  have passed := not_isLineFeed single
  have taken : (raw ++ 10 :: rest).takeWhile (fun b => !isLineFeed b) = raw := by
    rw [List.takeWhile_append_of_pos passed]
    exact List.append_nil raw
  rw [readAfter]
  split
  · next missing =>
    rw [List.dropWhile_append_of_pos passed] at missing
    cases missing
  next found =>
  rw [List.dropWhile_append_of_pos passed] at found
  cases found
  rw [taken]
  unfold lineEffect
  cases ReplyLine.decode raw with
  | error e => rfl
  | ok text =>
    dsimp only [bind, Except.bind]
    split
    · rfl
    cases ReplyLine.read text with
    | error e => rfl
    | ok line =>
      dsimp only
      cases checkCode code line.code with
      | error e => rfl
      | ok => cases line.isLast <;> rfl

theorem readAfter_append (code : Option Nat) (texts : List String) (used : Nat) (bytes : Bytes) :
    readAfter code texts used bytes = .ok none ∨
      ∀ more, readAfter code texts used (bytes ++ more) = readAfter code texts used bytes := by
  induction bytes using line_induction generalizing code texts used with
  | tail bytes tail => exact .inl (readAfter_tail tail)
  | line raw rest single ih =>
    simp only [List.append_assoc, List.cons_append, readAfter_line single]
    cases lineEffect code raw with
    | refuses e => exact .inr fun more => rfl
    | passes => exact ih _ _ _
    | completes line => exact .inr fun more => rfl
    | continues line => exact ih _ _ _

-- Once a reply is complete or refused, it stays so whatever follows.
theorem read_append (bytes : Bytes) :
    read bytes = .ok none ∨ ∀ more, read (bytes ++ more) = read bytes :=
  readAfter_append none [] 0 bytes

inductive Finds (r : Reply) (size : Nat) : Option Nat → List String → Nat → Bytes → Prop where
  | passes {code : Option Nat} {texts : List String} {used : Nat} {raw rest : Bytes}
      (later : Finds r size code texts (used + raw.length + 1) rest) :
    Finds r size code texts used (raw ++ 10 :: rest)
  | completes {code : Option Nat} {texts : List String} {used : Nat} {raw rest : Bytes}
      {line : ReplyLine} (single : 10 ∉ raw) (effect : lineEffect code raw = .completes line)
      (whole : r = ⟨line.code, (line.text :: texts).reverse⟩)
      (sized : size = used + raw.length + 1) :
    Finds r size code texts used (raw ++ 10 :: rest)
  | continues {code : Option Nat} {texts : List String} {used : Nat} {raw rest : Bytes}
      {line : ReplyLine} (single : 10 ∉ raw) (effect : lineEffect code raw = .continues line)
      (later : Finds r size (some line.code) (line.text :: texts) (used + raw.length + 1) rest) :
    Finds r size code texts used (raw ++ 10 :: rest)

variable {r : Reply} {size : Nat}

theorem finds_of_readAfter (found : readAfter code texts used bytes = .ok (some (r, size))) :
    Finds r size code texts used bytes := by
  induction bytes using line_induction generalizing code texts used with
  | tail bytes tail =>
    rw [readAfter_tail tail] at found
    cases found
  | line raw rest single ih =>
    rw [readAfter_line single] at found
    cases effect : lineEffect code raw with
    | refuses e =>
      rw [effect] at found
      cases found
    | passes =>
      rw [effect] at found
      exact .passes (ih found)
    | completes line =>
      rw [effect] at found
      cases found
      exact .completes single effect rfl rfl
    | continues line =>
      rw [effect] at found
      exact .continues single effect (ih found)

theorem Finds.size_le (finds : Finds r size code texts used bytes) : size ≤ used + bytes.length := by
  induction finds with
  | passes later ih | continues single effect later ih =>
    rw [List.length_append, List.length_cons]
    omega
  | completes single effect whole sized =>
    rw [List.length_append, List.length_cons]
    omega

theorem size_of_read (found : read bytes = .ok (some (r, size))) : size ≤ bytes.length := by
  simpa using (finds_of_readAfter found).size_le

def FitsLine (text : List Char) : Prop :=
  '\n' ∉ text ∧ text.getLast? ≠ some '\r'

instance : DecidablePred FitsLine := fun text =>
  inferInstanceAs (Decidable ('\n' ∉ text ∧ text.getLast? ≠ some '\r'))

theorem FitsLine.suffix {text rest : List Char} (fits : FitsLine text) (suffix : rest <:+ text) :
    FitsLine rest := by
  obtain ⟨front, rfl⟩ := suffix
  refine ⟨fun member => fits.1 (List.mem_append_right _ member), fun ends => fits.2 ?_⟩
  rw [List.getLast?_append, ends]
  rfl

theorem FitsLine.append {text rest : List Char} (fits : FitsLine text) (more : FitsLine rest) :
    FitsLine (text ++ rest) := by
  refine ⟨fun member => (List.mem_append.1 member).elim fits.1 more.1, fun ends => ?_⟩
  rw [List.getLast?_append] at ends
  cases last : rest.getLast? with
  | none => exact fits.2 (by simpa [last] using ends)
  | some c => exact more.2 (by simpa [last] using ends)

theorem fitsLine_of_clean {text : List Char} (noReturn : '\r' ∉ text) (noFeed : '\n' ∉ text) :
    FitsLine text :=
  ⟨noFeed, fun ends => noReturn (List.mem_of_getLast? ends)⟩

theorem fitsLine_toString (n : Nat) : FitsLine (toString n).toList := by
  have digits : ∀ c ∈ (toString n).toList, c.isDigit = true := by
    intro c member
    rw [Nat.toString_eq_repr, Nat.toList_repr] at member
    exact Nat.isDigit_of_mem_toDigits (by decide) (by decide) member
  exact fitsLine_of_clean (fun member => absurd (digits _ member) (by decide))
    (fun member => absurd (digits _ member) (by decide))

/-- Replies that can be told from their bytes. -/
structure Proper (r : Reply) : Prop where
  code : 100 ≤ r.code ∧ r.code ≤ 999
  filled : r.lines ≠ []
  fits : ∀ line ∈ r.lines, FitsLine line.toList

end Reply

namespace ReplyLine

theorem dropReturns_eq {cs : List Char} (other : cs.getLast? ≠ some '\r') :
    (cs.reverse.dropWhile (· == '\r')).reverse = cs := by
  cases backwards : cs.reverse with
  | nil => simpa using backwards
  | cons c rest =>
    obtain rfl : cs = (c :: rest).reverse := by rw [← backwards, List.reverse_reverse]
    rw [List.dropWhile_cons_of_neg]
    simpa using other

theorem decode_encode {cs : List Char} (other : cs.getLast? ≠ some '\r') :
    decode (Utf8.encode (cs ++ ['\r'])) = .ok cs := by
  simp [decode, Utf8.decode_encode, dropReturns_eq other]

theorem getLast?_dropReturns (cs : List Char) :
    (cs.reverse.dropWhile (· == '\r')).reverse.getLast? ≠ some '\r' := by
  rw [List.getLast?_reverse]
  intro ends
  have kept := List.head?_dropWhile_not (· == '\r') cs.reverse
  rw [ends] at kept
  simp at kept

theorem decode_fits {raw : Bytes} {text : List Char} (single : 10 ∉ raw)
    (decoded : decode raw = .ok text) : Reply.FitsLine text := by
  unfold decode at decoded
  cases whole : Utf8.decode raw with
  | error e => simp [whole] at decoded
  | ok cs =>
    simp only [whole, Except.ok.injEq] at decoded
    subst decoded
    refine ⟨fun member => ?_, getLast?_dropReturns cs⟩
    have original := (List.dropWhile_sublist _).subset (List.mem_reverse.1 member)
    rw [List.mem_reverse, ← Utf8.mem_encode_iff cs '\n' (by decide),
      Utf8.encode_of_decode whole] at original
    exact single original

theorem digit?_le {c : Char} {n : Nat} (digit : Text.digit? c = some n) : n ≤ 9 := by
  unfold Text.digit? at digit
  split at digit
  · next isDigit =>
    have numeral := Text.toNat_of_isDigit isDigit
    have zero : '0'.toNat = 48 := rfl
    cases digit
    omega
  · cases digit

theorem code?_le {a b c : Char} {n : Nat} (found : code? a b c = some n) : n ≤ 999 := by
  simp only [code?, Option.bind_eq_bind, Option.bind_eq_some_iff, Option.pure_def,
    Option.some.injEq] at found
  obtain ⟨hundreds, first, tens, second, units, third, rfl⟩ := found
  have := digit?_le first
  have := digit?_le second
  have := digit?_le third
  omega

theorem read_fits {text : List Char} {line : ReplyLine} (understood : read text = .ok line)
    (fits : Reply.FitsLine text) : line.code ≤ 999 ∧ Reply.FitsLine line.text.toList := by
  unfold read at understood
  split at understood
  · next a b c rest =>
    split at understood
    · next code found =>
      refine ⟨?_, fits.suffix ?_⟩
      · split at understood <;> cases understood <;> exact code?_le found
      · split at understood <;> cases understood
        · exact List.nil_suffix
        · next text => exact ⟨[a, b, c, ' '], by simp⟩
        · next text => exact ⟨[a, b, c, '-'], by simp⟩
    · cases understood
  · cases understood

def spelled (line : ReplyLine) : List Char :=
  (toString line.code).toList ++ (if line.isLast then ' ' else '-') :: line.text.toList

def digits (code : Nat) : List Char :=
  [Nat.digitChar (code / 100), Nat.digitChar (code / 10 % 10), Nat.digitChar (code % 10)]

theorem toList_toString {code : Nat} (three : 100 ≤ code ∧ code ≤ 999) :
    (toString code).toList = digits code := by
  have quotient : code / 10 / 10 = code / 100 := Nat.div_div_eq_div_mul code 10 10
  rw [Nat.toString_eq_repr, Nat.toList_repr, Nat.toDigits_of_base_le (by decide) (by omega),
    Nat.toDigits_of_base_le (by decide) (by omega), Nat.toDigits_of_lt_base (by omega), quotient]
  rfl

theorem digit?_digitChar {n : Nat} (digit : n < 10) : Text.digit? (Nat.digitChar n) = some n := by
  have every : ∀ m : Fin 10, Text.digit? (Nat.digitChar m) = some m.val := by decide
  exact every ⟨n, digit⟩

theorem code?_digits {code : Nat} (short : code ≤ 999) :
    code? (Nat.digitChar (code / 100)) (Nat.digitChar (code / 10 % 10))
      (Nat.digitChar (code % 10)) = some code := by
  have hundreds : code / 100 < 10 := by omega
  have tens : code / 10 % 10 < 10 := by omega
  have units : code % 10 < 10 := by omega
  have sum : 100 * (code / 100) + 10 * (code / 10 % 10) + code % 10 = code := by omega
  simp [code?, digit?_digitChar, hundreds, tens, units, sum]

theorem read_spelled {line : ReplyLine} (three : 100 ≤ line.code ∧ line.code ≤ 999) :
    read line.spelled = .ok line := by
  obtain ⟨code, isLast, text⟩ := line
  dsimp only at three
  simp only [spelled, toList_toString three, digits, List.cons_append, List.nil_append, read,
    code?_digits three.2]
  cases isLast <;> simp

theorem spelled_fits {line : ReplyLine} (fits : Reply.FitsLine line.text.toList) :
    Reply.FitsLine line.spelled := by
  have mark : Reply.FitsLine [if line.isLast then ' ' else '-'] := by
    cases line.isLast <;> exact Reply.fitsLine_of_clean (by decide) (by decide)
  exact (Reply.fitsLine_toString line.code).append (mark.append fits)

def bytes (line : ReplyLine) : Bytes :=
  Utf8.encode (line.spelled ++ ['\r'])

theorem single_bytes {line : ReplyLine} (fits : Reply.FitsLine line.text.toList) :
    10 ∉ line.bytes := by
  have same := Utf8.mem_encode_iff (line.spelled ++ ['\r']) '\n' (by decide)
  intro member
  simpa [(spelled_fits fits).1] using same.1 member

theorem lineEffect_bytes (line : ReplyLine) (three : 100 ≤ line.code ∧ line.code ≤ 999)
    (fits : Reply.FitsLine line.text.toList) {code : Option Nat}
    (same : code = none ∨ code = some line.code) :
    Reply.lineEffect code line.bytes =
      if line.isLast then .completes line else .continues line := by
  have agreed : Reply.checkCode code line.code = .ok () := by
    rcases same with rfl | rfl <;> simp [Reply.checkCode]
  exact Reply.lineEffect_of_read (decode_encode (spelled_fits fits).2) (read_spelled three) agreed

end ReplyLine

namespace Reply

theorem toList_writeLines_cons (code : Nat) (text : String) (rest : List String) :
    (writeLines code (text :: rest)).toList =
      (ReplyLine.mk code rest.isEmpty text).spelled ++ ['\r'] ++
        '\n' :: (writeLines code rest).toList := by
  cases rest <;> simp [writeLines, ReplyLine.spelled] <;> rfl

theorem ofString_writeLines_cons (code : Nat) (text : String) (rest : List String) :
    Utf8.ofString (writeLines code (text :: rest)) =
      (ReplyLine.mk code rest.isEmpty text).bytes ++
        10 :: Utf8.ofString (writeLines code rest) := by
  rw [Utf8.ofString_eq_encode, toList_writeLines_cons, Utf8.encode_append, Utf8.ofString_eq_encode]
  rfl

theorem readAfter_writeLines {code : Nat} (three : 100 ≤ code ∧ code ≤ 999) {lines : List String}
    (filled : lines ≠ []) (fits : ∀ line ∈ lines, FitsLine line.toList) {known : Option Nat}
    (same : known = none ∨ known = some code) (texts : List String) (used : Nat) (rest : Bytes) :
    readAfter known texts used (Utf8.ofString (writeLines code lines) ++ rest) =
      .ok (some (⟨code, texts.reverse ++ lines⟩,
        used + (Utf8.ofString (writeLines code lines)).length)) := by
  induction lines generalizing known texts used with
  | nil => exact absurd rfl filled
  | cons text lines ih =>
    obtain ⟨first, others⟩ := List.forall_mem_cons.1 fits
    have effect := ReplyLine.lineEffect_bytes ⟨code, lines.isEmpty, text⟩ three first same
    rw [ofString_writeLines_cons, List.append_assoc, List.cons_append,
      readAfter_line (ReplyLine.single_bytes first), effect]
    cases lines with
    | nil =>
      simp [writeLines, Utf8.ofString_eq_encode, Utf8.encode, Nat.add_assoc]
    | cons next lines =>
      have later := ih (List.cons_ne_nil _ _) others (.inr rfl)
      simp [later, Nat.add_assoc, Nat.add_comm, Nat.add_left_comm]

theorem fits_of_lineEffect {code : Option Nat} {raw : Bytes} {line : ReplyLine} (single : 10 ∉ raw)
    (holds : (lineEffect code raw).line? = some line) :
    line.code ≤ 999 ∧ FitsLine line.text.toList := by
  obtain ⟨cs, decoded, understood, -⟩ := read_of_lineEffect holds
  exact ReplyLine.read_fits understood (ReplyLine.decode_fits single decoded)

theorem Finds.fits {code : Option Nat} {texts : List String} {used size : Nat} {bytes : Bytes}
    {r : Reply} (finds : Finds r size code texts used bytes)
    (known : ∀ text ∈ texts, FitsLine text.toList) :
    r.code ≤ 999 ∧ r.lines ≠ [] ∧ ∀ text ∈ r.lines, FitsLine text.toList := by
  induction finds with
  | passes later ih => exact ih known
  | completes single effect whole sized =>
    obtain ⟨short, fits⟩ := fits_of_lineEffect single (by rw [effect]; rfl)
    subst whole
    exact ⟨short, by simp, by simpa [fits, or_imp, forall_and] using known⟩
  | continues single effect later ih =>
    obtain ⟨-, fits⟩ := fits_of_lineEffect single (by rw [effect]; rfl)
    exact ih (List.forall_mem_cons.2 ⟨fits, known⟩)

theorem read_write {r : Reply} (proper : r.Proper) (rest : Bytes) :
    read (Utf8.ofString r.write ++ rest) = .ok (some (r, (Utf8.ofString r.write).length)) := by
  have whole := readAfter_writeLines proper.code proper.filled proper.fits (.inl rfl) [] 0 rest
  simpa [read, write] using whole

theorem proper_of_read {bytes : Bytes} {r : Reply} {size : Nat}
    (found : read bytes = .ok (some (r, size))) (three : 100 ≤ r.code) : r.Proper := by
  obtain ⟨short, filled, fits⟩ := (finds_of_readAfter found).fits (List.forall_mem_nil _)
  exact ⟨⟨three, short⟩, filled, fits⟩

/-- What is written is read back, whatever follows; and what has been read can be written and read
again. -/
theorem reading_inverts_writing :
    (∀ r : Reply, r.Proper → ∀ rest, read (Utf8.ofString r.write ++ rest) =
      .ok (some (r, (Utf8.ofString r.write).length))) ∧
    ∀ bytes r size, read bytes = .ok (some (r, size)) → 100 ≤ r.code →
      ∀ rest, read (Utf8.ofString r.write ++ rest) =
        .ok (some (r, (Utf8.ofString r.write).length)) :=
  ⟨fun _ proper rest => read_write proper rest,
    fun _ _ _ found three rest => read_write (proper_of_read found three) rest⟩

-- A reply of two lines with the next one behind it; and a reply after a blank line, with a bare
-- line feed.
theorem reading_inverts_writing_of_two_replies :
    (Proper ⟨250, ["mx.example.org", "8BITMIME"]⟩ ∧
      read (Utf8.ofString (write ⟨250, ["mx.example.org", "8BITMIME"]⟩) ++ [50, 50, 49]) =
        .ok (some (⟨250, ["mx.example.org", "8BITMIME"]⟩, 34))) ∧
    (read ([13] ++ 10 :: ([50, 50, 49, 32, 46] ++ [10])) = .ok (some (⟨221, ["."]⟩, 8)) ∧
      read (Utf8.ofString (write ⟨221, ["."]⟩) ++ []) = .ok (some (⟨221, ["."]⟩, 7))) := by
  have proper : Proper ⟨250, ["mx.example.org", "8BITMIME"]⟩ :=
    ⟨by decide, by decide, by simp [FitsLine]⟩
  have blank : lineEffect none [13] = .passes := by
    rw [lineEffect, ReplyLine.decode, Utf8.decode_ascii (by simp)]
    rfl
  have bare : lineEffect none [50, 50, 49, 32, 46] = .completes ⟨221, true, "."⟩ := by
    rw [lineEffect, ReplyLine.decode, Utf8.decode_ascii (by simp)]
    rfl
  have found : read ([13] ++ 10 :: ([50, 50, 49, 32, 46] ++ [10])) =
      .ok (some (⟨221, ["."]⟩, 8)) := by
    rw [read, readAfter_line (by decide), blank]
    dsimp only
    rw [readAfter_line (by decide), bare]
    rfl
  have sizes : (Utf8.ofString (write ⟨250, ["mx.example.org", "8BITMIME"]⟩)).length = 34 ∧
      (Utf8.ofString (write ⟨221, ["."]⟩)).length = 7 := by decide
  exact ⟨⟨proper, by simpa [sizes] using reading_inverts_writing.1 _ proper [50, 50, 49]⟩,
    found, by simpa [sizes] using reading_inverts_writing.2 _ _ _ found (by decide) []⟩

end Reply

end MailRelay
