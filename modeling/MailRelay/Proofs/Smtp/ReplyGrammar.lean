import MailRelay.Proofs.Smtp.Reply
import Mathlib.Data.List.TakeWhile

set_option autoImplicit false

namespace MailRelay.Reply

-- The returns in front of a line feed are no part of the line.
def IsSent (text : List Char) (line : Bytes) : Prop :=
  FitsLine text ∧ ∃ returns, line = Utf8.encode (text ++ List.replicate returns '\r' ++ ['\n'])

def IsBlank (line : Bytes) : Prop :=
  IsSent [] line

def Continues (code : Nat) (text : String) (line : Bytes) : Prop :=
  code ≤ 999 ∧ IsSent (ReplyLine.digits code ++ '-' :: text.toList) line

def Concludes (code : Nat) (text : String) (line : Bytes) : Prop :=
  code ≤ 999 ∧ (IsSent (ReplyLine.digits code ++ ' ' :: text.toList) line ∨
    text = "" ∧ IsSent (ReplyLine.digits code) line)

def Agrees (known : Option Nat) (code : Nat) : Prop :=
  known = none ∨ known = some code

/-- The lines at the front of a reply: blank ones, and some that others follow. -/
inductive Opening : Option Nat → List String → Bytes → Prop where
  | nil : Opening none [] []
  | blank {known : Option Nat} {texts : List String} {front line : Bytes}
      (opening : Opening known texts front) (blank : IsBlank line) :
    Opening known texts (front ++ line)
  | line {known : Option Nat} {texts : List String} {front line : Bytes} {code : Nat}
      {text : String} (opening : Opening known texts front) (agrees : Agrees known code)
      (continues : Continues code text line) :
    Opening (some code) (texts ++ [text]) (front ++ line)

def IsReply (r : Reply) (bytes : Bytes) : Prop :=
  ∃ known texts text front line, bytes = front ++ line ∧ Opening known texts front ∧
    Agrees known r.code ∧ Concludes r.code text line ∧ r.lines = texts ++ [text]

/-- The first line that does not belong to the opening does not conclude the reply either. -/
def IsRefused (bytes : Bytes) : Prop :=
  ∃ known texts front line rest, bytes = front ++ line ++ rest ∧ Opening known texts front ∧
    IsEnded line ∧ ¬ IsBlank line ∧
    ∀ code text, Agrees known code → ¬ Continues code text line ∧ ¬ Concludes code text line

def IsUnfinished (bytes : Bytes) : Prop :=
  ∃ known texts front tail, bytes = front ++ tail ∧ Opening known texts front ∧ 10 ∉ tail

theorem dropReturns_append {text : List Char} (other : text.getLast? ≠ some '\r') (returns : Nat) :
    ((text ++ List.replicate returns '\r').reverse.dropWhile (· == '\r')).reverse = text := by
  rw [List.reverse_append, List.reverse_replicate, List.dropWhile_append_of_pos (by simp)]
  exact ReplyLine.dropReturns_eq other

theorem append_returns (cs : List Char) :
    ∃ returns, cs = (cs.reverse.dropWhile (· == '\r')).reverse ++ List.replicate returns '\r' := by
  have taken : cs.reverse.takeWhile (· == '\r') =
      List.replicate (cs.reverse.takeWhile (· == '\r')).length '\r' := by
    refine List.eq_replicate_iff.2 ⟨rfl, fun c member => ?_⟩
    simpa using List.mem_takeWhile_imp member
  have parts : cs.reverse.takeWhile (· == '\r') ++ cs.reverse.dropWhile (· == '\r') = cs.reverse :=
    List.takeWhile_append_dropWhile
  rw [taken] at parts
  refine ⟨(cs.reverse.takeWhile (· == '\r')).length, ?_⟩
  rw [← List.reverse_inj, List.reverse_append, List.reverse_replicate, List.reverse_reverse, parts]

variable {raw line bytes front rest : Bytes} {text : List Char} {known : Option Nat} {code : Nat}
  {texts : List String}

theorem isSent_iff (single : 10 ∉ raw) :
    IsSent text (raw ++ [10]) ↔ ReplyLine.decode raw = .ok text := by
  have feed : Utf8.encode ['\n'] = [10] := rfl
  constructor
  · rintro ⟨fits, returns, same⟩
    rw [Utf8.encode_append, feed] at same
    obtain rfl := List.append_cancel_right same
    rw [ReplyLine.decode, Utf8.decode_encode]
    exact congrArg Except.ok (dropReturns_append fits.2 returns)
  · intro decoded
    refine ⟨ReplyLine.decode_fits single decoded, ?_⟩
    rw [ReplyLine.decode] at decoded
    cases whole : Utf8.decode raw with
    | error e => simp [whole] at decoded
    | ok cs =>
      simp only [whole, Except.ok.injEq] at decoded
      obtain ⟨returns, parts⟩ := append_returns cs
      rw [decoded] at parts
      exact ⟨returns, by rw [← parts, Utf8.encode_append, Utf8.encode_of_decode whole, feed]⟩

theorem IsSent.ended (sent : IsSent text line) : IsEnded line := by
  obtain ⟨fits, returns, rfl⟩ := sent
  refine ⟨Utf8.encode (text ++ List.replicate returns '\r'), Utf8.encode_append _ _, ?_⟩
  intro member
  have among := (Utf8.mem_encode_iff _ '\n' (by decide)).1 member
  simp [fits.1] at among

theorem Continues.ended {text : String} (continues : Continues code text line) : IsEnded line :=
  continues.2.ended

theorem Concludes.ended {text : String} (concludes : Concludes code text line) : IsEnded line := by
  rcases concludes.2 with sent | ⟨-, sent⟩ <;> exact sent.ended

theorem eq_digitChar {c : Char} {n : Nat} (digit : Text.digit? c = some n) :
    c = Nat.digitChar n := by
  unfold Text.digit? at digit
  split at digit
  · next isDigit =>
    have numeral := Text.toNat_of_isDigit isDigit
    have every : ∀ m : Fin 10, Nat.digitChar m = Char.ofNat (48 + m.val) := by decide
    obtain ⟨m, value⟩ := Nat.exists_eq_add_of_le numeral.1
    have spelled := every ⟨m, by omega⟩
    rw [← value, Char.ofNat_toNat] at spelled
    have zero : '0'.toNat = 48 := rfl
    obtain rfl : n = m := by
      cases digit
      omega
    exact spelled.symm
  · cases digit

theorem eq_digits {a b c : Char} (found : ReplyLine.code? a b c = some code) :
    [a, b, c] = ReplyLine.digits code := by
  simp only [ReplyLine.code?, Option.bind_eq_bind, Option.bind_eq_some_iff, Option.pure_def,
    Option.some.injEq] at found
  obtain ⟨hundreds, first, tens, second, units, third, rfl⟩ := found
  have := ReplyLine.digit?_le first
  have := ReplyLine.digit?_le second
  have := ReplyLine.digit?_le third
  have front : (100 * hundreds + 10 * tens + units) / 100 = hundreds := by omega
  have middle : (100 * hundreds + 10 * tens + units) / 10 % 10 = tens := by omega
  have last : (100 * hundreds + 10 * tens + units) % 10 = units := by omega
  rw [ReplyLine.digits, front, middle, last, eq_digitChar first, eq_digitChar second,
    eq_digitChar third]

theorem read_iff {text : String} {isLast : Bool} {cs : List Char} :
    ReplyLine.read cs = .ok ⟨code, isLast, text⟩ ↔ code ≤ 999 ∧
      if isLast then
        cs = ReplyLine.digits code ++ ' ' :: text.toList ∨ text = "" ∧ cs = ReplyLine.digits code
      else cs = ReplyLine.digits code ++ '-' :: text.toList := by
  constructor
  · intro understood
    unfold ReplyLine.read at understood
    split at understood
    · next a b c more =>
      split at understood
      · next found =>
        have front := eq_digits found
        have whole : a :: b :: c :: more = [a, b, c] ++ more := rfl
        rw [whole, front]
        split at understood <;> cases understood <;>
          simp [ReplyLine.code?_le found]
      · cases understood
    · cases understood
  · rintro ⟨short, form⟩
    cases isLast with
    | true =>
      rcases form with rfl | ⟨rfl, rfl⟩ <;>
        simp [ReplyLine.digits, ReplyLine.read, ReplyLine.code?_digits short]
    | false =>
      obtain rfl := form
      simp [ReplyLine.digits, ReplyLine.read, ReplyLine.code?_digits short]

theorem checkCode_iff : checkCode known code = .ok () ↔ Agrees known code := by
  cases known <;> simp [checkCode, Agrees]

theorem lineEffect_of_blank (single : 10 ∉ raw) (blank : IsBlank (raw ++ [10])) :
    lineEffect known raw = .passes := by
  simp [lineEffect, (isSent_iff single).1 blank]

theorem lineEffect_of_continues {text : String} (single : 10 ∉ raw) (agrees : Agrees known code)
    (continues : Continues code text (raw ++ [10])) :
    lineEffect known raw = .continues ⟨code, false, text⟩ := by
  obtain ⟨short, sent⟩ := continues
  have understood : ReplyLine.read (ReplyLine.digits code ++ '-' :: text.toList) =
      .ok ⟨code, false, text⟩ := read_iff.2 ⟨short, rfl⟩
  exact lineEffect_of_read ((isSent_iff single).1 sent) understood (checkCode_iff.2 agrees)

theorem lineEffect_of_concludes {text : String} (single : 10 ∉ raw) (agrees : Agrees known code)
    (concludes : Concludes code text (raw ++ [10])) :
    lineEffect known raw = .completes ⟨code, true, text⟩ := by
  obtain ⟨short, form⟩ := concludes
  obtain ⟨cs, sent, spelled⟩ : ∃ cs, IsSent cs (raw ++ [10]) ∧
      ReplyLine.read cs = .ok ⟨code, true, text⟩ := by
    rcases form with sent | ⟨rfl, sent⟩
    · exact ⟨_, sent, read_iff.2 ⟨short, by simp⟩⟩
    · exact ⟨_, sent, read_iff.2 ⟨short, by simp⟩⟩
  exact lineEffect_of_read ((isSent_iff single).1 sent) spelled (checkCode_iff.2 agrees)

theorem line_of_lineEffect {line : ReplyLine} (single : 10 ∉ raw)
    (holds : (lineEffect known raw).line? = some line) :
    Agrees known line.code ∧ (Continues line.code line.text (raw ++ [10]) ∨
      Concludes line.code line.text (raw ++ [10])) := by
  obtain ⟨cs, decoded, understood, agreed⟩ := read_of_lineEffect holds
  have sent := (isSent_iff single).2 decoded
  obtain ⟨short, form⟩ := read_iff.1 understood
  refine ⟨checkCode_iff.1 agreed, ?_⟩
  split at form
  · rcases form with rfl | ⟨empty, rfl⟩
    · exact .inr ⟨short, .inl sent⟩
    · exact .inr ⟨short, .inr ⟨empty, sent⟩⟩
  · subst form
    exact .inl ⟨short, sent⟩

theorem blank_of_lineEffect (single : 10 ∉ raw) (passes : lineEffect known raw = .passes) :
    IsBlank (raw ++ [10]) := by
  refine (isSent_iff single).2 ?_
  unfold lineEffect at passes
  split at passes
  · cases passes
  next text decoded =>
  split at passes
  · next empty => rw [decoded, List.isEmpty_iff.1 empty]
  split at passes
  · cases passes
  split at passes
  · cases passes
  · split at passes <;> cases passes

theorem lineEffect_of_unfit (single : 10 ∉ raw) (filled : ¬ IsBlank (raw ++ [10]))
    (unfit : ∀ code text, Agrees known code →
      ¬ Continues code text (raw ++ [10]) ∧ ¬ Concludes code text (raw ++ [10])) :
    ∃ e, lineEffect known raw = .refuses e := by
  cases effect : lineEffect known raw with
  | refuses e => exact ⟨e, rfl⟩
  | passes => exact absurd (blank_of_lineEffect single effect) filled
  | completes line | continues line =>
    obtain ⟨agrees, continues | concludes⟩ := line_of_lineEffect single (by rw [effect]; rfl)
    · exact absurd continues (unfit _ _ agrees).1
    · exact absurd concludes (unfit _ _ agrees).2

theorem Opening.read_append (opening : Opening known texts front) (rest : Bytes) :
    read (front ++ rest) = readAfter known texts.reverse front.length rest := by
  induction opening generalizing rest with
  | nil => rfl
  | blank opening blank ih =>
    obtain ⟨raw, rfl, single⟩ := blank.ended
    simp only [List.append_assoc, List.singleton_append, ih, readAfter_line single,
      lineEffect_of_blank single blank, List.length_append, List.length_singleton, Nat.add_assoc]
  | line opening agrees continues ih =>
    obtain ⟨raw, rfl, single⟩ := continues.ended
    simp only [List.append_assoc, List.singleton_append, ih, readAfter_line single,
      lineEffect_of_continues single agrees continues, List.length_append, List.length_singleton,
      Nat.add_assoc, List.reverse_append, List.reverse_singleton]

theorem read_of_isReply {r : Reply} (whole : IsReply r bytes) (rest : Bytes) :
    read (bytes ++ rest) = .ok (some (r, bytes.length)) := by
  obtain ⟨known, texts, text, front, line, rfl, opening, agrees, concludes, spelled⟩ := whole
  obtain ⟨raw, rfl, single⟩ := concludes.ended
  obtain ⟨code, lines⟩ := r
  obtain rfl := spelled
  simp [opening.read_append, readAfter_line single,
    lineEffect_of_concludes single agrees concludes, Nat.add_assoc]

theorem read_of_isRefused (refused : IsRefused bytes) : ∃ e, read bytes = .error e := by
  obtain ⟨known, texts, front, line, rest, rfl, opening, ended, filled, unfit⟩ := refused
  obtain ⟨raw, rfl, single⟩ := ended
  obtain ⟨e, effect⟩ := lineEffect_of_unfit single filled unfit
  exact ⟨e, by simp [opening.read_append, readAfter_line single, effect]⟩

theorem read_of_isUnfinished (unfinished : IsUnfinished bytes) : read bytes = .ok none := by
  obtain ⟨known, texts, front, tail, rfl, opening, single⟩ := unfinished
  rw [opening.read_append, readAfter_tail single]

theorem Opening.outcome (opening : Opening known texts front) (rest : Bytes) :
    (∃ r n, n ≤ (front ++ rest).length ∧ IsReply r ((front ++ rest).take n)) ∨
      IsRefused (front ++ rest) ∨ IsUnfinished (front ++ rest) := by
  induction rest using line_induction generalizing known texts front with
  | tail rest single => exact .inr (.inr ⟨known, texts, front, rest, rfl, opening, single⟩)
  | line raw rest single ih =>
    have parts : front ++ (raw ++ 10 :: rest) = front ++ (raw ++ [10]) ++ rest := by simp
    rw [parts]
    by_cases blank : IsBlank (raw ++ [10])
    · exact ih (opening.blank blank)
    by_cases continues : ∃ code text, Agrees known code ∧ Continues code text (raw ++ [10])
    · obtain ⟨code, text, agrees, continues⟩ := continues
      exact ih (opening.line agrees continues)
    by_cases concludes : ∃ code text, Agrees known code ∧ Concludes code text (raw ++ [10])
    · obtain ⟨code, text, agrees, concludes⟩ := concludes
      refine .inl ⟨⟨code, texts ++ [text]⟩, (front ++ (raw ++ [10])).length, by simp, ?_⟩
      rw [List.take_left]
      exact ⟨known, texts, text, front, raw ++ [10], rfl, opening, agrees, concludes, rfl⟩
    · refine .inr (.inl ⟨known, texts, front, raw ++ [10], rest, rfl, opening, ⟨raw, rfl, single⟩,
        blank, fun code text agrees => ⟨fun line => ?_, fun line => ?_⟩⟩)
      · exact continues ⟨code, text, agrees, line⟩
      · exact concludes ⟨code, text, agrees, line⟩

theorem read_reply_iff {r : Reply} {n : Nat} :
    read bytes = .ok (some (r, n)) ↔ n ≤ bytes.length ∧ IsReply r (bytes.take n) := by
  have whole {r : Reply} {n : Nat} (within : n ≤ bytes.length) (reply : IsReply r (bytes.take n)) :
      read bytes = .ok (some (r, n)) := by
    have found := read_of_isReply reply (bytes.drop n)
    rwa [List.take_append_drop, List.length_take_of_le within] at found
  refine ⟨fun found => ?_, fun reply => whole reply.1 reply.2⟩
  rcases Opening.nil.outcome bytes with ⟨r', n', within, reply⟩ | refused | unfinished
  · rw [List.nil_append] at within reply
    have same := found.symm.trans (whole within reply)
    cases same
    exact ⟨within, reply⟩
  · obtain ⟨e, failed⟩ := read_of_isRefused refused
    cases found.symm.trans failed
  · cases found.symm.trans (read_of_isUnfinished unfinished)

theorem read_error_iff : (∃ e, read bytes = .error e) ↔ IsRefused bytes := by
  refine ⟨fun ⟨e, failed⟩ => ?_, read_of_isRefused⟩
  rcases Opening.nil.outcome bytes with ⟨r, n, reply⟩ | refused | unfinished
  · cases failed.symm.trans (read_reply_iff.2 reply)
  · exact refused
  · cases failed.symm.trans (read_of_isUnfinished unfinished)

/-- A reply is found exactly where the grammar has one, an error where it has none any more. There is
at most one reply at the front of the bytes, and what stands after it does not matter. -/
theorem reading_follows_the_grammar (bytes : Bytes) :
    (∀ r n, read bytes = .ok (some (r, n)) ↔ n ≤ bytes.length ∧ IsReply r (bytes.take n)) ∧
    ((∃ e, read bytes = .error e) ↔ IsRefused bytes) ∧
    (read bytes = .ok none ↔
      (¬ ∃ r n, n ≤ bytes.length ∧ IsReply r (bytes.take n)) ∧ ¬ IsRefused bytes) ∧
    (∀ r n r' n', n ≤ bytes.length ∧ IsReply r (bytes.take n) →
      n' ≤ bytes.length ∧ IsReply r' (bytes.take n') → r = r' ∧ n = n') ∧
    ∀ r n, read bytes = .ok (some (r, n)) →
      ∀ more, read (bytes.take n ++ more) = .ok (some (r, n)) := by
  refine ⟨fun r n => read_reply_iff, read_error_iff, ⟨fun waits => ?_, fun other => ?_⟩, ?_, ?_⟩
  · rw [← read_error_iff]
    refine ⟨fun ⟨r, n, reply⟩ => ?_, fun ⟨e, failed⟩ => ?_⟩
    · cases waits.symm.trans (read_reply_iff.2 reply)
    · cases waits.symm.trans failed
  · rcases Opening.nil.outcome bytes with reply | refused | unfinished
    · exact absurd reply other.1
    · exact absurd refused other.2
    · exact read_of_isUnfinished unfinished
  · intro r n r' n' reply reply'
    have same := (read_reply_iff.2 reply).symm.trans (read_reply_iff.2 reply')
    cases same
    exact ⟨rfl, rfl⟩
  · intro r n found more
    obtain ⟨within, reply⟩ := read_reply_iff.1 found
    have again := read_of_isReply reply more
    rwa [List.length_take_of_le within] at again

-- A blank line, "250-a" with two returns, a bare line feed, "250", and the beginning of a next reply.
theorem reply_is_found_between_blank_lines :
    let bytes : Bytes := [13, 10, 50, 53, 48, 45, 97, 13, 13, 10, 10, 50, 53, 48, 10, 50, 53]
    (15 ≤ bytes.length ∧ IsReply ⟨250, ["a", ""]⟩ (bytes.take 15)) ∧
      read bytes = .ok (some (⟨250, ["a", ""]⟩, 15)) ∧
      (∀ r n, n ≤ bytes.length ∧ IsReply r (bytes.take n) → ⟨250, ["a", ""]⟩ = r ∧ 15 = n) ∧
      ∀ more, read (bytes.take 15 ++ more) = .ok (some (⟨250, ["a", ""]⟩, 15)) := by
  intro bytes
  have first : IsBlank [13, 10] := ⟨⟨by simp, by simp⟩, 1, rfl⟩
  have second : Continues 250 "a" [50, 53, 48, 45, 97, 13, 13, 10] :=
    ⟨by decide, ⟨by decide, by decide⟩, 2, rfl⟩
  have third : IsBlank [10] := ⟨⟨by simp, by simp⟩, 0, rfl⟩
  have last : Concludes 250 "" [50, 53, 48, 10] :=
    ⟨by decide, .inr ⟨rfl, ⟨by decide, by decide⟩, 0, rfl⟩⟩
  have opening := ((Opening.nil.blank first).line (.inl rfl) second).blank third
  have reply : 15 ≤ bytes.length ∧ IsReply ⟨250, ["a", ""]⟩ (bytes.take 15) :=
    ⟨by decide, _, _, _, _, _, rfl, opening, .inr rfl, last, rfl⟩
  have grammar := reading_follows_the_grammar bytes
  have found := (grammar.1 _ _).2 reply
  exact ⟨reply, found, fun r n other => grammar.2.2.2.1 _ _ r n reply other,
    grammar.2.2.2.2 _ _ found⟩

end MailRelay.Reply
