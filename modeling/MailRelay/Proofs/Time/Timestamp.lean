import MailRelay.Proofs.Text.Blank
import MailRelay.Proofs.Text.Numeral
import MailRelay.Proofs.Time.Calendar
import MailRelay.Time.Timestamp

set_option autoImplicit false

namespace MailRelay

open Text (padded AllDigits)

namespace Instant

theorem of?_self (t : Instant) : of? t.seconds t.nanos = some t :=
  dif_pos ⟨t.lower, t.upper, t.fraction⟩

theorem exists?_civil (t : Instant) :
    Date.exists? t.civil.1.year t.civil.1.month t.civil.1.day = some t.civil.1 :=
  Date.exists?_ofDays (t.seconds / 86400)

theorem clock_cases (t : Instant) :
    t.clock.1 < 24 ∧ t.clock.2.1 < 60 ∧
      (t.clock.2.2 = 60 ∧ t.nanos % 1000000000 + 1000000000 = t.nanos ∧
          t.civil.1.toDays * 86400 + (t.clock.1 * 3600 + t.clock.2.1 * 60 : Nat) + 59 = t.seconds ∨
        t.clock.2.2 < 60 ∧ t.nanos % 1000000000 = t.nanos ∧
          t.civil.1.toDays * 86400 + (t.clock.1 * 3600 + t.clock.2.1 * 60 : Nat) + t.clock.2.2 =
            t.seconds) := by
  have fraction := t.fraction
  rw [civil, Date.toDays_ofDays]
  simp only [clock, civil]
  omega

end Instant

namespace Timestamp

variable {rest : List Char}

theorem bind_of {α β : Type} {found? : Option α} {a : α} (found : found? = some a)
    {next : α → Option β} : found? >>= next = next a := by
  rw [found]
  rfl

theorem trimStart_digits {ds : List Char} (digits : AllDigits ds) (filled : ds ≠ [])
    (rest : List Char) : Text.trimStart (ds ++ rest) = ds ++ rest := by
  cases ds with
  | nil => exact absurd rfl filled
  | cons d ds => exact Text.trimStart_cons (Text.isBlank_of_isDigit (digits d List.mem_cons_self)) _

theorem digits?_append {most : Nat} {ds : List Char} (digits : AllDigits ds) (filled : ds ≠ [])
    (short : ds.length ≤ most)
    (ended : ds.length = most ∨ ∀ c ∈ rest.head?, c.isDigit = false) :
    digits? most (ds ++ rest) = some (ds, rest) := by
  have taken : ((ds ++ rest).take most).takeWhile Char.isDigit = ds := by
    rw [List.take_append, List.take_of_length_le short, List.takeWhile_append_of_pos digits]
    rcases ended with full | stops
    · simp [full]
    · cases rest with
      | nil => simp
      | cons c rest =>
        have other := stops c rfl
        cases left : most - ds.length <;> simp [other]
  have nonempty : ds.isEmpty = false := by simpa using filled
  simp [digits?, taken, nonempty]

theorem value_padded (width n : Nat) : value (padded width n).toList = n := by
  simp [value, Text.natural?_padded]

theorem field?_padded (low high : Nat) {n : Nat} (bounds : low ≤ n ∧ n ≤ high) (small : n < 100)
    (rest : List Char) :
    field? low high ((padded 2 n).toList ++ rest) = some (n, rest) := by
  have digits := Text.allDigits_padded 2 n
  have filled := Text.padded_ne_nil 2 n
  have length : (padded 2 n).toList.length = 2 := Text.length_padded (by decide) small
  rw [field?, trimStart_digits digits filled,
    digits?_append digits filled (Nat.le_of_eq length) (.inl length)]
  simp [value_padded, bounds]

theorem expect?_cons {c : Char} (visible : Text.isBlank c = false) (rest : List Char) :
    expect? c (c :: rest) = some rest := by
  simp [expect?, Text.trimStart_cons visible]

theorem year?_digits {ds : List Char} (digits : AllDigits ds) (filled : ds ≠ [])
    (rest : List Char) :
    year? (ds ++ rest) = (digits? 4 (ds ++ rest)).map fun (read, rest) => (value read, rest) := by
  rw [year?, trimStart_digits digits filled]
  cases ds with
  | nil => exact absurd rfl filled
  | cons d ds =>
    have digit := digits d List.mem_cons_self
    split
    · next signed =>
      cases signed
      simp at digit
    · next signed =>
      cases signed
      simp at digit
    · rfl

theorem year?_minus (rest : List Char) :
    year? ('-' :: rest) =
      (digits? rest.length rest).map fun (read, rest) => (-(value read : Int), rest) := by
  rw [year?, Text.trimStart_cons (by decide)]
  rfl

theorem year?_plus (rest : List Char) :
    year? ('+' :: rest) =
      (digits? rest.length rest).map fun (read, rest) => ((value read : Int), rest) := by
  rw [year?, Text.trimStart_cons (by decide)]
  rfl

theorem year?_yearText (year : Int) (rest : List Char) :
    year? ((yearText year).toList ++ '-' :: rest) = some (year, '-' :: rest) := by
  have digits (n : Nat) := Text.allDigits_padded 4 n
  have filled (n : Nat) := Text.padded_ne_nil 4 n
  have ended : ∀ c ∈ ('-' :: rest).head?, c.isDigit = false := by simp
  have signed (n : Nat) : digits? ((padded 4 n).toList ++ '-' :: rest).length
      ((padded 4 n).toList ++ '-' :: rest) = some ((padded 4 n).toList, '-' :: rest) :=
    digits?_append (digits n) (filled n) (by simp) (.inr ended)
  -- Without a sign four digits are all that is read, with one the digits go on to the dash.
  by_cases common : 0 ≤ year ∧ year ≤ 9999
  · have fits : year.toNat < 10000 := by omega
    have length : (padded 4 year.toNat).toList.length = 4 := Text.length_padded (by decide) fits
    have plain : digits? 4 ((padded 4 year.toNat).toList ++ '-' :: rest) =
        some ((padded 4 year.toNat).toList, '-' :: rest) :=
      digits?_append (digits _) (filled _) (Nat.le_of_eq length) (.inl length)
    have text : yearText year = padded 4 year.toNat := by simp [yearText, common]
    have number : (year.toNat : Int) = year := Int.toNat_of_nonneg common.1
    rw [text, year?_digits (digits _) (filled _), plain, Option.map_some]
    simp only [value_padded, number]
  · have text : yearText year = (if year < 0 then "-" else "+") ++ padded 4 year.natAbs := by
      simp [yearText, common]
    by_cases negative : year < 0
    · have number : -(year.natAbs : Int) = year := by omega
      have begins : (yearText year).toList = '-' :: (padded 4 year.natAbs).toList := by
        simp [text, negative]
      rw [begins, List.cons_append, year?_minus, signed, Option.map_some]
      simp only [value_padded, number]
    · have number : (year.natAbs : Int) = year := by omega
      have begins : (yearText year).toList = '+' :: (padded 4 year.natAbs).toList := by
        simp [text, negative]
      rw [begins, List.cons_append, year?_plus, signed, Option.map_some]
      simp only [value_padded, number]

theorem fraction?_padded (places : Nat) {nanos : Nat} (short : 0 < places ∧ places ≤ 9)
    (fits : nanos < Nat.pow 10 places) (rest : List Char) :
    fraction? ('.' :: (padded places nanos).toList ++ 'Z' :: rest) =
      some (nanos * Nat.pow 10 (9 - places), 'Z' :: rest) := by
  have length : (padded places nanos).toList.length = places := Text.length_padded short.1 fits
  have read : digits? 9 ((padded places nanos).toList ++ 'Z' :: rest) =
      some ((padded places nanos).toList, 'Z' :: rest) :=
    digits?_append (Text.allDigits_padded _ _) (Text.padded_ne_nil _ _) (by omega) (.inr (by simp))
  rw [List.cons_append, fraction?, read]
  simp [value_padded, length]

theorem fraction?_fractionText {nanos : Nat} (part : nanos < 1000000000) (rest : List Char) :
    fraction? ((fractionText nanos).toList ++ 'Z' :: rest) = some (nanos, 'Z' :: rest) := by
  unfold fractionText
  split
  · next none =>
    obtain rfl : nanos = 0 := by simpa using none
    rfl
  split
  · next millis =>
    have whole : nanos / 1000000 * Nat.pow 10 (9 - 3) = nanos :=
      Nat.div_mul_cancel (Nat.dvd_of_mod_eq_zero (by simpa using millis))
    have read := fraction?_padded 3 (by decide)
      (Nat.div_lt_of_lt_mul part : nanos / 1000000 < Nat.pow 10 3) rest
    simpa [whole] using read
  split
  · next micros =>
    have whole : nanos / 1000 * Nat.pow 10 (9 - 6) = nanos :=
      Nat.div_mul_cancel (Nat.dvd_of_mod_eq_zero (by simpa using micros))
    have read := fraction?_padded 6 (by decide)
      (Nat.div_lt_of_lt_mul part : nanos / 1000 < Nat.pow 10 6) rest
    simpa [whole] using read
  · simpa using fraction?_padded 9 (by decide) part rest

def spelled (year : Int) (month day hour minute second nanos : Nat) : List Char :=
  (yearText year).toList ++ '-' :: ((padded 2 month).toList ++ '-' :: ((padded 2 day).toList ++
    'T' :: ((padded 2 hour).toList ++ ':' :: ((padded 2 minute).toList ++
      ':' :: ((padded 2 second).toList ++ ((fractionText nanos).toList ++ ['Z']))))))

theorem read?_spelled {year : Int} {month day hour minute second nanos : Nat} {date : Date}
    (stands : Date.exists? year month day = some date) (hours : hour < 24) (minutes : minute < 60)
    (seconds : second ≤ 60) (part : nanos < 1000000000) :
    read? (spelled year month day hour minute second nanos) =
      if second = 60 then
        Instant.of? (date.toDays * 86400 + (hour * 3600 + minute * 60 : Nat) + 59)
          (nanos + 1000000000)
      else
        Instant.of? (date.toDays * 86400 + (hour * 3600 + minute * 60 : Nat) + second) nanos := by
  obtain ⟨months, days⟩ := Date.bounds_of_exists? stands
  have dash := @expect?_cons '-' (by decide)
  have colon := @expect?_cons ':' (by decide)
  have universal : offset? (Text.trimStart ['Z']) = some (0, []) := by decide
  rw [read?, spelled]
  refine (bind_of (year?_yearText year _)).trans ?_
  refine (bind_of (dash _)).trans ?_
  refine (bind_of (field?_padded 1 12 months (by omega) _)).trans ?_
  refine (bind_of (dash _)).trans ?_
  refine (bind_of (field?_padded 1 31 days (by omega) _)).trans ?_
  refine (bind_of rfl).trans ?_
  refine (bind_of (field?_padded 0 23 (by omega) (by omega) _)).trans ?_
  refine (bind_of (colon _)).trans ?_
  refine (bind_of (field?_padded 0 59 (by omega) (by omega) _)).trans ?_
  refine (bind_of (colon _)).trans ?_
  refine (bind_of (field?_padded 0 60 (by omega) (by omega) _)).trans ?_
  refine (bind_of (fraction?_fractionText part [])).trans ?_
  refine (bind_of universal).trans ?_
  refine (bind_of stands).trans ?_
  by_cases leap : second = 60 <;> simp [leap, Text.trimStart]

theorem toList_write (t : Instant) :
    (write t).toList = spelled t.civil.1.year t.civil.1.month t.civil.1.day t.clock.1 t.clock.2.1
      t.clock.2.2 (t.nanos % 1000000000) := by
  simp [write, clockText, spelled]

theorem read?_write (t : Instant) : read? (write t).toList = some t := by
  have part : t.nanos % 1000000000 < 1000000000 := Nat.mod_lt _ (by decide)
  obtain ⟨hours, minutes, shown⟩ := t.clock_cases
  rcases shown with ⟨second, nanos, seconds⟩ | ⟨second, nanos, seconds⟩
  · rw [toList_write, read?_spelled t.exists?_civil hours minutes (Nat.le_of_eq second) part,
      if_pos second, seconds, nanos, t.of?_self]
  · rw [toList_write, read?_spelled t.exists?_civil hours minutes (Nat.le_of_lt second) part,
      if_neg (Nat.ne_of_lt second), seconds, nanos, t.of?_self]

example : write .max = "+262142-12-31T23:59:59.999999999Z" := by decide +kernel

end Timestamp

end MailRelay
