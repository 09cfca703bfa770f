import MailRelay.Time.Date

set_option autoImplicit false

namespace MailRelay.Date

-- Within 400 years, a century has 36524 days, four years have 1461 and a year has 365. The last of
-- each is one day longer or shorter, which is what the bounds leave open.
theorem spans_of_day {day : Int} (low : 0 ≤ day) (high : day < 146097) :
    ∃ century span year rest : Int, day = 36524 * century + 1461 * span + 365 * year + rest ∧
      (0 ≤ century ∧ century ≤ 3) ∧ (0 ≤ span ∧ span ≤ 24) ∧ (0 ≤ year ∧ year ≤ 3) ∧
      (0 ≤ rest ∧ rest ≤ 365) ∧ (rest = 365 → year = 3 ∧ (span = 24 → century = 3)) := by
  have centuries : ∃ century, 0 ≤ century ∧ century ≤ 3 ∧ 36524 * century ≤ day ∧
      (day ≤ 36524 * century + 36523 ∨ century = 3 ∧ day ≤ 146096) :=
    ⟨min (day / 36524) 3, by omega⟩
  obtain ⟨century, _, _, _, _⟩ := centuries
  have spans : ∃ span, 0 ≤ span ∧ span ≤ 24 ∧ 1461 * span ≤ day - 36524 * century ∧
      day - 36524 * century - 1461 * span ≤ 1460 :=
    ⟨(day - 36524 * century) / 1461, by omega⟩
  obtain ⟨span, _, _, _, _⟩ := spans
  have years : ∃ year, 0 ≤ year ∧ year ≤ 3 ∧ 365 * year ≤ day - 36524 * century - 1461 * span ∧
      (day - 36524 * century - 1461 * span - 365 * year ≤ 364 ∨
        year = 3 ∧ day - 36524 * century - 1461 * span - 365 * year = 365) :=
    ⟨min ((day - 36524 * century - 1461 * span) / 365) 3, by omega⟩
  obtain ⟨year, _, _, _, _⟩ := years
  exact ⟨century, span, year, day - 36524 * century - 1461 * span - 365 * year, by omega⟩

theorem year_of_spans {day century span year rest : Int}
    (parts : day = 36524 * century + 1461 * span + 365 * year + rest)
    (centuries : 0 ≤ century ∧ century ≤ 3) (spans : 0 ≤ span ∧ span ≤ 24)
    (years : 0 ≤ year ∧ year ≤ 3) (rests : 0 ≤ rest ∧ rest ≤ 365)
    (leap : rest = 365 → year = 3 ∧ (span = 24 → century = 3)) :
    (day - day / 1460 + day / 36524 - day / 146096) / 365 = 100 * century + 4 * span + year := by
  by_cases last : day = 146096
  · subst last
    omega
  · have eras : day / 146096 = 0 := by omega
    have hundreds : day / 36524 = century := by omega
    rw [eras, hundreds]
    -- Counted in 1460 days, the spans run ahead by one near the end of a span.
    by_cases long : 1460 ≤ 24 * century + span + 365 * year + rest
    · have fours : day / 1460 = 25 * century + span + 1 := by omega
      omega
    · have fours : day / 1460 = 25 * century + span := by omega
      omega

def daysBefore (year : Int) : Int :=
  365 * year + year / 4 - year / 100

theorem exists_year (day : Int) (low : 0 ≤ day) (high : day < 146097) :
    ∃ year rest : Int, (day - day / 1460 + day / 36524 - day / 146096) / 365 = year ∧
      day = daysBefore year + rest ∧ (0 ≤ year ∧ year ≤ 399) ∧ (0 ≤ rest ∧ rest ≤ 365) ∧
      (rest = 365 → isLeapYear (year + 1) = true) := by
  obtain ⟨century, span, year, rest, parts, centuries, spans, years, rests, leap⟩ :=
    spans_of_day low high
  refine ⟨100 * century + 4 * span + year, rest,
    year_of_spans parts centuries spans years rests leap, ?_, by omega, rests, ?_⟩
  · have fours : (100 * century + 4 * span + year) / 4 = 25 * century + span := by omega
    have hundreds : (100 * century + 4 * span + year) / 100 = century := by omega
    rw [daysBefore, fours, hundreds]
    omega
  · intro full
    have last := leap full
    simp only [isLeapYear, Bool.and_eq_true, Bool.or_eq_true, beq_iff_eq, bne_iff_ne]
    omega

def ofMarch (year month day : Int) : Date :=
  if month < 10 then ⟨year, (month + 3).toNat, day.toNat⟩
  else ⟨year + 1, (month - 9).toNat, day.toNat⟩

theorem toDays_ofMarch {year month day : Int} (months : 0 ≤ month ∧ month ≤ 11)
    (positive : 1 ≤ day) :
    (ofMarch year month day).toDays =
      year / 400 * 146097
        + (daysBefore (year - year / 400 * 400) + ((153 * month + 2) / 5 + day - 1)) - 719468 := by
  by_cases early : month < 10
  · have late : ¬ (month + 3).toNat ≤ 2 := by omega
    have number : ((month + 3).toNat : Int) - 3 = month := by omega
    simp only [ofMarch, early, if_true, toDays, late, if_false, number, daysBefore,
      Int.toNat_of_nonneg (Int.le_trans Int.one_nonneg positive)]
    omega
  · have soon : (month - 9).toNat ≤ 2 := by omega
    have number : ((month - 9).toNat : Int) + 9 = month := by omega
    simp only [ofMarch, early, if_false, toDays, soon, if_true, number, daysBefore,
      Int.add_sub_cancel, Int.toNat_of_nonneg (Int.le_trans Int.one_nonneg positive)]
    omega

theorem ofMarch_fits {year month rest : Int} (place : (5 * rest + 2) / 153 = month)
    (rests : 0 ≤ rest ∧ rest ≤ 365) (leap : rest = 365 → isLeapYear (year + 1) = true) :
    let date := ofMarch year month (rest - (153 * month + 2) / 5 + 1)
    (1 ≤ date.month ∧ date.month ≤ 12) ∧
      1 ≤ date.day ∧ date.day ≤ daysInMonth date.year date.month := by
  by_cases february : month = 11
  · cases isLeap : isLeapYear (year + 1) with
    | true =>
      simp [february, ofMarch, daysInMonth, isLeap]
      omega
    | false =>
      have short : rest ≠ 365 := by
        intro full
        simp [leap full] at isLeap
      simp [february, ofMarch, daysInMonth, isLeap]
      omega
  · have months : month = 0 ∨ month = 1 ∨ month = 2 ∨ month = 3 ∨ month = 4 ∨ month = 5 ∨
        month = 6 ∨ month = 7 ∨ month = 8 ∨ month = 9 ∨ month = 10 := by omega
    rcases months with rfl | rfl | rfl | rfl | rfl | rfl | rfl | rfl | rfl | rfl | rfl <;>
      simp [ofMarch, daysInMonth] <;> omega

theorem daysInMonth_le (year : Int) (month : Nat) : daysInMonth year month ≤ 31 := by
  unfold daysInMonth
  split
  · split <;> decide
  all_goals decide

theorem bounds_of_exists? {year : Int} {month day : Nat} {d : Date}
    (stands : exists? year month day = some d) :
    (1 ≤ month ∧ month ≤ 12) ∧ 1 ≤ day ∧ day ≤ 31 := by
  have longest := daysInMonth_le year month
  simp only [exists?, Option.ite_none_right_eq_some, Bool.and_eq_true, decide_eq_true_eq] at stands
  omega

theorem exists?_self {d : Date} (months : 1 ≤ d.month ∧ d.month ≤ 12)
    (days : 1 ≤ d.day ∧ d.day ≤ daysInMonth d.year d.month) :
    exists? d.year d.month d.day = some d := by
  simp [exists?, months, days]

theorem ofDays_eq_ofMarch (days : Int) :
    ∃ year rest : Int,
      let month := (5 * rest + 2) / 153
      ofDays days = ofMarch year month (rest - (153 * month + 2) / 5 + 1) ∧
        days = year / 400 * 146097 + (daysBefore (year - year / 400 * 400) + rest) - 719468 ∧
        (0 ≤ rest ∧ rest ≤ 365) ∧ (rest = 365 → isLeapYear (year + 1) = true) := by
  obtain ⟨era, number⟩ : ∃ era, (days + 719468) / 146097 = era := ⟨_, rfl⟩
  obtain ⟨year, rest, place, parts, years, rests, leap⟩ :=
    exists_year (days + 719468 - era * 146097) (by omega) (by omega)
  have eras : (year + era * 400) / 400 = era := by omega
  have ofEra : year + era * 400 - era * 400 = year := by omega
  have left : days + 719468 - era * 146097 - (365 * year + year / 4 - year / 100) = rest := by
    rw [parts, daysBefore]
    omega
  refine ⟨year + era * 400, rest, ?_, ?_, rests, ?_⟩
  · have positive : 0 ≤ (5 * rest + 2) / 153 := by omega
    simp only [ofDays]
    rw [number, place, left]
    by_cases early : (5 * rest + 2) / 153 < 10
    · have late : ¬ (5 * rest + 2) / 153 + 3 ≤ 2 := by omega
      simp only [ofMarch, early, if_true, late, if_false]
    · have soon : (5 * rest + 2) / 153 - 9 ≤ 2 := by omega
      simp only [ofMarch, early, if_false, soon, if_true]
  · rw [eras, ofEra]
    omega
  · intro full
    have first := leap full
    simp only [isLeapYear, Bool.and_eq_true, Bool.or_eq_true, beq_iff_eq, bne_iff_ne] at first ⊢
    omega

theorem toDays_ofDays (days : Int) : (ofDays days).toDays = days := by
  obtain ⟨year, rest, date, number, rests, -⟩ := ofDays_eq_ofMarch days
  rw [date, toDays_ofMarch (by omega) (by omega)]
  omega

theorem exists?_ofDays (days : Int) :
    exists? (ofDays days).year (ofDays days).month (ofDays days).day = some (ofDays days) := by
  obtain ⟨year, rest, date, -, rests, leap⟩ := ofDays_eq_ofMarch days
  have fits := ofMarch_fits rfl rests leap
  rw [← date] at fits
  exact exists?_self fits.1 fits.2

end MailRelay.Date
