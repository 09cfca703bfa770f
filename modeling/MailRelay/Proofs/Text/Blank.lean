import Mathlib.Data.List.DropRight
import MailRelay.Text.Blank

set_option autoImplicit false

namespace MailRelay.Text

theorem trimEnd_sublist (s : List Char) : (trimEnd s).Sublist s := by
  have back : (trimEnd s).Sublist s.reverse.reverse := (List.dropWhile_sublist isBlank).reverse
  rwa [List.reverse_reverse] at back

theorem trim_sublist (s : List Char) : (trim s).Sublist s :=
  (trimEnd_sublist _).trans (List.dropWhile_sublist _)

theorem trimStart_cons {c : Char} (visible : isBlank c = false) (rest : List Char) :
    trimStart (c :: rest) = c :: rest :=
  List.dropWhile_cons_of_neg (by simp [visible])

theorem count_dropWhile_isBlank {c : Char} (visible : isBlank c = false) (s : List Char) :
    (s.dropWhile isBlank).count c = s.count c := by
  induction s with
  | nil => rfl
  | cons first rest ih =>
    by_cases blank : isBlank first = true
    · have other : first ≠ c := by
        rintro rfl
        simp [visible] at blank
      simp [blank, ih, other]
    · simp [blank]

theorem count_trim {c : Char} (visible : isBlank c = false) (s : List Char) :
    (trim s).count c = s.count c := by
  rw [trim, trimEnd, List.count_reverse, count_dropWhile_isBlank visible, List.count_reverse,
    trimStart, count_dropWhile_isBlank visible]

theorem getLast?_trim (text : List Char) {c : Char} (last : (trim text).getLast? = some c) :
    isBlank c = false := by
  rw [trim, trimEnd, List.getLast?_reverse] at last
  have kept := List.head?_dropWhile_not isBlank (trimStart text).reverse
  rw [last] at kept
  simpa using kept

theorem trimEnd_cons {c : Char} (visible : isBlank c = false) (rest : List Char) :
    trimEnd (c :: rest) = c :: trimEnd rest := by
  rw [trimEnd, trimEnd, List.reverse_cons, List.dropWhile_append]
  split
  · next nothing => simp [List.isEmpty_iff.1 nothing, visible]
  · simp

theorem trimEnd_trimEnd (s : List Char) : trimEnd (trimEnd s) = trimEnd s := by
  rw [trimEnd, trimEnd, List.reverse_reverse, List.dropWhile_idempotent]

theorem trim_of_shown {first : Char} (shown : isBlank first = false) (rest : List Char) :
    trim (first :: rest) = first :: trimEnd rest := by
  rw [trim, trimStart_cons shown, trimEnd_cons shown]

theorem head?_trim (s : List Char) {c : Char} (begins : (trim s).head? = some c) :
    isBlank c = false := by
  have kept := List.head?_dropWhile_not isBlank s
  rw [trim, trimStart] at begins
  cases started : s.dropWhile isBlank with
  | nil => simp [started, trimEnd] at begins
  | cons first rest =>
    have shown : isBlank first = false := by simpa [started] using kept
    rw [started, trimEnd_cons shown] at begins
    cases begins
    exact shown

theorem trim_trim (s : List Char) : trim (trim s) = trim s := by
  cases trimmed : trim s with
  | nil => rfl
  | cons first rest =>
    have shown : isBlank first = false := head?_trim s (by rw [trimmed]; rfl)
    rw [trim_of_shown shown, ← trimEnd_cons shown, ← trimmed, trim, trimEnd_trimEnd]

end MailRelay.Text
