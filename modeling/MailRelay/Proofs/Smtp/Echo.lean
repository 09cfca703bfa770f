import MailRelay.Proofs.Address.Mailbox
import MailRelay.Proofs.Message.Validation
import MailRelay.Proofs.Smtp.Reply
import MailRelay.Proofs.Smtp.Session

set_option autoImplicit false

namespace MailRelay

namespace Text

open Reply (FitsLine)

theorem fitsLine_append {s t : String} (first : FitsLine s.toList) (second : FitsLine t.toList) :
    FitsLine (s ++ t).toList := by
  rw [String.toList_append]
  exact first.append second

theorem fitsLine_numbers {s t u : String} (first : FitsLine s.toList) (second : FitsLine t.toList)
    (third : FitsLine u.toList) (n m : Nat) :
    FitsLine (s ++ toString n ++ t ++ toString m ++ u).toList := by
  have front := fitsLine_append first (Reply.fitsLine_toString n)
  have middle := fitsLine_append (fitsLine_append front second) (Reply.fitsLine_toString m)
  exact fitsLine_append middle third

theorem digitChar_of_mem_toDigits {base n : Nat} {c : Char} (large : 1 < base)
    (member : c ∈ Nat.toDigits base n) : ∃ d < base, c = Nat.digitChar d := by
  induction n using Nat.strongRecOn with
  | ind n ih =>
    by_cases small : n < base
    · rw [Nat.toDigits_of_lt_base small, List.mem_singleton] at member
      exact ⟨n, small, member⟩
    · rw [Nat.toDigits_of_base_le large (Nat.le_of_not_lt small)] at member
      rcases List.mem_append.1 member with front | last
      · exact ih _ (Nat.div_lt_self (by omega) large) front
      · exact ⟨_, Nat.mod_lt _ (by omega), List.mem_singleton.1 last⟩

theorem fitsLine_byNumber (c : Char) : FitsLine (byNumber c).toList := by
  have digits : FitsLine (hexDigits c.toNat).toList := by
    have other : ∀ d : Fin 16, Nat.digitChar d ≠ '\r' ∧ Nat.digitChar d ≠ '\n' := by decide
    have clean : ∀ x ∈ Nat.toDigits 16 c.toNat, x ≠ '\r' ∧ x ≠ '\n' := by
      intro x member
      obtain ⟨d, small, rfl⟩ := digitChar_of_mem_toDigits (by decide) member
      exact other ⟨d, small⟩
    rw [hexDigits, String.toList_ofList]
    exact Reply.fitsLine_of_clean (fun member => (clean _ member).1 rfl)
      fun member => (clean _ member).2 rfl
  exact fitsLine_append (fitsLine_append (by decide) digits) (by decide)

theorem fitsLine_escapeChar (c : Char) : FitsLine (escapeChar c).toList := by
  unfold escapeChar
  split
  case h_7 noReturn noFeed _ _ _ =>
    split
    · rw [String.toList_singleton]
      exact Reply.fitsLine_of_clean (by simpa using Ne.symm noReturn)
        (by simpa using Ne.symm noFeed)
    · exact fitsLine_byNumber c
  all_goals decide

theorem fitsLine_escaped (s : String) : FitsLine (escaped s).toList := by
  rw [escaped, String.toList_join]
  induction s.toList with
  | nil => decide
  | cons c rest ih => exact (fitsLine_escapeChar c).append ih

end Text

namespace Command

open Reply (FitsLine)

def kept? : Command → Option String
  | rcpt recipient => some recipient
  | invalid reason => some reason
  | _ => none

def Fits (c : Command) : Prop :=
  ∀ text, c.kept? = some text → FitsLine text.toList

end Command

namespace Message

open Reply (FitsLine)

variable {m : Message} {limits : Limits} {e : ValidationError}

theorem validate_fits (clean : ∀ recipient ∈ m.recipients, FitsLine recipient.toList)
    (refused : m.validate limits = .error e) : FitsLine e.message.toList := by
  cases (validate_error_iff.1 refused).1 with
  | @recipient before after bad parts =>
    have member : bad ∈ m.recipients := by
      rw [recipients, parts]
      simp
    exact Text.fitsLine_append (by decide) (clean bad member)
  | field => exact Text.fitsLine_append (by decide) (Text.fitsLine_escaped _)
  | count | size => exact Text.fitsLine_numbers (by decide) (by decide) (by decide) _ _
  | sender | addressees | subject | subjectLine | body => decide

end Message

namespace Session

end Session

end MailRelay
