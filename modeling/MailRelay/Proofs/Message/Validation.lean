import MailRelay.Proofs.Message.Rules

set_option autoImplicit false

namespace MailRelay

def ValidationError.isCount : ValidationError → Bool
  | noRecipients | tooManyRecipients .. => true
  | _ => false

namespace Message

variable {m : Message} {limits : Limits}

theorem validate_ok (accepted : m.validate limits = .ok ()) :
    m.addressees ≠ [] ∧ ∀ s ∈ m.sender :: m.recipients, isAddress s = true := by
  have fine := validate_ok_iff.1 accepted
  have none : m.recipients.find? (!isAddress ·) = none :=
    Option.eq_none_iff_forall_ne_some.2 fun bad found => fine _ (breaks_recipient_iff.2 found)
  have sender : isAddress m.sender = true := by
    by_contra unread
    exact fine _ (breaks_sender_iff.2 (Bool.not_eq_true _ ▸ unread))
  exact ⟨fun nobody => fine _ (.addressees nobody),
    List.forall_mem_cons.2 ⟨sender, by simpa using none⟩⟩

theorem header_of_validate (accepted : m.validate limits = .ok ()) :
    Text.hasLineBreak m.subject = false ∧
      ∀ field ∈ m.headers.entries,
        isFieldName field.1 = true ∧ Text.hasLineBreak field.2 = false := by
  have none : m.badHeader? = none := Option.eq_none_iff_forall_ne_some.2 fun shown shows =>
    validate_ok_iff.1 accepted _ (breaks_header_iff.2 shows)
  unfold badHeader? at none
  split at none
  · cases none
  · next unbroken =>
    refine ⟨by simpa using unbroken, fun field member => ?_⟩
    have fine := List.find?_eq_none.1 (Option.map_eq_none_iff.1 none) field member
    simpa [isBadField] using fine

variable {e : ValidationError}

theorem validate_isCount (addressed : m.addressees ≠ [])
    (few : m.recipients.length ≤ limits.maxRecipients) (refused : m.validate limits = .error e) :
    e.isCount = false := by
  cases (validate_error_iff.1 refused).1 with
  | addressees nobody => exact absurd nobody addressed
  | count many =>
    rw [length_recipients] at few
    exact absurd few (Nat.not_le_of_lt many)
  | sender | recipient | subject | subjectLine | field | body | size => rfl

theorem validate_invalidSender_iff :
    m.validate limits = .error .invalidSender ↔ isAddress m.sender = false := by
  rw [validate_error_iff, breaks_sender_iff]
  exact and_iff_left fun other _ => Nat.zero_le other.rank

theorem validate_invalidRecipient_iff (addressed : m.addressees ≠ []) {address : String} :
    m.validate limits = .error (.invalidRecipient address) ↔
      isAddress m.sender = true ∧ m.recipients.find? (!isAddress ·) = some address := by
  rw [validate_error_iff, breaks_recipient_iff, and_comm]
  refine and_congr_left fun _ => ⟨fun first => ?_, fun good other broken => ?_⟩
  · by_contra unread
    have early := first _ (breaks_sender_iff.2 (Bool.not_eq_true _ ▸ unread))
    simp [ValidationError.rank] at early
  · cases broken with
    | sender unread => simp [isAddress, unread] at good
    | addressees nobody => exact absurd nobody addressed
    | recipient | count | subject | subjectLine | field | body | size =>
      simp [ValidationError.rank]

theorem validate_messageTooLarge {size max : Nat}
    (refused : m.validate limits = .error (.messageTooLarge size max)) :
    max = limits.maxMessageSize ∧ limits.maxMessageSize < m.size := by
  obtain ⟨large, -, same⟩ := breaks_size_iff.1 (validate_error_iff.1 refused).1
  exact ⟨same.symm, large⟩

end Message

end MailRelay
