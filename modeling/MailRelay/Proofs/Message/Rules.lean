import MailRelay.Message.Validation
import MailRelay.Proofs.SortedMap
import MailRelay.Proofs.Text.Utf8

set_option autoImplicit false

namespace MailRelay

namespace Text

def IsUnbroken (s : String) : Prop :=
  '\r' ∉ s.toList ∧ '\n' ∉ s.toList

theorem hasLineBreak_iff {s : String} : hasLineBreak s = true ↔ ¬ IsUnbroken s := by
  rw [IsUnbroken, ← hasLineBreak_eq_false_iff, Bool.not_eq_false]

end Text

def ValidationError.rank : ValidationError → Nat
  | invalidSender => 0
  | noRecipients => 1
  | invalidRecipient _ => 2
  | tooManyRecipients .. => 3
  | emptySubject => 4
  | invalidHeader _ => 5
  | emptyBody => 6
  | messageTooLarge .. => 7

namespace Message

variable {m : Message} {limits : Limits} {e : ValidationError}

def IsField (name value : String) : Prop :=
  (name ≠ "" ∧ ∀ c ∈ name.toList, 33 ≤ c.toNat ∧ c.toNat ≤ 126 ∧ c ≠ ':') ∧ Text.IsUnbroken value

/-- What is said of a message that breaks a rule, whatever becomes of the other rules. -/
inductive Breaks (m : Message) (limits : Limits) : ValidationError → Prop where
  | sender (unread : Mailbox.parse? m.sender = none) : Breaks m limits .invalidSender
  | addressees (nobody : m.addressees = []) : Breaks m limits .noRecipients
  | recipient {before after : List String} {bad : String}
      (parts : m.addressees ++ m.cc ++ m.bcc = before ++ bad :: after)
      (read : ∀ recipient ∈ before, Mailbox.parse? recipient ≠ none)
      (unread : Mailbox.parse? bad = none) : Breaks m limits (.invalidRecipient bad)
  | count (many : limits.maxRecipients < m.addressees.length + m.cc.length + m.bcc.length) :
    Breaks m limits (.tooManyRecipients (m.addressees.length + m.cc.length + m.bcc.length)
      limits.maxRecipients)
  | subject (blank : ∀ c ∈ m.subject.toList, Text.isBlank c = true) : Breaks m limits .emptySubject
  | subjectLine (broken : ¬ Text.IsUnbroken m.subject) : Breaks m limits (.invalidHeader "Subject")
  | field {name value : String} (unbroken : Text.IsUnbroken m.subject)
      (held : m.headers.get? name = some value) (unfit : ¬ IsField name value)
      (first : ∀ other text, m.headers.get? other = some text → ¬ IsField other text →
        compare other name ≠ .lt) : Breaks m limits (.invalidHeader (Text.escaped name))
  | body (blank : ∀ c ∈ m.body.toList, Text.isBlank c = true)
      (html : ∀ text, m.html = some text → ∀ c ∈ text.toList, Text.isBlank c = true) :
    Breaks m limits .emptyBody
  | size (large : limits.maxMessageSize < m.size) :
    Breaks m limits (.messageTooLarge m.size limits.maxMessageSize)

def badHeader? (m : Message) : Option String :=
  if Text.hasLineBreak m.subject then some "Subject"
  else (m.headers.entries.find? isBadField).map fun field => Text.escaped field.1

def verdicts (m : Message) (limits : Limits) : List (Option ValidationError) :=
  [if isAddress m.sender then none else some .invalidSender,
    if m.addressees.isEmpty then some .noRecipients else none,
    (m.recipients.find? (!isAddress ·)).map .invalidRecipient,
    if limits.maxRecipients < m.recipients.length then
      some (.tooManyRecipients m.recipients.length limits.maxRecipients) else none,
    if Text.allBlank m.subject then some .emptySubject else none,
    m.badHeader?.map .invalidHeader,
    if Text.allBlank m.body && m.htmlBody.isNone then some .emptyBody else none,
    if limits.maxMessageSize < m.size then
      some (.messageTooLarge m.size limits.maxMessageSize) else none]

theorem validate_eq (m : Message) (limits : Limits) :
    m.validate limits =
      match (m.verdicts limits).findSome? fun said => said with
      | some e => .error e
      | none => .ok () := by
  unfold validate checkRecipients checkHeader checkContent verdicts badHeader?
  cases isAddress m.sender with
  | false => rfl
  | true =>
  cases m.addressees.isEmpty with
  | true => rfl
  | false =>
  cases m.recipients.find? (!isAddress ·) with
  | some bad => rfl
  | none =>
  by_cases many : limits.maxRecipients < m.recipients.length
  · simp [many, bind, Except.bind]
  cases Text.allBlank m.subject with
  | true => simp [many, bind, Except.bind]
  | false =>
  cases Text.hasLineBreak m.subject with
  | true => simp [many, bind, Except.bind]
  | false =>
  cases m.headers.entries.find? isBadField with
  | some field => simp [many, bind, Except.bind]
  | none =>
  cases Text.allBlank m.body && m.htmlBody.isNone with
  | true => simp [many, bind, Except.bind]
  | false =>
  by_cases large : limits.maxMessageSize < m.size <;> simp [many, large, bind, Except.bind]

theorem isBadField_iff {name value : String} :
    isBadField (name, value) = true ↔ ¬ IsField name value := by
  have graphic (c : Char) : Text.isGraphic c = true ↔ 33 ≤ c.toNat ∧ c.toNat ≤ 126 := by
    simp [Text.isGraphic]
  have named : isFieldName name = true ↔
      name ≠ "" ∧ ∀ c ∈ name.toList, 33 ≤ c.toNat ∧ c.toNat ≤ 126 ∧ c ≠ ':' := by
    simp [isFieldName, graphic, and_assoc]
  rw [isBadField, Bool.or_eq_true, Bool.not_eq_true', ← Bool.not_eq_true, Text.hasLineBreak_iff,
    IsField, ← named, not_and_or]

theorem breaks_sender_iff : Breaks m limits .invalidSender ↔ isAddress m.sender = false := by
  have unread : isAddress m.sender = false ↔ Mailbox.parse? m.sender = none := by simp [isAddress]
  rw [unread]
  constructor
  · intro broken
    cases broken with
    | sender unread => exact unread
  · exact .sender

theorem breaks_addressees_iff : Breaks m limits .noRecipients ↔ m.addressees = [] := by
  constructor
  · intro broken
    cases broken with
    | addressees nobody => exact nobody
  · exact .addressees

theorem breaks_recipient_iff {bad : String} :
    Breaks m limits (.invalidRecipient bad) ↔ m.recipients.find? (!isAddress ·) = some bad := by
  rw [List.find?_eq_some_iff_append]
  constructor
  · intro broken
    cases broken with
    | @recipient before after _ parts read unread =>
      refine ⟨by simp [isAddress, unread], before, after, parts, fun recipient member => ?_⟩
      simpa [isAddress, Option.isSome_iff_ne_none] using read recipient member
  · rintro ⟨unread, before, after, parts, read⟩
    refine .recipient parts (fun recipient member => ?_) (by simpa [isAddress] using unread)
    simpa [isAddress, Option.isSome_iff_ne_none] using read recipient member

theorem length_recipients (m : Message) :
    m.recipients.length = m.addressees.length + m.cc.length + m.bcc.length := by
  simp [recipients, Nat.add_assoc]

theorem breaks_count_iff {count max : Nat} :
    Breaks m limits (.tooManyRecipients count max) ↔
      limits.maxRecipients < m.recipients.length ∧ m.recipients.length = count ∧
        limits.maxRecipients = max := by
  rw [length_recipients]
  constructor
  · intro broken
    cases broken with
    | count many => exact ⟨many, rfl, rfl⟩
  · rintro ⟨many, rfl, rfl⟩
    exact .count many

theorem breaks_subject_iff : Breaks m limits .emptySubject ↔ Text.allBlank m.subject = true := by
  rw [Text.allBlank, List.all_eq_true]
  constructor
  · intro broken
    cases broken with
    | subject blank => exact blank
  · exact .subject

theorem breaks_header_iff {shown : String} :
    Breaks m limits (.invalidHeader shown) ↔ m.badHeader? = some shown := by
  unfold badHeader?
  constructor
  · intro broken
    cases broken with
    | subjectLine broken => rw [if_pos (Text.hasLineBreak_iff.2 broken)]
    | @field name value unbroken held unfit first =>
      have found : m.headers.entries.find? isBadField = some (name, value) := by
        rw [SortedMap.find?_entries_iff, isBadField_iff]
        refine ⟨held, unfit, fun other text stored bad => ?_⟩
        exact first other text stored (isBadField_iff.1 bad)
      simp [Text.hasLineBreak_iff, unbroken, found]
  · intro shows
    split at shows
    · next broken =>
      cases shows
      exact .subjectLine (Text.hasLineBreak_iff.1 broken)
    · next unbroken =>
      obtain ⟨⟨name, value⟩, found, rfl⟩ := Option.map_eq_some_iff.1 shows
      rw [SortedMap.find?_entries_iff, isBadField_iff] at found
      obtain ⟨held, unfit, first⟩ := found
      refine .field (by simpa [Text.hasLineBreak_iff] using unbroken) held unfit ?_
      intro other text stored bad
      exact first other text stored (isBadField_iff.2 bad)

theorem breaks_body_iff :
    Breaks m limits .emptyBody ↔ Text.allBlank m.body = true ∧ m.htmlBody = none := by
  have html : m.htmlBody = none ↔
      ∀ text, m.html = some text → ∀ c ∈ text.toList, Text.isBlank c = true := by
    simp [htmlBody, Text.allBlank, Option.filter_eq_none_iff]
  rw [html, Text.allBlank, List.all_eq_true]
  constructor
  · intro broken
    cases broken with
    | body blank html => exact ⟨blank, html⟩
  · exact fun ⟨blank, html⟩ => .body blank html

theorem breaks_size_iff {size max : Nat} :
    Breaks m limits (.messageTooLarge size max) ↔
      limits.maxMessageSize < m.size ∧ m.size = size ∧ limits.maxMessageSize = max := by
  constructor
  · intro broken
    cases broken with
    | size large => exact ⟨large, rfl, rfl⟩
  · rintro ⟨large, rfl, rfl⟩
    exact .size large

theorem verdict_iff : (m.verdicts limits)[e.rank]? = some (some e) ↔ Breaks m limits e := by
  cases e with
  | invalidSender => simp [verdicts, ValidationError.rank, breaks_sender_iff]
  | noRecipients => simp [verdicts, ValidationError.rank, breaks_addressees_iff]
  | invalidRecipient bad => simp [verdicts, ValidationError.rank, breaks_recipient_iff]
  | tooManyRecipients count max => simp [verdicts, ValidationError.rank, breaks_count_iff]
  | emptySubject => simp [verdicts, ValidationError.rank, breaks_subject_iff]
  | invalidHeader shown => simp [verdicts, ValidationError.rank, breaks_header_iff]
  | emptyBody => simp [verdicts, ValidationError.rank, breaks_body_iff]
  | messageTooLarge size max => simp [verdicts, ValidationError.rank, breaks_size_iff]

-- No rule speaks with the error of another one.
theorem rank_of_verdict {i : Nat} (said : (m.verdicts limits)[i]? = some (some e)) :
    i = e.rank := by
  unfold verdicts at said
  rcases i with _ | _ | _ | _ | _ | _ | _ | _ | i <;> simp at said <;> grind [ValidationError.rank]

theorem findSome?_verdicts_iff :
    (m.verdicts limits).findSome? (fun said => said) = some e ↔
      Breaks m limits e ∧ ∀ other, Breaks m limits other → e.rank ≤ other.rank := by
  rw [List.findSome?_eq_some_iff]
  constructor
  · rintro ⟨before, _, after, parts, rfl, none⟩
    have place : (m.verdicts limits)[before.length]? = some (some e) := by simp [parts]
    have rank := rank_of_verdict place
    rw [rank] at place
    refine ⟨verdict_iff.1 place, fun other broken => ?_⟩
    by_contra later
    have early : other.rank < before.length := by omega
    have said := verdict_iff.2 broken
    rw [parts, List.getElem?_append_left early] at said
    cases none _ (List.mem_of_getElem? said)
  · rintro ⟨broken, first⟩
    have said := verdict_iff.2 broken
    obtain ⟨within, held⟩ := List.getElem?_eq_some_iff.1 said
    refine ⟨(m.verdicts limits).take e.rank, some e, (m.verdicts limits).drop (e.rank + 1), ?_, rfl,
      fun verdict member => ?_⟩
    · rw [← held, List.getElem_cons_drop, List.take_append_drop]
    · cases verdict with
      | none => rfl
      | some other =>
        obtain ⟨i, early, same⟩ := List.mem_take_iff_getElem.1 member
        have place : (m.verdicts limits)[i]? = some (some other) :=
          List.getElem?_eq_some_iff.2 ⟨_, same⟩
        have rank := rank_of_verdict place
        rw [rank] at place
        have later := first other (verdict_iff.1 place)
        omega

theorem validate_error_iff :
    m.validate limits = .error e ↔
      Breaks m limits e ∧ ∀ other, Breaks m limits other → e.rank ≤ other.rank := by
  rw [← findSome?_verdicts_iff, validate_eq]
  split <;> next said => simp [said]

theorem validate_ok_iff : m.validate limits = .ok () ↔ ∀ e, ¬ Breaks m limits e := by
  rw [validate_eq]
  split
  · next e said =>
    have broken := (findSome?_verdicts_iff.1 said).1
    simpa using ⟨e, broken⟩
  · next said =>
    simp only [true_iff]
    intro e broken
    have silent := List.findSome?_eq_none_iff.1 said _ (List.mem_of_getElem? (verdict_iff.2 broken))
    cases silent

theorem breaks_of_limits (accepted : m.validate limits = .ok ()) {limits' : Limits}
    (broken : Breaks m limits' e) :
    e = .tooManyRecipients m.recipients.length limits'.maxRecipients ∧
        limits'.maxRecipients < limits.maxRecipients ∨
      e = .messageTooLarge m.size limits'.maxMessageSize ∧
        limits'.maxMessageSize < limits.maxMessageSize := by
  have fine := validate_ok_iff.1 accepted
  cases broken with
  | count many =>
    have few : ¬ limits.maxRecipients < m.addressees.length + m.cc.length + m.bcc.length :=
      fun many => fine _ (.count many)
    rw [length_recipients]
    exact .inl ⟨rfl, by omega⟩
  | size large =>
    have small : ¬ limits.maxMessageSize < m.size := fun large => fine _ (.size large)
    exact .inr ⟨rfl, by omega⟩
  | sender unread => exact absurd (.sender unread) (fine _)
  | addressees nobody => exact absurd (.addressees nobody) (fine _)
  | recipient parts read unread => exact absurd (.recipient parts read unread) (fine _)
  | subject blank => exact absurd (.subject blank) (fine _)
  | subjectLine broken => exact absurd (.subjectLine broken) (fine _)
  | field unbroken held unfit first => exact absurd (.field unbroken held unfit first) (fine _)
  | body blank html => exact absurd (.body blank html) (fine _)

/-- A message is accepted if it breaks no rule, and refused for the first one that it breaks. More
room never makes it refused, and less room only for want of it. -/
theorem first_broken_rule_is_reported (m : Message) (limits : Limits) :
    (m.validate limits = .ok () ↔ ∀ e, ¬ Breaks m limits e) ∧
    (∀ e, m.validate limits = .error e ↔
      Breaks m limits e ∧ ∀ other, Breaks m limits other → e.rank ≤ other.rank) ∧
    ∀ limits' : Limits, m.validate limits = .ok () →
      (limits.maxRecipients ≤ limits'.maxRecipients →
        limits.maxMessageSize ≤ limits'.maxMessageSize → m.validate limits' = .ok ()) ∧
      ∀ e, m.validate limits' = .error e →
        e = .tooManyRecipients m.recipients.length limits'.maxRecipients ∧
            limits'.maxRecipients < limits.maxRecipients ∨
          e = .messageTooLarge m.size limits'.maxMessageSize ∧
            limits'.maxMessageSize < limits.maxMessageSize := by
  refine ⟨validate_ok_iff, fun e => validate_error_iff, fun limits' accepted => ⟨?_, ?_⟩⟩
  · intro recipients size
    refine validate_ok_iff.2 fun e broken => ?_
    rcases breaks_of_limits accepted broken with ⟨-, fewer⟩ | ⟨-, smaller⟩ <;> omega
  · intro e refused
    exact breaks_of_limits accepted (validate_error_iff.1 refused).1

-- The copy counts as a recipient; the message has two of them and four bytes.
theorem limits_are_met_exactly :
    let m := { Message.new "m" "a@example.com" ["b@example.org"] "s" .min with
      cc := ["b@example.org"], body := "body" }
    m.validate ⟨2, 4⟩ = .ok () ∧ m.validate ⟨3, 4⟩ = .ok () ∧
      m.validate ⟨1, 4⟩ = .error (.tooManyRecipients 2 1) ∧
      (ValidationError.tooManyRecipients 2 1 =
          .tooManyRecipients m.recipients.length 1 ∧ 1 < 2 ∨
        ValidationError.tooManyRecipients 2 1 = .messageTooLarge m.size 4 ∧ 4 < 4) := by
  intro m
  have accepted : m.validate ⟨2, 4⟩ = .ok () := by decide +kernel
  have refused : m.validate ⟨1, 4⟩ = .error (.tooManyRecipients 2 1) := by decide +kernel
  have others := (first_broken_rule_is_reported m ⟨2, 4⟩).2.2
  exact ⟨accepted, (others ⟨3, 4⟩ accepted).1 (by decide) (by decide), refused,
    (others ⟨1, 4⟩ accepted).2 _ refused⟩

end Message

end MailRelay
