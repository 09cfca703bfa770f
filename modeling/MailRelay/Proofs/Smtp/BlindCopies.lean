import MailRelay.Proofs.Message.OwnFields
import MailRelay.Proofs.Mime.Part

set_option autoImplicit false

namespace MailRelay

namespace Letter

def namesRecipients (name : String) : Bool :=
  ["To", "Cc", "Bcc"].any (Text.sameLetters name)

def recipientFields (head : List Char) : List (List Char × List Char) :=
  ((lines head).map cut).filter fun field => namesRecipients (String.ofList field.1)

end Letter

namespace Ingest

variable [ForeignDecoders] {header : Header} {recipients : List String}

theorem file_of_seen (seen : ∃ r ∈ recipients, isBlind header r = false) :
    ((file header recipients).addressees ++ (file header recipients).cc).Perm
        (recipients.filter (isSeen header)) ∧
      (file header recipients).bcc = recipients.filter (isBlind header) ∧
      file header (recipients.filter (isSeen header)) =
        { file header recipients with bcc := [] } := by
  have some : recipients.filter (isSeen header) ≠ [] := by
    obtain ⟨r, member, free⟩ := seen
    exact List.ne_nil_of_mem (List.mem_filter.2 ⟨member, by simp [isSeen, free]⟩)
  have parts := seen_perm header recipients
  have again := file_eq header (recipients.filter (isSeen header))
  have blind : (recipients.filter (isSeen header)).filter (isBlind header) = [] := by
    refine List.filter_eq_nil_iff.2 fun r member hidden => ?_
    simpa [isSeen, hidden] using (List.mem_filter.1 member).2
  rw [filter_seen header recipients fun _ => isSeen_of_isDirect header,
    filter_seen header recipients fun _ => isSeen_of_isCopied header, blind] at again
  rw [again, file_eq]
  generalize recipients.filter (isDirect header) = direct at parts
  generalize recipients.filter (isCopied header) = copied at parts
  cases direct with
  | cons => exact ⟨parts, rfl, rfl⟩
  | nil =>
    cases copied with
    | cons => exact ⟨by simpa using parts, rfl, rfl⟩
    | nil => exact absurd parts.nil_eq.symm some

theorem file_of_blind (blind : ∀ r ∈ recipients, isBlind header r = true) :
    file header recipients = ⟨recipients, [], []⟩ := by
  have hidden : recipients.filter (isBlind header) = recipients := List.filter_eq_self.2 blind
  have none : recipients.filter (isSeen header) = [] :=
    List.filter_eq_nil_iff.2 fun r member seen => by simp [isSeen, blind r member] at seen
  have parts := seen_perm header recipients
  rw [none] at parts
  obtain ⟨direct, copied⟩ := List.append_eq_nil_iff.1 parts.eq_nil
  rw [file_eq, direct, copied, hidden]
  rfl

end Ingest

namespace Message

variable {id sender : String} {recipients : List String} {raw : Bytes} {now date : Instant}
variable {m : Message}

def recipientFields (m : Message) : List (String × String) :=
  ("To", singleLine (String.intercalate ", " m.addressees)) ::
    if m.cc.isEmpty then [] else [("Cc", singleLine (String.intercalate ", " m.cc))]

theorem recipientFields_read (clear : ∀ field ∈ m.fields date, ':' ∉ field.1.toList) :
    ∃ head, Letter.divide? (m.render date).toList = some (head, (m.htmlBody.getD m.body).toList) ∧
      Letter.recipientFields head = m.recipientFields.map cutField := by
  obtain ⟨head, divided, fields⟩ := header_read clear
  refine ⟨head, divided, ?_⟩
  have custom : (m.headers.entries.filter isWritten).filter
      (fun field => Letter.namesRecipients field.1) = [] := by
    refine List.filter_eq_nil_iff.2 fun field member named => ?_
    obtain ⟨name, known, same⟩ := List.any_eq_true.1 named
    have reserved : ∀ name ∈ ["To", "Cc", "Bcc"], isReserved name = true := by decide
    have written := (List.mem_filter.1 member).2
    simp [isWritten, isReserved_congr same, reserved name known] at written
  have theirs : ∀ name ∈ ["To", "Cc"], Letter.namesRecipients name = true := by decide
  have others : ∀ name ∈ ["From", "Subject", "Date", "MIME-Version", "Content-Type"],
      Letter.namesRecipients name = false := by decide
  simp only [List.forall_mem_cons] at theirs others
  have named : (m.fields date).filter (fun field => Letter.namesRecipients field.1) =
      ("To", String.intercalate ", " m.addressees) ::
        if m.cc.isEmpty then [] else [("Cc", String.intercalate ", " m.cc)] := by
    rw [Message.fields, List.filter_append, List.filter_append, List.filter_append, custom]
    split <;> simp [theirs, others]
  rw [Letter.recipientFields, fields, List.filter_map, List.filter_map]
  simp only [Function.comp_def, cutField, String.ofList_toList, named, recipientFields]
  split <;> rfl

section

variable [ForeignDecoders]

theorem name_clear_of_mail (made : ofMail id sender recipients raw now = .ok m)
    {field : String × String} (member : field ∈ m.fields date) : ':' ∉ field.1.toList := by
  obtain ⟨header, part, content, read, -, rfl⟩ := ofMail_eq_ok made
  rcases name_of_field member with own | ⟨custom, -⟩
  · have clear : ∀ alone, ∀ name ∈ ownNames alone, ':' ∉ name.toList := by decide
    exact clear _ _ own
  · obtain ⟨-, f, among, named⟩ := Ingest.mem_customFields header custom
    exact named ▸ Part.colon_not_mem read f among

theorem ofMail_seen (made : ofMail id sender recipients raw now = .ok m) {header : Header}
    {part : Part} (read : Part.read false raw = .ok (header, part))
    (seen : ∃ r ∈ recipients, Ingest.isBlind header r = false) :
    ofMail id sender (recipients.filter (Ingest.isSeen header)) raw now =
      .ok { m with bcc := [] } := by
  obtain ⟨_, _, content, again, gathered, rfl⟩ := ofMail_eq_ok made
  cases read.symm.trans again
  rw [ofMail_of_read read, gathered]
  simp only [Except.map, ofParts, (Ingest.file_of_seen seen).2.2]

/-- A message shows a blind recipient only when it has no other ones. Else it goes out as it would to
the recipients that are seen, and its header names these. -/
theorem blind_recipients_are_hidden_by_others {id sender : String} {recipients : List String}
    {raw : Bytes} {now : Instant} {m : Message}
    (made : ofMail id sender recipients raw now = .ok m) :
    ∃ header part, Part.read false raw = .ok (header, part) ∧
      (∀ r ∈ recipients, Ingest.isBlind header r = true →
        (r ∈ m.addressees ++ m.cc ↔ ∀ other ∈ recipients, Ingest.isBlind header other = true)) ∧
      ((∃ r ∈ recipients, Ingest.isBlind header r = false) →
        (m.addressees ++ m.cc).Perm (recipients.filter (Ingest.isSeen header)) ∧
        m.bcc = recipients.filter (Ingest.isBlind header) ∧
        ∃ m', ofMail id sender (recipients.filter (Ingest.isSeen header)) raw now = .ok m' ∧
          ∀ date, m'.render date = m.render date) ∧
      ∀ date, ∃ head,
        Letter.divide? (m.render date).toList = some (head, (m.htmlBody.getD m.body).toList) ∧
        Letter.recipientFields head = m.recipientFields.map cutField := by
  obtain ⟨header, part, content, read, -, eq⟩ := ofMail_eq_ok made
  have addressees : m.addressees = (Ingest.file header recipients).addressees := by rw [eq]; rfl
  have copies : m.cc = (Ingest.file header recipients).cc := by rw [eq]; rfl
  have blind : m.bcc = (Ingest.file header recipients).bcc := by rw [eq]; rfl
  refine ⟨header, part, read, fun r member hidden => ?_, fun seen => ?_, fun date => ?_⟩
  · rw [addressees, copies]
    constructor
    · intro shown other among
      by_contra free
      have parts := (Ingest.file_of_seen ⟨other, among, by simpa using free⟩).1
      have kept := (List.mem_filter.1 (parts.mem_iff.1 shown)).2
      simp [Ingest.isSeen, hidden] at kept
    · intro all
      rw [Ingest.file_of_blind all]
      simpa using member
  · obtain ⟨parts, hidden, -⟩ := Ingest.file_of_seen seen
    rw [addressees, copies, blind]
    exact ⟨parts, hidden, _, ofMail_seen made read seen, fun _ => rfl⟩
  · exact recipientFields_read fun _ => name_clear_of_mail made

end

def copiedMail : Bytes :=
  Utf8.ofString "Cc: c@example.org\r\nBcc: v@example.net, C@example.org\r\n\r\nb\r\n"

def copiedNote : Message :=
  { Message.new "m" "a@example.com" ["b@example.org"] "" .min with
    cc := ["c@example.org"]
    bcc := ["v@example.net"]
    body := "b\r\n" }

open AsciiOnly in
theorem copied_note_hides_its_blind_recipient :
    ofMail "m" "a@example.com" ["v@example.net", "c@example.org", "b@example.org"] copiedMail .min =
        .ok copiedNote ∧
      ∃ m', ofMail "m" "a@example.com" ["c@example.org", "b@example.org"] copiedMail .min = .ok m' ∧
        ∀ date, m'.render date = copiedNote.render date := by
  have made : ofMail "m" "a@example.com" ["v@example.net", "c@example.org", "b@example.org"]
      copiedMail .min = .ok copiedNote := by
    decide +kernel
  have seen : (Part.read false copiedMail).map (fun mail =>
      (Ingest.isBlind mail.1 "b@example.org",
        ["v@example.net", "c@example.org", "b@example.org"].filter (Ingest.isSeen mail.1))) =
        .ok (false, ["c@example.org", "b@example.org"]) := by
    decide +kernel
  obtain ⟨header, part, read, -, alike, -⟩ := blind_recipients_are_hidden_by_others made
  simp only [read, Except.map, Except.ok.injEq, Prod.mk.injEq] at seen
  obtain ⟨-, -, m', again, same⟩ := alike ⟨"b@example.org", by simp, seen.1⟩
  exact ⟨made, m', seen.2 ▸ again, same⟩

def blindMail : Bytes :=
  Utf8.ofString "Bcc: v@example.net, w@example.net\r\n\r\nb\r\n"

def blindNote : Message :=
  { Message.new "m" "a@example.com" ["v@example.net", "w@example.net"] "" .min with
    body := "b\r\n" }

open AsciiOnly in
theorem blind_recipients_alone_are_addressed :
    ofMail "m" "a@example.com" ["v@example.net", "w@example.net"] blindMail .min = .ok blindNote ∧
      (∃ header part, Part.read false blindMail = .ok (header, part) ∧
        Ingest.isBlind header "v@example.net" = true ∧
        Ingest.isBlind header "w@example.net" = true) ∧
      "v@example.net" ∈ blindNote.addressees ∧ "w@example.net" ∈ blindNote.addressees ∧
      ∃ head, Letter.divide? (blindNote.render .min).toList = some (head, "b\r\n".toList) ∧
        Letter.recipientFields head =
          [("To".toList, " v@example.net, w@example.net".toList)] := by
  have made : ofMail "m" "a@example.com" ["v@example.net", "w@example.net"] blindMail .min =
      .ok blindNote := by
    decide +kernel
  have blind : (Part.read false blindMail).map (fun mail =>
      (Ingest.isBlind mail.1 "v@example.net", Ingest.isBlind mail.1 "w@example.net")) =
        .ok (true, true) := by
    decide +kernel
  obtain ⟨header, part, content, read, -⟩ := ofMail_eq_ok made
  simp only [read, Except.map, Except.ok.injEq, Prod.mk.injEq] at blind
  have clear : ∀ field ∈ blindNote.fields .min, ':' ∉ field.1.toList :=
    fun _ => name_clear_of_mail made
  obtain ⟨head, divided, fields⟩ := recipientFields_read clear
  exact ⟨made, ⟨header, part, read, blind⟩, by decide, by decide, head, divided, fields⟩

end Message

end MailRelay
