import MailRelay.Proofs.Smtp.Gathering
import MailRelay.Proofs.Smtp.Ingest

set_option autoImplicit false

namespace MailRelay

namespace Ingest

variable [ForeignDecoders] (header : Header) (recipients : List String)

theorem file_sublist :
    (file header recipients).addressees.Sublist recipients ∧
      (file header recipients).cc.Sublist recipients ∧
      (file header recipients).bcc.Sublist recipients := by
  rcases file_cases header recipients with
    ⟨-, filed⟩ | ⟨-, -, filed⟩ | ⟨-, -, filed⟩ <;> simp [filed]

theorem isCopied_of_mem_file {recipient : String}
    (member : recipient ∈ (file header recipients).cc) : isCopied header recipient = true := by
  rcases file_cases header recipients with ⟨-, filed⟩ | ⟨-, -, filed⟩ | ⟨-, -, filed⟩
  · rw [filed] at member
    exact (List.mem_filter.1 member).2
  · simp [filed] at member
  · simp [filed] at member

theorem isBlind_of_mem_file {recipient : String}
    (member : recipient ∈ (file header recipients).bcc) : isBlind header recipient = true := by
  rcases file_cases header recipients with ⟨-, filed⟩ | ⟨-, -, filed⟩ | ⟨-, -, filed⟩
  · rw [filed] at member
    exact (List.mem_filter.1 member).2
  · rw [filed] at member
    exact (List.mem_filter.1 member).2
  · simp [filed] at member

-- A listed recipient takes the place of an addressee only if there is nobody else to take it.
theorem isDirect_of_mem_file {recipient other : String}
    (member : recipient ∈ (file header recipients).addressees)
    (among : other ∈ recipients) (direct : isDirect header other = true) :
    isDirect header recipient = true := by
  have others : recipients.filter (isDirect header) ≠ [] :=
    List.ne_nil_of_mem (List.mem_filter.2 ⟨among, direct⟩)
  rcases file_cases header recipients with ⟨-, filed⟩ | ⟨none, -⟩ | ⟨none, -⟩
  · rw [filed] at member
    exact (List.mem_filter.1 member).2
  · exact absurd none others
  · exact absurd none others

end Ingest

namespace Message

theorem ofMail_eq_error_iff [ForeignDecoders] {id sender : String} {recipients : List String}
    {raw : Bytes} {now : Instant} {header : Header} {part : Part}
    (parsed : Part.read false raw = .ok (header, part)) {e : MailError} :
    ofMail id sender recipients raw now = .error e ↔ Ingest.Spoils part.leaves e := by
  rw [ofMail_of_read parsed, ← Ingest.collect_eq_error_iff]
  cases Ingest.collect ⟨"", none, []⟩ part <;> simp [Except.map]

/-- Mail that can be parsed is refused only for a part that cannot be decoded. Else each recipient of
its envelope is filed once, in the order of the envelope: as a copy or a blind copy only if it is listed
so, and as an addressee if it is not listed, or if nobody is left out of the lists. -/
theorem recipients_are_filed_once [ForeignDecoders] {raw : Bytes} {header : Header} {part : Part}
    (parsed : Part.read false raw = .ok (header, part)) (id sender : String)
    (recipients : List String) (now : Instant) :
    (∀ e, ofMail id sender recipients raw now = .error e ↔ Ingest.Spoils part.leaves e) ∧
      ∀ m, ofMail id sender recipients raw now = .ok m →
        (m.addressees ++ m.cc ++ m.bcc).Perm recipients ∧
        (m.addressees.Sublist recipients ∧ m.cc.Sublist recipients ∧ m.bcc.Sublist recipients) ∧
        (∀ r ∈ m.cc, Ingest.isCopied header r = true) ∧
        (∀ r ∈ m.bcc, Ingest.isBlind header r = true) ∧
        (∀ r ∈ m.addressees, Ingest.isDirect header r = false →
          ∀ other ∈ recipients, Ingest.isDirect header other = false) ∧
        (∀ r, r ∉ recipients → r ∉ m.addressees ++ m.cc ++ m.bcc) ∧
        (recipients ≠ [] → m.addressees ≠ []) := by
  refine ⟨fun e => ofMail_eq_error_iff parsed, fun m made => ?_⟩
  obtain ⟨_, _, content, again, -, rfl⟩ := ofMail_eq_ok made
  cases parsed.symm.trans again
  have filed := Ingest.file_perm header recipients
  refine ⟨filed, Ingest.file_sublist header recipients,
    fun r => Ingest.isCopied_of_mem_file header recipients,
    fun r => Ingest.isBlind_of_mem_file header recipients, ?_,
    fun r outside => mt filed.mem_iff.1 outside, Ingest.file_addressees header recipients⟩
  intro r member listed other among
  by_contra direct
  have free := Ingest.isDirect_of_mem_file header recipients member among (by simpa using direct)
  rw [listed] at free
  cases free

-- One recipient comes twice, one is listed twice, and one is listed but not among the recipients.
def listedMail : Bytes :=
  Utf8.ofString "CC: C@example.org, y@example.org\r\nBcc: v@example.net, c@example.org\r\n\r\nb\r\n"

def listedNote : Message :=
  { Message.new "m" "a@example.com" ["b@example.org"] "" .min with
    cc := ["c@example.org"]
    bcc := ["v@example.net", "v@example.net"]
    body := "b\r\n" }

open AsciiOnly in
theorem listed_note_has_all_recipients :
    let recipients := ["v@example.net", "c@example.org", "b@example.org", "v@example.net"]
    ∃ header part, Part.read false listedMail = .ok (header, part) ∧
      ofMail "m" "a@example.com" recipients listedMail .min = .ok listedNote ∧
      (listedNote.addressees ++ listedNote.cc ++ listedNote.bcc).Perm recipients ∧
      Ingest.isCopied header "c@example.org" = true ∧
      Ingest.isBlind header "v@example.net" = true := by
  intro recipients
  have made : ofMail "m" "a@example.com" recipients listedMail .min = .ok listedNote := by
    decide +kernel
  obtain ⟨header, part, -, parsed, -⟩ := ofMail_eq_ok made
  obtain ⟨all, -, copied, blind, -⟩ :=
    (recipients_are_filed_once parsed "m" "a@example.com" recipients .min).2 listedNote made
  exact ⟨header, part, parsed, made, all, copied _ (by decide), blind _ (by decide)⟩

/-- The custom fields of a message are those of its mail that are not written anew, each name once, in
capitals or not, as the first field of the name spells it and with its value. -/
theorem first_fields_are_kept [ForeignDecoders] {id sender : String} {recipients : List String}
    {raw : Bytes} {now : Instant} {m : Message} (made : ofMail id sender recipients raw now = .ok m) :
    ∃ header part, Part.read false raw = .ok (header, part) ∧
      (∀ name value, m.headers.get? name = some value ↔
        Ingest.isRegenerated name = false ∧
          ∃ f, header.find? name = some f ∧ f.nameText = name ∧ f.value = value) ∧
      ∀ f ∈ header, Ingest.isRegenerated f.nameText = false →
        ∃! field, field ∈ m.headers.entries ∧ Text.sameLetters field.1 f.nameText = true := by
  obtain ⟨header, part, content, parsed, -, rfl⟩ := ofMail_eq_ok made
  refine ⟨header, part, parsed, fun name value => ?_, fun f => Ingest.existsUnique_customField⟩
  show (Ingest.customFields header).get? name = some value ↔ _
  rw [SortedMap.get?_eq_some_iff, Ingest.mem_customFields_iff, Ingest.IsCustom]
  simp only [Prod.mk.injEq, eq_comm]

def taggedMail : Bytes :=
  Utf8.ofString "X-Tag: 1\r\nMIME-VERSION: 1.0\r\nx-tag: 2\r\nList-Id: l\r\nX-TAG: 3\r\n\r\nb\r\n"

def firstTagNote : Message :=
  { Message.new "m" "a@example.com" ["b@example.org"] "" .min with
    headers := .ofList [("List-Id", "l"), ("X-Tag", "1")]
    body := "b\r\n" }

open AsciiOnly in
theorem later_tags_are_dropped :
    ofMail "m" "a@example.com" ["b@example.org"] taggedMail .min = .ok firstTagNote ∧
      firstTagNote.headers.get? "X-Tag" = some "1" ∧
      ∃! field, field ∈ firstTagNote.headers.entries ∧
        Text.sameLetters field.1 "x-tag" = true := by
  have made : ofMail "m" "a@example.com" ["b@example.org"] taggedMail .min = .ok firstTagNote := by
    decide +kernel
  have second : (Part.read false taggedMail).map (fun mail => mail.1[2]?) =
      .ok (some ⟨Utf8.ofString "x-tag", Utf8.ofString "2"⟩) := by
    decide +kernel
  obtain ⟨header, part, parsed, -, once⟩ := first_fields_are_kept made
  simp only [parsed, Except.map, Except.ok.injEq] at second
  have only := once _ (List.mem_of_getElem? second) (by decide)
  exact ⟨made, by decide, only⟩

end Message

end MailRelay
