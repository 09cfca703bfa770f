import MailRelay.Proofs.Message.Rendering
import MailRelay.Proofs.Smtp.Ingest

set_option autoImplicit false

namespace MailRelay

def Letter.regenerated (head : List Char) : List (List Char × List Char) :=
  ((lines head).map cut).filter fun field => Ingest.isRegenerated (String.ofList field.1)

namespace Ingest

/-- The regenerated name that rendering leaves to the custom fields. -/
def namesEncoding (name : String) : Bool :=
  Text.sameLetters name "content-transfer-encoding"

theorem isRegenerated_eq (name : String) :
    isRegenerated name = (Message.isReserved name || namesEncoding name) := by
  simp [isRegenerated, regeneratedNames, Message.isReserved, Message.reservedNames, namesEncoding,
    Bool.or_assoc]

theorem free_of_namesEncoding {name : String} (named : namesEncoding name = true) :
    Message.isReserved name = false := by
  rw [Message.isReserved_congr named]
  decide

end Ingest

namespace Message

variable {m : Message}

def leadingFields (m : Message) (date : Instant) : List (String × String) :=
  [("From", singleLine m.sender), ("To", singleLine (String.intercalate ", " m.addressees)),
    ("Subject", m.subject), ("Date", singleLine (Timestamp.writeMailDate date)),
    ("MIME-Version", "1.0")]
    ++ if m.cc.isEmpty then [] else [("Cc", singleLine (String.intercalate ", " m.cc))]

def encodingFields (m : Message) : List (String × String) :=
  m.headers.entries.filter fun field => Ingest.namesEncoding field.1

def cutField (field : String × String) : List Char × List Char :=
  (field.1.toList, ' ' :: field.2.toList)

theorem header_read {date : Instant} (clear : ∀ field ∈ m.fields date, ':' ∉ field.1.toList) :
    ∃ head, Letter.divide? (m.render date).toList = some (head, (m.htmlBody.getD m.body).toList) ∧
      (Letter.lines head).map Letter.cut =
        ((m.fields date).map fun field => (field.1, singleLine field.2)).map cutField := by
  obtain ⟨head, divided, lines⟩ := render_read m date
  refine ⟨head, content_eq m ▸ divided, ?_⟩
  rw [lines, List.map_map, List.map_map]
  exact List.map_congr_left fun field member => cut_lineOf (clear field member)

theorem regenerated_readableFields (m : Message) (date : Instant) :
    (m.readableFields date).filter (fun field => Ingest.isRegenerated field.1) =
      m.leadingFields date ++ m.encodingFields ++ [("Content-Type", m.content.1)] := by
  have custom : (m.headers.entries.filter fun field => !isReserved field.1).filter
      (fun field => Ingest.isRegenerated field.1) = m.encodingFields := by
    rw [List.filter_filter, encodingFields]
    refine List.filter_congr fun field _ => ?_
    rw [Ingest.isRegenerated_eq]
    cases named : Ingest.namesEncoding field.1 with
    | true => simp [Ingest.free_of_namesEncoding named]
    | false => simp
  have own : ∀ name ∈ ownNames false, Ingest.isRegenerated name = true := by decide
  have leading : (m.leadingFields date).filter (fun field => Ingest.isRegenerated field.1) =
      m.leadingFields date := by
    refine List.filter_eq_self.2 fun field member => own field.1 ?_
    unfold leadingFields at member
    revert member
    split <;> simp +contextual [ownNames, or_imp]
  have kind : [("Content-Type", m.content.1)].filter (fun field => Ingest.isRegenerated field.1) =
      [("Content-Type", m.content.1)] :=
    List.filter_cons_of_pos (own "Content-Type" (by decide))
  have shape : m.readableFields date = m.leadingFields date ++
      m.headers.entries.filter (fun field => !isReserved field.1) ++
        [("Content-Type", m.content.1)] := rfl
  rw [shape, List.filter_append, List.filter_append, leading, custom, kind]

theorem encodingFields_eq_nil :
    m.encodingFields = [] ↔ ∀ name ∈ m.headers.keys, Ingest.namesEncoding name = false := by
  simp [encodingFields, SortedMap.keys]

theorem encodingFields_of_customFields [ForeignDecoders] {header : Header}
    (gathered : m.headers = Ingest.customFields header) : m.encodingFields = [] := by
  rw [encodingFields, gathered, List.filter_eq_nil_iff]
  intro field member named
  have free := (Ingest.mem_customFields header member).1
  rw [Ingest.isRegenerated_eq, named, Bool.or_true] at free
  cases free

theorem regenerated_read {limits : Limits} (accepted : m.validate limits = .ok ())
    (date : Instant) :
    ∃ head, Letter.divide? (m.render date).toList = some (head, (m.htmlBody.getD m.body).toList) ∧
      Letter.regenerated head =
        (m.leadingFields date ++ m.encodingFields ++ [("Content-Type", m.content.1)]).map
          cutField := by
  have clear : ∀ field ∈ m.fields date, ':' ∉ field.1.toList := fun _ => name_clear accepted
  obtain ⟨head, divided, fields⟩ := header_read clear
  refine ⟨head, divided, ?_⟩
  rw [Letter.regenerated, fields, fields_of_valid accepted, List.filter_map,
    ← regenerated_readableFields]
  simp [Function.comp_def, cutField]

/-- In the header of a valid message, the custom fields that name an encoding are the only
regenerated ones that the relay does not write itself. -/
theorem regenerated_fields_are_own_iff [ForeignDecoders] {m : Message} {limits : Limits}
    (accepted : m.validate limits = .ok ()) (date : Instant) :
    ∃ head, Letter.divide? (m.render date).toList = some (head, (m.htmlBody.getD m.body).toList) ∧
      Letter.regenerated head =
        (m.leadingFields date ++ m.encodingFields ++ [("Content-Type", m.content.1)]).map cutField ∧
      (Letter.regenerated head =
          (m.leadingFields date ++ [("Content-Type", m.content.1)]).map cutField ↔
        ∀ name ∈ m.headers.keys, Ingest.namesEncoding name = false) ∧
      ((∃ header, m.headers = Ingest.customFields header) →
        ∀ name ∈ m.headers.keys, Ingest.namesEncoding name = false) := by
  obtain ⟨head, divided, written⟩ := regenerated_read accepted date
  refine ⟨head, divided, written, ?_, fun ⟨header, gathered⟩ => ?_⟩
  · rw [written, ← encodingFields_eq_nil]
    constructor
    · intro same
      have lengths := congrArg List.length same
      simp only [List.length_map, List.length_append] at lengths
      exact List.eq_nil_of_length_eq_zero (by omega)
    · intro none
      rw [none, List.append_nil]
  · exact encodingFields_eq_nil.1 (encodingFields_of_customFields gathered)

-- The encoding of submitted mail does not stay with its content.
def taggedHeader : Header :=
  [⟨Utf8.ofString "Content-Transfer-Encoding", Utf8.ofString "base64"⟩,
    ⟨Utf8.ofString "X-Tag", Utf8.ofString "1"⟩]

open AsciiOnly in
def taggedNote : Message :=
  { Message.new "m" "a@example.com" ["b@example.org"] "s" .min with
    headers := Ingest.customFields taggedHeader
    body := "b" }

open AsciiOnly in
theorem tagged_note_has_its_own_fields :
    taggedNote.validate .default = .ok () ∧ taggedNote.headers = .ofList [("X-Tag", "1")] ∧
      ∃ head, Letter.divide? (taggedNote.render .min).toList = some (head, "b".toList) ∧
        Letter.regenerated head = (taggedNote.leadingFields .min ++
          [("Content-Type", taggedNote.content.1)]).map cutField := by
  have accepted : taggedNote.validate .default = .ok () := by decide +kernel
  obtain ⟨head, divided, -, own, mail⟩ := regenerated_fields_are_own_iff accepted .min
  exact ⟨accepted, by decide +kernel, head, divided, own.2 (mail ⟨taggedHeader, rfl⟩)⟩

-- A body that is not encoded at all.
def mislabelledNote : Message :=
  { taggedNote with
    headers := .ofList [("Content-Transfer-Encoding", "base64"), ("X-Tag", "1")] }

theorem mislabelled_note_names_an_encoding :
    mislabelledNote.validate .default = .ok () ∧
      ∃ head, Letter.divide? (mislabelledNote.render .min).toList = some (head, "b".toList) ∧
        (Letter.regenerated head).map (fun field => String.ofList field.1) =
          ["From", "To", "Subject", "Date", "MIME-Version", "Content-Transfer-Encoding",
            "Content-Type"] ∧
        Letter.regenerated head ≠ (mislabelledNote.leadingFields .min ++
          [("Content-Type", mislabelledNote.content.1)]).map cutField := by
  have accepted : mislabelledNote.validate .default = .ok () := rfl
  obtain ⟨head, divided, written⟩ := regenerated_read accepted .min
  refine ⟨accepted, head, divided, ?_, fun same => ?_⟩
  · rw [written, List.map_map]
    rfl
  · have lengths := congrArg List.length (written.symm.trans same)
    revert lengths
    decide

end Message

end MailRelay
