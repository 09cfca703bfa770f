import MailRelay.Message.Record
import MailRelay.Proofs.Json.Record
import MailRelay.Proofs.SortedMap
import MailRelay.Proofs.Time.Timestamp

set_option autoImplicit false

namespace MailRelay

open Json (Inverts required? optional?)

theorem Instant.inverts : Inverts Instant.ofJson? Instant.toJson := by
  intro t
  rw [toJson, ofJson?, Json.string?, Option.bind_some, Timestamp.read?_write]

theorem Status.inverts : Inverts Status.ofJson? Status.toJson := by
  intro s
  rw [toJson, ofJson?, ofName?_name]

namespace Attachment

def fieldNames : List String :=
  ["filename", "content_type", "data"]

def unset : List (String × Option Json) :=
  [("data", some (.array []))]

variable {a : Attachment} {field : String → Option Json} {members : List (String × Json)}

structure IsRead (field : String → Option Json) (a : Attachment) : Prop where
  filename : required? Json.string? (field "filename") = some a.filename
  contentType : required? Json.string? (field "content_type") = some a.contentType
  data : optional? [] bytes? (field "data") = some a.data

theorem ofJson?_object_iff :
    ofJson? (.object members) = some a ↔ IsRead (Json.object members).member? a := by
  rw [ofJson?, Json.fields?_object]
  dsimp only [List.map, Option.bind_eq_bind, Option.bind_some]
  simp only [↓Option.bind_eq_some_iff]
  constructor
  · rintro ⟨filename, first, contentType, second, data, third, same⟩
    cases same
    exact ⟨first, second, third⟩
  · intro read
    exact ⟨_, read.filename, _, read.contentType, _, read.data, rfl⟩

theorem ofJson?_filter (members : List (String × Json)) :
    ofJson? (.object (members.filter fun member => member.1 ∈ fieldNames)) =
      ofJson? (.object members) := by
  have fields := Json.fields?_filter fieldNames members
  rw [fieldNames] at fields ⊢
  rw [ofJson?, ofJson?, fields]

theorem inverts_bytes : Inverts bytes? fun data => .array (data.map fun b => .natural b.toNat) := by
  apply Inverts.array
  intro b
  simp [Json.below?, b.toNat_lt]

theorem isRead_toJson (a : Attachment) : IsRead a.toJson.member? a where
  filename := rfl
  contentType := rfl
  data := inverts_bytes.optional [] a.data

theorem inverts : Inverts ofJson? toJson :=
  fun a => ofJson?_object_iff.2 a.isRead_toJson

theorem completes (read : IsRead (Json.object members).member? a) :
    Json.Completes fieldNames unset members a.toJson where
  unknown := by
    intro name unknown
    simp only [fieldNames, List.mem_cons, not_or, List.not_mem_nil] at unknown
    simp [toJson, Json.member?_cons, Json.member?_nil, unknown, eq_comm]
  missing := by
    intro name known absent
    simp only [fieldNames, List.mem_cons, List.not_mem_nil, or_false] at known
    rcases known with rfl | rfl | rfl
    · exact absurd absent (Json.present_of_required read.filename)
    · exact absurd absent (Json.present_of_required read.contentType)
    · simp [toJson, Json.member?_cons, Json.eq_of_missing read.data absent, unset]

end Attachment

namespace Message

-- What is written for the fields that a record may leave out.
def unset : List (String × Option Json) :=
  [("cc", some (.array [])), ("bcc", some (.array [])), ("body", some (.string "")),
    ("html", none), ("headers", some (.object [])), ("attachments", some (.array [])),
    ("status", some (.string "pending")), ("retry_count", some (.natural 0)),
    ("last_error", none), ("scheduled_at", none), ("delivered_at", none)]

variable {m : Message} {field : String → Option Json} {members : List (String × Json)}

structure IsRead (field : String → Option Json) (m : Message) : Prop where
  id : required? Json.string? (field "id") = some m.id
  sender : required? Json.string? (field "from") = some m.sender
  addressees : required? Json.strings? (field "to") = some m.addressees
  cc : optional? [] Json.strings? (field "cc") = some m.cc
  bcc : optional? [] Json.strings? (field "bcc") = some m.bcc
  subject : required? Json.string? (field "subject") = some m.subject
  body : optional? "" Json.string? (field "body") = some m.body
  html : optional? none (Json.nullable? Json.string?) (field "html") = some m.html
  headers : (optional? [] (Json.mapOf? Json.string?) (field "headers")).map SortedMap.ofList =
    some m.headers
  attachments : optional? [] (Json.listOf? Attachment.ofJson?) (field "attachments") =
    some m.attachments
  status : optional? .pending Status.ofJson? (field "status") = some m.status
  retryCount : (optional? 0 (Json.below? 4294967296) (field "retry_count")).map UInt32.ofNat =
    some m.retryCount
  lastError : optional? none (Json.nullable? Json.string?) (field "last_error") = some m.lastError
  createdAt : required? Instant.ofJson? (field "created_at") = some m.createdAt
  updatedAt : required? Instant.ofJson? (field "updated_at") = some m.updatedAt
  scheduledAt : optional? none (Json.nullable? Instant.ofJson?) (field "scheduled_at") =
    some m.scheduledAt
  deliveredAt : optional? none (Json.nullable? Instant.ofJson?) (field "delivered_at") =
    some m.deliveredAt

theorem ofJson?_object_iff :
    ofJson? (.object members) = some m ↔ IsRead (Json.object members).member? m := by
  rw [ofJson?, Json.fields?_object]
  dsimp only [fieldNames, List.map, Option.bind_eq_bind, Option.bind_some]
  simp only [↓Option.bind_eq_some_iff]
  constructor
  · rintro ⟨_, id, _, sender, _, addressees, _, cc, _, bcc, _, subject, _, body, _, html, _,
      headers, _, attachments, _, status, _, retryCount, _, lastError, _, createdAt, _, updatedAt,
      _, scheduledAt, _, deliveredAt, same⟩
    cases same
    exact ⟨id, sender, addressees, cc, bcc, subject, body, html, by rw [headers, Option.map_some],
      attachments, status, by rw [retryCount, Option.map_some], lastError, createdAt, updatedAt,
      scheduledAt, deliveredAt⟩
  · intro read
    obtain ⟨_, headers, sorted⟩ := Option.map_eq_some_iff.1 read.headers
    obtain ⟨_, retryCount, word⟩ := Option.map_eq_some_iff.1 read.retryCount
    refine ⟨_, read.id, _, read.sender, _, read.addressees, _, read.cc, _, read.bcc, _,
      read.subject, _, read.body, _, read.html, _, headers, _, read.attachments, _, read.status, _,
      retryCount, _, read.lastError, _, read.createdAt, _, read.updatedAt, _, read.scheduledAt, _,
      read.deliveredAt, ?_⟩
    rw [sorted, word]

theorem ofJson?_filter (members : List (String × Json)) :
    ofJson? (.object (members.filter fun member => member.1 ∈ fieldNames)) =
      ofJson? (.object members) := by
  rw [ofJson?, ofJson?, Json.fields?_filter]

structure IsWritten (field : String → Option Json) (m : Message) : Prop where
  id : field "id" = some (.string m.id)
  sender : field "from" = some (.string m.sender)
  addressees : field "to" = some (.strings m.addressees)
  cc : field "cc" = some (.strings m.cc)
  bcc : field "bcc" = some (.strings m.bcc)
  subject : field "subject" = some (.string m.subject)
  body : field "body" = some (.string m.body)
  html : field "html" = m.html.map .string
  headers : field "headers" = some (.object (m.headers.entries.map fun (k, v) => (k, .string v)))
  attachments : field "attachments" = some (.array (m.attachments.map Attachment.toJson))
  status : field "status" = some m.status.toJson
  retryCount : field "retry_count" = some (.natural m.retryCount.toNat)
  lastError : field "last_error" = m.lastError.map .string
  createdAt : field "created_at" = some m.createdAt.toJson
  updatedAt : field "updated_at" = some m.updatedAt.toJson
  scheduledAt : field "scheduled_at" = m.scheduledAt.map Instant.toJson
  deliveredAt : field "delivered_at" = m.deliveredAt.map Instant.toJson

theorem member?_whenSet {α : Type} (write : α → Json) (value : Option α) (key name : String) :
    (Json.object (whenSet key write value)).member? name =
      if key = name then value.map write else none := by
  cases value with
  | none => simp [whenSet, Json.member?_nil]
  | some a => simp [whenSet, Json.member?_cons, Json.member?_nil]

theorem isWritten_toJson (m : Message) : IsWritten m.toJson.member? m := by
  constructor <;> simp [toJson, Json.member?_append, Json.member?_cons, member?_whenSet]

theorem member?_toJson_of_unknown (m : Message) {name : String} (unknown : name ∉ fieldNames) :
    m.toJson.member? name = none := by
  simp only [fieldNames, List.mem_cons, not_or, List.not_mem_nil] at unknown
  simp [toJson, Json.member?_append, Json.member?_cons, member?_whenSet, unknown, eq_comm]

theorem IsWritten.isRead (written : IsWritten field m) : IsRead field m := by
  have string := Json.inverts_string
  have strings := Json.inverts_strings
  constructor
  case id => rw [written.id, string.required]
  case sender => rw [written.sender, string.required]
  case addressees => rw [written.addressees, strings.required]
  case cc => rw [written.cc, strings.optional]
  case bcc => rw [written.bcc, strings.optional]
  case subject => rw [written.subject, string.required]
  case body => rw [written.body, string.optional]
  case html => rw [written.html, string.whenSet (by simp)]
  case headers =>
    rw [written.headers, string.object.optional, Option.map_some, SortedMap.ofList_entries]
  case attachments => rw [written.attachments, Attachment.inverts.array.optional]
  case status => rw [written.status, Status.inverts.optional]
  case retryCount => simp [written.retryCount, optional?, Json.below?, m.retryCount.toNat_lt]
  case lastError => rw [written.lastError, string.whenSet (by simp)]
  case createdAt => rw [written.createdAt, Instant.inverts.required]
  case updatedAt => rw [written.updatedAt, Instant.inverts.required]
  case scheduledAt => rw [written.scheduledAt, Instant.inverts.whenSet (by simp [Instant.toJson])]
  case deliveredAt => rw [written.deliveredAt, Instant.inverts.whenSet (by simp [Instant.toJson])]

theorem inverts : Inverts ofJson? toJson :=
  fun m => ofJson?_object_iff.2 m.isWritten_toJson.isRead

theorem IsRead.missing (read : IsRead field m) {name : String} (known : name ∈ fieldNames)
    (absent : field name = none) : (name, m.toJson.member? name) ∈ unset := by
  have written := m.isWritten_toJson
  -- A field that has to be there is not missing; any other one has its default.
  simp only [fieldNames, List.mem_cons, List.not_mem_nil, or_false] at known
  rcases known with rfl | rfl | rfl | rfl | rfl | rfl | rfl | rfl | rfl | rfl | rfl | rfl | rfl |
    rfl | rfl | rfl | rfl
  · exact absurd absent (Json.present_of_required read.id)
  · exact absurd absent (Json.present_of_required read.sender)
  · exact absurd absent (Json.present_of_required read.addressees)
  · simp [written.cc, Json.eq_of_missing read.cc absent, Json.strings, unset]
  · simp [written.bcc, Json.eq_of_missing read.bcc absent, Json.strings, unset]
  · exact absurd absent (Json.present_of_required read.subject)
  · simp [written.body, Json.eq_of_missing read.body absent, unset]
  · simp [written.html, Json.eq_of_missing read.html absent, unset]
  · have empty : m.headers = .empty := by
      simpa [absent, optional?, SortedMap.ofList, eq_comm] using read.headers
    simp [written.headers, empty, SortedMap.empty, unset]
  · simp [written.attachments, Json.eq_of_missing read.attachments absent, unset]
  · simp [written.status, Json.eq_of_missing read.status absent, Status.toJson, Status.name, unset]
  · have zero : m.retryCount = 0 := by
      simpa [absent, optional?, eq_comm] using read.retryCount
    simp [written.retryCount, zero, unset]
  · simp [written.lastError, Json.eq_of_missing read.lastError absent, unset]
  · exact absurd absent (Json.present_of_required read.createdAt)
  · exact absurd absent (Json.present_of_required read.updatedAt)
  · simp [written.scheduledAt, Json.eq_of_missing read.scheduledAt absent, unset]
  · simp [written.deliveredAt, Json.eq_of_missing read.deliveredAt absent, unset]

theorem completes (read : IsRead (Json.object members).member? m) :
    Json.Completes fieldNames unset members m.toJson where
  unknown := fun _ unknown => m.member?_toJson_of_unknown unknown
  missing := fun _ known absent => read.missing known absent

theorem records_are_read_back :
    (∀ m : Message, ofJson? m.toJson = some m) ∧
      (∀ members m, ofJson? (.object members) = some m →
        ofJson? m.toJson = some m ∧ Json.Completes fieldNames unset members m.toJson ∧
          ofJson? (.object (members.filter fun member => member.1 ∈ fieldNames)) = some m) ∧
      ∀ members a, Attachment.ofJson? (.object members) = some a →
        Attachment.ofJson? a.toJson = some a ∧
          Json.Completes Attachment.fieldNames Attachment.unset members a.toJson ∧
          Attachment.ofJson?
            (.object (members.filter fun member => member.1 ∈ Attachment.fieldNames)) = some a := by
  refine ⟨inverts, fun members m read => ?_, fun members a read => ?_⟩
  · have isRead := ofJson?_object_iff.1 read
    exact ⟨inverts m, completes isRead, (ofJson?_filter members).trans read⟩
  · have isRead := Attachment.ofJson?_object_iff.1 read
    exact ⟨Attachment.inverts a, Attachment.completes isRead,
      (Attachment.ofJson?_filter members).trans read⟩

def sparseAttachment : List (String × Json) :=
  [("filename", .string "f"), ("inline", .bool true), ("content_type", .string "t")]

def sparseMembers : List (String × Json) :=
  [("id", .string "m"), ("priority", .natural 1), ("from", .string "a@example.com"),
    ("to", .array []), ("subject", .string ""), ("html", .null),
    ("attachments", .array [.object sparseAttachment]), ("status", .object [("sending", .null)]),
    ("created_at", .string "2016-12-31 23:59:60.5+00:00"),
    ("updated_at", .string "+262142-12-31T23:59:59.999999999Z")]

-- The message was created in a leap second and changed at the last instant of all.
def sparseMessage : Message :=
  { Message.new "m" "a@example.com" [] ""
      ⟨1483228799, 1500000000, by decide, by decide, by decide⟩ with
    attachments := [⟨"f", "t", []⟩]
    status := .sending
    updatedAt := .max }

theorem sparse_record_is_completed :
    ofJson? (.object sparseMembers) = some sparseMessage ∧
      ofJson? sparseMessage.toJson = some sparseMessage ∧
      Json.Completes fieldNames unset sparseMembers sparseMessage.toJson ∧
      Attachment.ofJson? (.object sparseAttachment) = some ⟨"f", "t", []⟩ ∧
      Json.Completes Attachment.fieldNames Attachment.unset sparseAttachment
        (Attachment.toJson ⟨"f", "t", []⟩) := by
  have message : ofJson? (.object sparseMembers) = some sparseMessage := by decide +kernel
  have attachment : Attachment.ofJson? (.object sparseAttachment) = some ⟨"f", "t", []⟩ := by
    decide +kernel
  obtain ⟨-, messages, attachments⟩ := records_are_read_back
  obtain ⟨again, completes, -⟩ := messages sparseMembers sparseMessage message
  obtain ⟨-, filled, -⟩ := attachments sparseAttachment ⟨"f", "t", []⟩ attachment
  exact ⟨message, again, completes, attachment, filled⟩

end Message

end MailRelay
