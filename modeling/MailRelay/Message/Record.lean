import MailRelay.Json.Basic
import MailRelay.Message.Basic
import MailRelay.Time.Timestamp

set_option autoImplicit false

namespace MailRelay

def Instant.toJson (t : Instant) : Json :=
  .string (Timestamp.write t)

def Instant.ofJson? (j : Json) : Option Instant :=
  j.string?.bind fun s => Timestamp.read? s.toList

def Status.toJson (s : Status) : Json :=
  .string s.name

def Status.ofJson? : Json → Option Status
  | .string s => ofName? s
  | .object [(s, .null)] => ofName? s
  | _ => none

namespace Attachment

def toJson (a : Attachment) : Json :=
  .object [("filename", .string a.filename), ("content_type", .string a.contentType),
    ("data", .array (a.data.map fun b => .natural b.toNat))]

def bytes? (j : Json) : Option Bytes :=
  j.listOf? fun item => (item.below? 256).map UInt8.ofNat

def ofJson? (j : Json) : Option Attachment := do
  let fields ← j.fields? ["filename", "content_type", "data"]
  match fields with
  | [filename, contentType, data] =>
    some ⟨← Json.required? Json.string? filename, ← Json.required? Json.string? contentType,
      ← Json.optional? [] bytes? data⟩
  | _ => none

end Attachment

namespace Message

def fieldNames : List String :=
  ["id", "from", "to", "cc", "bcc", "subject", "body", "html", "headers", "attachments", "status",
    "retry_count", "last_error", "created_at", "updated_at", "scheduled_at", "delivered_at"]

def whenSet {α : Type} (name : String) (write : α → Json) (value : Option α) :
    List (String × Json) :=
  match value with
  | some v => [(name, write v)]
  | none => []

def toJson (m : Message) : Json :=
  .object ([("id", .string m.id), ("from", .string m.sender), ("to", .strings m.addressees),
      ("cc", .strings m.cc), ("bcc", .strings m.bcc), ("subject", .string m.subject),
      ("body", .string m.body)]
    ++ whenSet "html" .string m.html
    ++ [("headers", .object (m.headers.entries.map fun (k, v) => (k, .string v))),
      ("attachments", .array (m.attachments.map Attachment.toJson)), ("status", m.status.toJson),
      ("retry_count", .natural m.retryCount.toNat)]
    ++ whenSet "last_error" .string m.lastError
    ++ [("created_at", m.createdAt.toJson), ("updated_at", m.updatedAt.toJson)]
    ++ whenSet "scheduled_at" Instant.toJson m.scheduledAt
    ++ whenSet "delivered_at" Instant.toJson m.deliveredAt)

def ofJson? (j : Json) : Option Message := do
  let fields ← j.fields? fieldNames
  match fields with
  | [id, sender, addressees, cc, bcc, subject, body, html, headers, attachments, status, retryCount,
      lastError, createdAt, updatedAt, scheduledAt, deliveredAt] =>
    some {
      id := ← Json.required? Json.string? id
      sender := ← Json.required? Json.string? sender
      addressees := ← Json.required? Json.strings? addressees
      cc := ← Json.optional? [] Json.strings? cc
      bcc := ← Json.optional? [] Json.strings? bcc
      subject := ← Json.required? Json.string? subject
      body := ← Json.optional? "" Json.string? body
      html := ← Json.optional? none (Json.nullable? Json.string?) html
      headers := SortedMap.ofList (← Json.optional? [] (Json.mapOf? Json.string?) headers)
      attachments := ← Json.optional? [] (Json.listOf? Attachment.ofJson?) attachments
      status := ← Json.optional? .pending Status.ofJson? status
      retryCount := UInt32.ofNat (← Json.optional? 0 (Json.below? 4294967296) retryCount)
      lastError := ← Json.optional? none (Json.nullable? Json.string?) lastError
      createdAt := ← Json.required? Instant.ofJson? createdAt
      updatedAt := ← Json.required? Instant.ofJson? updatedAt
      scheduledAt := ← Json.optional? none (Json.nullable? Instant.ofJson?) scheduledAt
      deliveredAt := ← Json.optional? none (Json.nullable? Instant.ofJson?) deliveredAt }
  | _ => none

end Message

end MailRelay
