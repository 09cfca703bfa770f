import MailRelay.Json.Reader
import MailRelay.Queue.Reception
import MailRelay.Time.Timestamp

set_option autoImplicit false

namespace MailRelay

structure SendRequest where
  sender : String
  addressees : List String
  cc : List String
  bcc : List String
  subject : String
  body : String
  html : Option String
  headers : Headers
  scheduledAt : Option Instant
  deriving DecidableEq

namespace SendRequest

def empty : SendRequest := ⟨"", [], [], [], "", "", none, .empty, none⟩

def instant : JsonReader Instant := do
  match Timestamp.read? (← JsonReader.string).toList with
  | some t => return t
  | none => throw .wrongType

def fields : List (JsonReader.RecordField SendRequest) :=
  let texts := JsonReader.list JsonReader.string
  [JsonReader.field "from" JsonReader.string fun r v => { r with sender := v },
    JsonReader.field "to" texts fun r v => { r with addressees := v },
    JsonReader.field "cc" texts fun r v => { r with cc := v },
    JsonReader.field "bcc" texts fun r v => { r with bcc := v },
    JsonReader.field "subject" JsonReader.string fun r v => { r with subject := v },
    JsonReader.field "body" JsonReader.string fun r v => { r with body := v },
    JsonReader.field "html" (JsonReader.nullable JsonReader.string) fun r v => { r with html := v },
    JsonReader.field "headers" (JsonReader.map JsonReader.string) fun r v =>
      { r with headers := v },
    JsonReader.field "scheduled_at" (JsonReader.nullable instant) fun r v =>
      { r with scheduledAt := v }]

def reader : JsonReader SendRequest := JsonReader.record fields empty

-- An empty HTML part is none.
def message (r : SendRequest) (stamp : Stamp) : Message :=
  { Message.new stamp.id r.sender r.addressees r.subject stamp.createdAt with
    cc := r.cc
    bcc := r.bcc
    body := r.body
    html := r.html.filter fun html => !html.isEmpty
    headers := r.headers
    scheduledAt := r.scheduledAt }

end SendRequest

end MailRelay
