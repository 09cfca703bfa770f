import MailRelay.SortedMap
import MailRelay.Text.Blank
import MailRelay.Text.Utf8
import MailRelay.Time.Instant

set_option autoImplicit false

namespace MailRelay

/-- A queue holds only `queued` and `sending` messages. Nothing here produces `bounced`. -/
inductive Status where
  | pending
  | queued
  | sending
  | delivered
  | failed
  | bounced
  deriving DecidableEq, Repr

namespace Status

def name : Status → String
  | pending => "pending"
  | queued => "queued"
  | sending => "sending"
  | delivered => "delivered"
  | failed => "failed"
  | bounced => "bounced"

def all : List Status := [pending, queued, sending, delivered, failed, bounced]

def ofName? (s : String) : Option Status :=
  all.find? (·.name == s)

theorem ofName?_name (s : Status) : ofName? s.name = some s := by
  cases s <;> decide

def isTerminal : Status → Bool
  | delivered | failed | bounced => true
  | pending | queued | sending => false

end Status

abbrev Headers := SortedMap String String

structure Attachment where
  filename : String
  contentType : String
  data : Bytes
  deriving DecidableEq

structure Message where
  id : String
  sender : String
  addressees : List String
  cc : List String
  bcc : List String
  subject : String
  body : String
  html : Option String
  headers : Headers
  attachments : List Attachment
  status : Status
  retryCount : UInt32
  lastError : Option String
  createdAt : Instant
  updatedAt : Instant
  scheduledAt : Option Instant
  deliveredAt : Option Instant
  deriving DecidableEq

namespace Message

def new (id sender : String) (addressees : List String) (subject : String) (now : Instant) :
    Message where
  id := id
  sender := sender
  addressees := addressees
  cc := []
  bcc := []
  subject := subject
  body := ""
  html := none
  headers := .empty
  attachments := []
  status := .pending
  retryCount := 0
  lastError := none
  createdAt := now
  updatedAt := now
  scheduledAt := none
  deliveredAt := none

def recipients (m : Message) : List String :=
  m.addressees ++ m.cc ++ m.bcc

def htmlBody (m : Message) : Option String :=
  m.html.filter fun html => !Text.allBlank html

def size (m : Message) : Nat :=
  m.body.utf8ByteSize + (m.html.map String.utf8ByteSize).getD 0
    + m.attachments.foldr (fun a n => a.data.length + n) 0

def isDue (m : Message) (now : Instant) : Bool :=
  match m.scheduledAt with
  | some t => t.le now
  | none => true

end Message

end MailRelay
