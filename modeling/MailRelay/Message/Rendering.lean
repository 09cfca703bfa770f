import MailRelay.Message.Basic
import MailRelay.Text.Ascii
import MailRelay.Time.Timestamp

set_option autoImplicit false

namespace MailRelay.Message

def reservedNames : List String :=
  ["from", "to", "cc", "bcc", "subject", "date", "mime-version", "content-type"]

def isReserved (name : String) : Bool :=
  reservedNames.any (Text.sameLetters name)

def singleLine (value : String) : String :=
  String.ofList (value.toList.map fun c => if c == '\r' || c == '\n' then ' ' else c)

-- Whether a custom field is written: its name is free and neither part breaks the line.
def isWritten (field : String × String) : Bool :=
  !isReserved field.1 && !Text.hasLineBreak field.1 && !Text.hasLineBreak field.2

def content (m : Message) : String × String :=
  match m.htmlBody with
  | some html => ("text/html; charset=utf-8", html)
  | none => ("text/plain; charset=utf-8", m.body)

def fields (m : Message) (date : Instant) : List (String × String) :=
  [("From", m.sender), ("To", String.intercalate ", " m.addressees), ("Subject", m.subject),
    ("Date", Timestamp.writeMailDate date), ("MIME-Version", "1.0")]
    ++ (if m.cc.isEmpty then [] else [("Cc", String.intercalate ", " m.cc)])
    ++ m.headers.entries.filter isWritten
    ++ [("Content-Type", m.content.1)]

def fieldLine (field : String × String) : String :=
  field.1 ++ ": " ++ singleLine field.2 ++ "\r\n"

def render (m : Message) (date : Instant) : String :=
  String.join ((m.fields date).map fieldLine) ++ "\r\n" ++ m.content.2

end MailRelay.Message
