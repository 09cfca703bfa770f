import MailRelay.Address.Mailbox
import MailRelay.Message.Basic
import MailRelay.Text.Quoted

set_option autoImplicit false

namespace MailRelay

structure Limits where
  maxRecipients : Nat
  maxMessageSize : Nat
  deriving DecidableEq, Repr

def Limits.default : Limits := ⟨100, 26214400⟩

inductive ValidationError where
  | invalidSender
  | noRecipients
  | invalidRecipient (address : String)
  | tooManyRecipients (count max : Nat)
  | emptySubject
  | invalidHeader (name : String)
  | emptyBody
  | messageTooLarge (size max : Nat)
  deriving DecidableEq, Repr

def ValidationError.message : ValidationError → String
  | invalidSender => "invalid from address"
  | noRecipients => "no recipients specified"
  | invalidRecipient address => "invalid recipient address: " ++ address
  | tooManyRecipients count max => s!"too many recipients: {count} (maximum {max})"
  | emptySubject => "subject cannot be empty"
  | invalidHeader name => "invalid header: " ++ name
  | emptyBody => "email body cannot be empty"
  | messageTooLarge size max => s!"message too large: {size} bytes (maximum {max})"

def isFieldName (name : String) : Bool :=
  !name.toList.isEmpty && name.toList.all fun c => Text.isGraphic c && c != ':'

def isBadField (field : String × String) : Bool :=
  !isFieldName field.1 || Text.hasLineBreak field.2

namespace Message

def isAddress (s : String) : Bool :=
  (Mailbox.parse? s).isSome

def checkRecipients (m : Message) (limits : Limits) : Except ValidationError Unit :=
  if m.addressees.isEmpty then .error .noRecipients
  else
    match m.recipients.find? (!isAddress ·) with
    | some bad => .error (.invalidRecipient bad)
    | none =>
      if limits.maxRecipients < m.recipients.length then
        .error (.tooManyRecipients m.recipients.length limits.maxRecipients)
      else .ok ()

def checkHeader (m : Message) : Except ValidationError Unit :=
  if Text.allBlank m.subject then .error .emptySubject
  else if Text.hasLineBreak m.subject then .error (.invalidHeader "Subject")
  else
    match m.headers.entries.find? isBadField with
    | some (name, _) => .error (.invalidHeader (Text.escaped name))
    | none => .ok ()

def checkContent (m : Message) (limits : Limits) : Except ValidationError Unit :=
  if Text.allBlank m.body && m.htmlBody.isNone then .error .emptyBody
  else if limits.maxMessageSize < m.size then
    .error (.messageTooLarge m.size limits.maxMessageSize)
  else .ok ()

def validate (m : Message) (limits : Limits) : Except ValidationError Unit := do
  if !isAddress m.sender then throw .invalidSender
  m.checkRecipients limits
  m.checkHeader
  m.checkContent limits

end Message

end MailRelay
