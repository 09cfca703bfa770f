import MailRelay.Queue.Reception
import MailRelay.Smtp.Command
import MailRelay.Smtp.Ingest
import MailRelay.Smtp.Payload
import MailRelay.Smtp.Reply

set_option autoImplicit false

namespace MailRelay

variable [ForeignDecoders]

-- The recipients are in the order in which they were named.
inductive SessionStage where
  | connected
  | greeted
  | addressed (sender : String) (recipients : List String)
  | content (sender : String) (recipients : List String) (received : Incoming)
  | closed

structure Session where
  host : String
  stage : SessionStage
  reception : Reception

structure SessionEvent where
  command : Option Command
  replies : List Reply

/-- How the input of a client ends: it is closed, or it falls silent. -/
inductive InputEnd where
  | closed
  | silent
  deriving DecidableEq, Repr

namespace Session

def new (host : String) (reception : Reception) : Session := ⟨host, .connected, reception⟩

def maxCommandLine : Nat := 512

def reply (code : Nat) (text : String) : Reply := ⟨code, [text]⟩

def ok : Reply := reply 250 "2.0.0 Ok"
def badSequence : Reply := reply 503 "5.5.1 Bad sequence of commands"
def idle : Reply := reply 421 "4.4.2 Idle timeout, closing connection"

def welcome (s : Session) : Reply := reply 220 (s.host ++ " ESMTP outpost ready")

def extensions (s : Session) : Reply :=
  ⟨250, [s.host, s!"SIZE {s.reception.limits.maxMessageSize}", "8BITMIME", "PIPELINING"]⟩

def greet (s : Session) : Session := { s with stage := .greeted }

def mail (s : Session) (sender : Option String) : Session × Reply :=
  match s.stage, sender with
  | .greeted, some sender =>
    ({ s with stage := .addressed sender [] }, reply 250 "2.1.0 Ok")
  | .greeted, none => (s, reply 550 "5.1.7 Null sender not accepted for submission")
  | _, _ => (s, badSequence)

def rcpt (s : Session) (recipient : String) : Session × Reply :=
  match s.stage with
  | .addressed sender recipients =>
    if s.reception.limits.maxRecipients ≤ recipients.length then
      (s, reply 452 "4.5.3 Too many recipients")
    else
      ({ s with stage := .addressed sender (recipients ++ [recipient]) }, reply 250 "2.1.5 Ok")
  | _ => (s, badSequence)

def data (s : Session) : Session × Reply :=
  match s.stage with
  | .addressed sender (first :: rest) =>
    ({ s with stage := .content sender (first :: rest) .empty },
      reply 354 "End data with <CR><LF>.<CR><LF>")
  | _ => (s, badSequence)

-- Who has not greeted yet still has to.
def rset (s : Session) : Session × Reply :=
  match s.stage with
  | .connected => (s, ok)
  | _ => (s.greet, ok)

def command (s : Session) : Command → Session × Reply
  | .helo _ => (s.greet, reply 250 s.host)
  | .ehlo _ => (s.greet, s.extensions)
  | .mail sender => s.mail sender
  | .rcpt recipient => s.rcpt recipient
  | .data => s.data
  | .rset => s.rset
  | .noop => (s, ok)
  | .vrfy => (s, reply 252 "2.5.0 Cannot VRFY user")
  | .quit => ({ s with stage := .closed }, reply 221 "2.0.0 Bye")
  | .invalid reason => (s, reply 500 ("5.5.2 Syntax error: " ++ reason))

def refusal : SubmitError → Reply
  | .queue (.full _) => reply 452 "4.3.1 Insufficient system storage"
  | .queue _ => reply 451 "4.3.0 Local error in processing"
  | .invalid e => reply 554 ("5.6.0 " ++ e.message)

def submit (stamps : Stamps) (r : Reception) (sender : String) (recipients : List String)
    (received : Incoming) : Reception × Reply :=
  if received.oversized then
    (r, reply 552 "5.3.4 Message size exceeds fixed maximum message size")
  else
    let (r, stamp) := r.stamp stamps
    match Message.ofMail stamp.id sender recipients received.data.toList stamp.createdAt with
    | .error _ => (r, reply 554 "5.6.0 Malformed message")
    | .ok m =>
      match r.submit m stamp.queuedAt with
      | (r, .ok id) => (r, reply 250 ("2.0.0 Ok: queued as " ++ id))
      | (r, .error e) => (r, refusal e)

def line (stamps : Stamps) : Session → Bytes → Session × SessionEvent
  | ⟨host, .closed, reception⟩, _ => (⟨host, .closed, reception⟩, ⟨none, []⟩)
  | ⟨host, .content sender recipients received, reception⟩, raw =>
    if Payload.isEnd raw then
      let (reception, answer) := submit stamps reception sender recipients received
      (⟨host, .greeted, reception⟩, ⟨none, [answer]⟩)
    else
      let received := received.add reception.limits.maxMessageSize raw
      (⟨host, .content sender recipients received, reception⟩, ⟨none, []⟩)
  | s, raw =>
    if maxCommandLine < raw.length then (s, ⟨none, [reply 500 "5.5.6 Line too long"]⟩)
    else
      let command := Command.read (Utf8.decodeLossy raw)
      let (s, answer) := s.command command
      (s, ⟨some command, [answer]⟩)

-- The events have the latest first.
def take (stamps : Stamps) (run : Session × List SessionEvent) (raw : Bytes) :
    Session × List SessionEvent :=
  let (s, event) := run.1.line stamps raw
  (s, event :: run.2)

def lines (stamps : Stamps) (s : Session) (input : List Bytes) : Session × List SessionEvent :=
  let (s, events) := input.foldl (take stamps) (s, [])
  (s, events.reverse)

def lineFeed : UInt8 := 10

def addByte (b : UInt8) : List Bytes × Bytes → List Bytes × Bytes
  | (ls, tail) =>
    if b == lineFeed then ([b] :: ls, tail)
    else
      match ls with
      | [] => ([], b :: tail)
      | l :: ls => ((b :: l) :: ls, tail)

def split (input : Bytes) : List Bytes × Bytes :=
  input.foldr addByte ([], [])

/-- Closes a session at the end of the input. A client that falls silent is told so, unless it is
within mail content. -/
def close (s : Session) : InputEnd → List Reply
  | .closed => []
  | .silent =>
    match s.stage with
    | .closed | .content .. => []
    | _ => [idle]

/-- Runs a session over an input. A last line without an end counts when the input is closed. -/
def serve (stamps : Stamps) (s : Session) (input : Bytes) (ending : InputEnd) :
    Session × List SessionEvent :=
  let (ls, tail) := split input
  let ls := if tail.isEmpty || ending == .silent then ls else ls ++ [tail]
  let (after, events) := s.lines stamps ls
  (after, ⟨none, [s.welcome]⟩ :: events ++ [⟨none, after.close ending⟩])

end Session

end MailRelay
