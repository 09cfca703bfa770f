import MailRelay.Smtp.Payload
import MailRelay.Smtp.Wire

set_option autoImplicit false

namespace MailRelay

structure Peer where
  refusal : Option (Halt ClientError)
  wire : Wire
  handshake : Except (Halt ClientError) Wire
  faults : List (Option (Halt ClientError))

def Peer.closed : Peer :=
  ⟨none, .closed, .error (.failed (.tls "tls handshake eof")), []⟩

structure Connection where
  wire : Wire
  handshake : Except (Halt ClientError) Wire
  faults : List (Option (Halt ClientError))
  encrypted : Bool

inductive DialogueEvent where
  | connected (address : String)
  | command (line : String)
  | payload (content : String)
  | reply (r : Reply)
  | secured
  deriving DecidableEq, Repr

def DialogueEvent.sent : DialogueEvent → Bytes
  | command line => Utf8.ofString (line ++ "\r\n")
  | payload content => Payload.send content
  | connected _ | reply _ | secured => []

/-- `coming` holds the servers of the connections still to be made; the history has the latest event
first. -/
structure Client where
  coming : List Peer
  connection : Option Connection
  inbox : Inbox
  history : List DialogueEvent

abbrev Dialogue (ε α : Type) := ExceptT (Halt ε) (StateM Client) α

def Halt.map {ε δ : Type} (f : ε → δ) : Halt ε → Halt δ
  | failed e => failed (f e)
  | silent => silent

namespace Dialogue

def record (event : DialogueEvent) : Dialogue ClientError Unit :=
  modify fun c => { c with history := event :: c.history }

-- A former connection is given up.
def connect (address : String) : Dialogue ClientError Unit := do
  let c ← get
  let peer := c.coming.head?.getD .closed
  set { c with coming := c.coming.tail, connection := none, inbox := .empty }
  match peer.refusal with
  | some halt => throw halt
  | none =>
    modify fun c =>
      { c with connection := some ⟨peer.wire, peer.handshake, peer.faults, false⟩ }
    record (.connected address)

def send (event : DialogueEvent) : Dialogue ClientError Unit := do
  match (← get).connection with
  | none => throw (.failed .closed)
  | some connection =>
    modify fun c =>
      { c with connection := some { connection with faults := connection.faults.tail } }
    match connection.faults.head?.bind id with
    | some halt => throw halt
    | none => record event

def receive : Dialogue ClientError Reply := do
  let c ← get
  let (outcome, inbox, wire) := c.inbox.readReply (c.connection.elim .closed (·.wire))
  set { c with inbox, connection := c.connection.map fun (old : Connection) => { old with wire } }
  match outcome with
  | .ok reply =>
    record (.reply reply)
    return reply
  | .error halt => throw halt

def command (line : String) : Dialogue ClientError Reply := do
  send (.command line)
  receive

def ehlo (name : String) : Dialogue ClientError Reply := command ("EHLO " ++ name)
def helo (name : String) : Dialogue ClientError Reply := command ("HELO " ++ name)
def mail (sender : String) : Dialogue ClientError Reply := command ("MAIL FROM:<" ++ sender ++ ">")
def rcpt (recipient : String) : Dialogue ClientError Reply :=
  command ("RCPT TO:<" ++ recipient ++ ">")
def data : Dialogue ClientError Reply := command "DATA"
def quit : Dialogue ClientError Reply := command "QUIT"

def payload (content : String) : Dialogue ClientError Reply := do
  send (.payload content)
  receive

-- Secures the connection. What arrived before is forgotten, and a failure ends the connection.
def secure : Dialogue ClientError Unit := do
  let c ← get
  set { c with inbox := c.inbox.clear, connection := none }
  match c.connection with
  | none => throw (.failed .closed)
  | some connection =>
    if connection.encrypted then throw (.failed (.tls "Connection is already TLS"))
    match connection.handshake with
    | .error halt => throw halt
    | .ok wire =>
      modify fun c => { c with connection := some { connection with wire, encrypted := true } }
      record .secured

def startTls : Dialogue ClientError Reply := do
  let reply ← command "STARTTLS"
  if reply.isSuccess then secure
  return reply

end Dialogue

end MailRelay
