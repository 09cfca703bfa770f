import MailRelay.Delivery.Error
import MailRelay.Message.Rendering
import MailRelay.Smtp.Client

set_option autoImplicit false

namespace MailRelay

structure Transport where
  heloName : String
  port : Nat
  deriving DecidableEq, Repr

namespace Transport

def splitPort? (host : List Char) : Option (List Char × List Char) :=
  match host.reverse.dropWhile (· != ':') with
  | _ :: name => some (name.reverse, (host.reverse.takeWhile (· != ':')).reverse)
  | [] => none

-- A host may bring its own port.
def address (t : Transport) (host : String) : String × String :=
  match splitPort? host.toList with
  | some (name, port) =>
    if !name.contains ':' && (Text.unsigned? 65536 port).isSome then (host, String.ofList name)
    else (host ++ ":" ++ t.port.repr, host)
  | none => (host ++ ":" ++ t.port.repr, host)

def talk {α : Type} (d : Dialogue ClientError α) : Dialogue TransportError α :=
  ExceptT.adapt (Halt.map .ofClient) d

def rejected (r : Reply) : TransportError :=
  .rejected r.code r.message

def expect (r : Reply) : Dialogue TransportError Unit :=
  if r.isSuccess then pure () else throw (.failed (rejected r))

def connect (address : String) : Dialogue TransportError Unit := do
  ExceptT.adapt (Halt.map fun e => .connectionFailed (address ++ ": " ++ e.message))
    (Dialogue.connect address)
  expect (← talk Dialogue.receive)

-- Greets the server, in the old way if it refuses the new one.
def greet (t : Transport) : Dialogue TransportError Reply := do
  let reply ← talk (Dialogue.ehlo t.heloName)
  if reply.isSuccess then return reply
  let reply ← talk (Dialogue.helo t.heloName)
  expect reply
  return reply

/-- Whether the connection has to be made again without security. A refusal and a failure count
alike. -/
def negotiate (t : Transport) : Dialogue TransportError Bool := do
  let greeting ← greet t
  if !greeting.supports "STARTTLS" then return false
  let secured ← tryCatch (do return some (← talk Dialogue.startTls))
    fun
    | .failed _ => return none
    | .silent => throw .silent
  match secured with
  | some reply =>
    if !reply.isSuccess then return true
    expect (← talk (Dialogue.ehlo t.heloName))
    return false
  | none => return true

def recipients : List String → Dialogue TransportError Unit
  | [] => pure ()
  | recipient :: rest => do
    expect (← talk (Dialogue.rcpt recipient))
    recipients rest

-- The message is accepted by now, whatever the server says.
def leave : Dialogue TransportError Unit :=
  tryCatch (do let _ ← talk Dialogue.quit) fun
    | .failed _ => pure ()
    | .silent => throw .silent

def transact (t : Transport) (host : String) (m : Message) (date : Instant) :
    Dialogue TransportError Unit := do
  let (address, _) := t.address host
  connect address
  if ← negotiate t then
    connect address
    let _ ← greet t
  expect (← talk (Dialogue.mail m.sender))
  recipients m.recipients
  let reply ← talk Dialogue.data
  if !reply.isIntermediate then throw (.failed (rejected reply))
  expect (← talk (Dialogue.payload (m.render date)))
  leave

-- Silence lasts until the time limit.
def deliver (t : Transport) (host : String) (m : Message) (limit : Duration) (date : Instant)
    (client : Client) : Except TransportError Unit × Client :=
  match (t.transact host m date).run.run client with
  | (.ok (), client) => (.ok (), client)
  | (.error (.failed e), client) => (.error e, client)
  | (.error .silent, client) => (.error (.timeout limit), client)

end Transport

end MailRelay
