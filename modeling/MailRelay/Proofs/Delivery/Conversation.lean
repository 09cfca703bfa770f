import MailRelay.Delivery.Transport
import MailRelay.Proofs.Smtp.Dialogue

set_option autoImplicit false

namespace MailRelay

namespace DialogueEvent

def isEnvelope : DialogueEvent → Bool
  | command line =>
    "MAIL FROM:<".toList.isPrefixOf line.toList || "RCPT TO:<".toList.isPrefixOf line.toList
  | connected _ | payload _ | reply _ | secured => false

def isPayload : DialogueEvent → Bool
  | payload _ => true
  | connected _ | command _ | reply _ | secured => false

def carriesMessage (e : DialogueEvent) : Bool :=
  e.isEnvelope || e.isPayload

theorem isPayload_of_isEnvelope {e : DialogueEvent} (named : e.isEnvelope = true) :
    e.isPayload = false := by
  cases e with
  | payload content => simp [isEnvelope] at named
  | connected | command | reply | secured => rfl

@[simp] theorem isEnvelope_ehlo (name : String) :
    (command ("EHLO " ++ name)).isEnvelope = false := by
  simp [isEnvelope, List.isPrefixOf]

@[simp] theorem isEnvelope_helo (name : String) :
    (command ("HELO " ++ name)).isEnvelope = false := by
  simp [isEnvelope, List.isPrefixOf]

@[simp] theorem isEnvelope_mail (sender : String) :
    (command ("MAIL FROM:<" ++ sender ++ ">")).isEnvelope = true := by
  simp [isEnvelope, List.isPrefixOf]

@[simp] theorem isEnvelope_rcpt (recipient : String) :
    (command ("RCPT TO:<" ++ recipient ++ ">")).isEnvelope = true := by
  simp [isEnvelope, List.isPrefixOf]

@[simp] theorem isEnvelope_startTls : (command "STARTTLS").isEnvelope = false := by
  decide

@[simp] theorem isEnvelope_data : (command "DATA").isEnvelope = false := by
  decide

@[simp] theorem isEnvelope_quit : (command "QUIT").isEnvelope = false := by
  decide

end DialogueEvent

def envelope (sender : String) (recipients : List String) : List DialogueEvent :=
  .command ("MAIL FROM:<" ++ sender ++ ">") ::
    recipients.map fun recipient => .command ("RCPT TO:<" ++ recipient ++ ">")

theorem isEnvelope_of_mem {e : DialogueEvent} {sender : String} {recipients : List String}
    (member : e ∈ envelope sender recipients) : e.isEnvelope = true := by
  rcases List.mem_cons.1 member with rfl | member
  · exact DialogueEvent.isEnvelope_mail sender
  · obtain ⟨recipient, -, rfl⟩ := List.mem_map.1 member
    exact DialogueEvent.isEnvelope_rcpt recipient

namespace Transport

open Dialogue DialogueEvent

theorem shows_talk {α : Type} {shown : List DialogueEvent} {d : Dialogue ClientError α}
    (shows : Shows carriesMessage shown d) : Shows carriesMessage shown (talk d) :=
  shows.adapt

theorem shows_expect (r : Reply) : Shows carriesMessage [] (expect r) := by
  rw [expect]
  exact Shows.ite (Shows.pure ()) (Shows.throw _)

theorem shows_quiet (line : String) (quiet : (DialogueEvent.command line).isEnvelope = false) :
    Shows carriesMessage [] (command line) := by
  have nothing : [DialogueEvent.command line].filter carriesMessage = [] := by
    simp [carriesMessage, quiet, isPayload]
  exact nothing ▸ Shows.command line fun _ => rfl

theorem shows_itself (line : String) (named : (DialogueEvent.command line).isEnvelope = true) :
    Shows carriesMessage [.command line] (command line) := by
  have itself : [DialogueEvent.command line].filter carriesMessage = [.command line] := by
    simp [carriesMessage, named]
  exact itself ▸ Shows.command line fun _ => rfl

theorem shows_connect (address : String) : Shows carriesMessage [] (connect address) := by
  rw [connect]
  refine Shows.quiet_bind (Shows.connect address rfl).adapt fun _ => ?_
  exact Shows.quiet_bind (shows_talk (Shows.receive fun _ => rfl)) shows_expect

theorem shows_greet (t : Transport) : Shows carriesMessage [] (greet t) := by
  rw [greet]
  refine Shows.quiet_bind (shows_talk (shows_quiet _ (isEnvelope_ehlo _))) fun reply => ?_
  refine Shows.ite (Shows.pure reply) ?_
  refine Shows.quiet_bind (shows_talk (shows_quiet _ (isEnvelope_helo _))) fun reply => ?_
  exact Shows.quiet_bind (shows_expect reply) fun _ => Shows.pure reply

theorem shows_startTls : Shows carriesMessage [] startTls := by
  rw [startTls]
  refine Shows.quiet_bind (shows_quiet _ isEnvelope_startTls) fun reply => ?_
  exact Shows.ite (Shows.quiet_bind (Shows.secure rfl) fun _ => Shows.pure reply) (Shows.pure reply)

theorem shows_negotiate (t : Transport) : Shows carriesMessage [] (negotiate t) := by
  rw [negotiate]
  refine Shows.quiet_bind (shows_greet t) fun greeting => ?_
  refine Shows.ite (Shows.pure false) ?_
  refine Shows.quiet_bind (Shows.quiet_tryCatch ?_ ?_) fun secured => ?_
  · exact Shows.quiet_bind (shows_talk shows_startTls) fun reply => Shows.pure _
  · rintro (e | _)
    · exact Shows.pure none
    · exact Shows.throw .silent
  · cases secured with
    | none => exact Shows.pure true
    | some reply =>
      refine Shows.ite (Shows.pure true) ?_
      refine Shows.quiet_bind (shows_talk (shows_quiet _ (isEnvelope_ehlo _))) fun reply => ?_
      exact Shows.quiet_bind (shows_expect reply) fun _ => Shows.pure false

theorem shows_recipients (rs : List String) :
    Shows carriesMessage
      (rs.map fun recipient => .command ("RCPT TO:<" ++ recipient ++ ">")) (recipients rs) := by
  induction rs with
  | nil => exact Shows.pure ()
  | cons recipient rest ih =>
    rw [recipients, List.map_cons, ← List.singleton_append]
    refine Shows.bind (shows_talk (shows_itself _ (isEnvelope_rcpt recipient))) fun reply => ?_
    exact Shows.quiet_bind (shows_expect reply) fun _ => ih

theorem shows_leave : Shows carriesMessage [] leave := by
  rw [leave]
  refine Shows.quiet_tryCatch ?_ ?_
  · exact Shows.quiet_bind (shows_talk (shows_quiet _ isEnvelope_quit)) fun _ => Shows.pure ()
  · rintro (e | _)
    · exact Shows.pure ()
    · exact Shows.throw .silent

theorem play_leave (c : Client) :
    (play leave c).1 =
      match (play quit c).1 with
      | .error .silent => .error .silent
      | _ => .ok () := by
  cases parting : play quit c with
  | mk outcome after =>
    rcases outcome with (e | _) | reply <;>
      simp [leave, talk, parting, Except.map, Halt.map]

-- The transaction in parts: up to the greeting on the connection that is kept, up to the consent to
-- take the content, and up to the farewell.
def reach (t : Transport) (host : String) : Dialogue TransportError Unit := do
  let (address, _) := t.address host
  connect address
  if ← negotiate t then
    connect address
    let _ ← greet t

def prepare (t : Transport) (host : String) (m : Message) : Dialogue TransportError Unit := do
  reach t host
  expect (← talk (Dialogue.mail m.sender))
  recipients m.recipients
  let reply ← talk Dialogue.data
  if !reply.isIntermediate then throw (.failed (rejected reply))

def handover (t : Transport) (host : String) (m : Message) (date : Instant) :
    Dialogue TransportError Unit := do
  prepare t host m
  expect (← talk (Dialogue.payload (m.render date)))

theorem throw_or_bind {α : Type} (refused : Prop) [Decidable refused] (h : Halt TransportError)
    (next : Unit → Dialogue TransportError α) :
    (if refused then throw h else pure ()) >>= next = if refused then throw h else next () := by
  by_cases refusal : refused <;> simp [refusal]

theorem transact_eq (t : Transport) (host : String) (m : Message) (date : Instant) :
    t.transact host m date = (do t.handover host m date; leave) := by
  simp only [transact, handover, prepare, reach, bind_assoc]
  congr 1
  funext _
  congr 1
  funext again
  -- Whether a second connection is made or not, the same steps follow.
  cases again <;> simp [throw_or_bind]

theorem shows_reach (t : Transport) (host : String) : Shows carriesMessage [] (t.reach host) := by
  rw [reach]
  refine Shows.quiet_bind (shows_connect _) fun _ => ?_
  refine Shows.quiet_bind (shows_negotiate t) fun again => ?_
  refine Shows.ite ?_ (Shows.pure ())
  refine Shows.quiet_bind (shows_connect _) fun _ => ?_
  exact Shows.quiet_bind (shows_greet t) fun _ => Shows.pure ()

theorem shows_prepare (t : Transport) (host : String) (m : Message) :
    Shows carriesMessage (envelope m.sender m.recipients) (t.prepare host m) := by
  rw [prepare, envelope, ← List.singleton_append]
  refine Shows.quiet_bind (shows_reach t host) fun _ => ?_
  refine Shows.bind (shows_talk (shows_itself _ (isEnvelope_mail m.sender))) fun reply => ?_
  refine Shows.quiet_bind (shows_expect reply) fun _ => ?_
  rw [← List.append_nil (List.map _ _)]
  refine Shows.bind (shows_recipients m.recipients) fun _ => ?_
  refine Shows.quiet_bind (shows_talk (shows_quiet _ isEnvelope_data)) fun reply => ?_
  exact Shows.ite (Shows.throw _) (Shows.pure ())

theorem shows_handover (t : Transport) (host : String) (m : Message) (date : Instant) :
    Shows carriesMessage (envelope m.sender m.recipients ++ [.payload (m.render date)])
      (t.handover host m date) := by
  rw [handover]
  refine Shows.bind (shows_prepare t host m) fun _ => ?_
  rw [← List.append_nil [_]]
  exact Shows.bind (shows_talk (Shows.payload _ fun _ => rfl)) shows_expect

theorem shows_transact (t : Transport) (host : String) (m : Message) (date : Instant) :
    Shows carriesMessage (envelope m.sender m.recipients ++ [.payload (m.render date)])
      (t.transact host m date) := by
  rw [transact_eq, ← List.append_nil (_ ++ _)]
  exact Shows.bind (shows_handover t host m date) fun _ => shows_leave

theorem deliver_eq (t : Transport) (host : String) (m : Message) (limit : Duration)
    (date : Instant) (c : Client) :
    t.deliver host m limit date c =
      match play (t.transact host m date) c with
      | (.ok (), c) => (.ok (), c)
      | (.error (.failed e), c) => (.error e, c)
      | (.error .silent, c) => (.error (.timeout limit), c) := rfl

theorem deliver_carries (t : Transport) (host : String) (m : Message) (limit : Duration)
    (date : Instant) (servers : List Peer) :
    let run := t.deliver host m limit date (.facing servers)
    let whole := envelope m.sender m.recipients ++ [.payload (m.render date)]
    run.2.events.filter carriesMessage <+: whole ∧
      (run.1 = .ok () → run.2.events.filter carriesMessage = whole) := by
  obtain ⟨front, whole⟩ := (t.shows_transact host m date).of_facing servers
  simp only [deliver_eq]
  cases result : play (t.transact host m date) (.facing servers) with
  | mk outcome after =>
    rw [result] at front whole
    cases outcome with
    | ok => exact ⟨front, fun _ => whole () rfl⟩
    | error h => cases h <;> exact ⟨front, nofun⟩

theorem envelope_carried (sender : String) (recipients : List String) (content : String) :
    (envelope sender recipients ++ [DialogueEvent.payload content]).filter isEnvelope =
      envelope sender recipients := by
  rw [List.filter_append, List.filter_eq_self.2 fun _ => isEnvelope_of_mem]
  simp [isEnvelope]

theorem filter_carriesMessage (es : List DialogueEvent) :
    (es.filter carriesMessage).filter isEnvelope = es.filter isEnvelope := by
  rw [List.filter_filter]
  refine List.filter_congr fun e _ => ?_
  simp only [carriesMessage]
  cases e.isEnvelope <;> simp

theorem deliver_sends_envelope (t : Transport) (host : String) (m : Message) (limit : Duration)
    (date : Instant) (servers : List Peer) :
    let run := t.deliver host m limit date (.facing servers)
    run.2.events.filter isEnvelope <+: envelope m.sender m.recipients ∧
      (run.1 = .ok () → run.2.events.filter isEnvelope = envelope m.sender m.recipients) := by
  obtain ⟨front, whole⟩ := t.deliver_carries host m limit date servers
  have selected := envelope_carried m.sender m.recipients (m.render date)
  constructor
  · rw [← filter_carriesMessage, ← selected]
    exact front.filter isEnvelope
  · intro ok
    rw [← filter_carriesMessage, whole ok, selected]

end Transport

end MailRelay
