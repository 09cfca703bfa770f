import Mathlib.Data.List.Find
import MailRelay.Proofs.Address.Rereading
import MailRelay.Proofs.Smtp.Transaction

set_option autoImplicit false

namespace MailRelay

namespace Message

def isReread (address : String) : Bool :=
  (Mailbox.reread? address.toList).isSome

theorem isAddress_eq_isReread {spelling address : String}
    (parsed : Mailbox.parse? spelling = some address) : isAddress address = isReread address := by
  rw [isAddress, isReread, Mailbox.parse?_again parsed, Option.isSome_map]

end Message

namespace Command

theorem path?_parsed {argument : List Char} {address : String}
    (found : path? argument = some address) :
    ∃ spelling, Mailbox.parse? spelling = some address := by
  obtain ⟨word, -, parsed⟩ := Option.bind_eq_some_iff.1 found
  exact ⟨_, parsed⟩

def named? : Command → Option String
  | mail sender => sender
  | rcpt recipient => some recipient
  | _ => none

theorem ofVerb_named? (line : List Char) : (ofVerb line).named? = none := by
  unfold ofVerb
  dsimp only
  split
  case h_1 | h_2 => split <;> rfl
  all_goals rfl

theorem read_parsed {line : List Char} {address : String}
    (named : (read line).named? = some address) :
    ∃ spelling, Mailbox.parse? spelling = some address := by
  unfold read at named
  dsimp only at named
  split at named
  · unfold ofMail at named
    split at named
    · cases named
    split at named
    · next found =>
      cases named
      exact path?_parsed found
    · cases named
  split at named
  · unfold ofRcpt at named
    split at named
    · next found =>
      cases named
      exact path?_parsed found
    · cases named
  · rw [ofVerb_named?] at named
    cases named

end Command

namespace Session

section

variable [ForeignDecoders] {stamps : Stamps} {s : Session}

theorem command_line {raw : Bytes} {c : Command} (given : (s.line stamps raw).2.command = some c) :
    ∃ line, c = Command.read line := by
  cases awaits : s.stage.awaitsCommand with
  | true =>
    rw [line_awaiting stamps awaits] at given
    split at given
    · cases given
    · exact ⟨_, (Option.some.inj given).symm⟩
  | false =>
    have taken := s.taken_line stamps raw
    generalize s.line stamps raw = result at taken given
    cases taken with
    | finished | gathered | ended => cases given
    | tooLong _ stands | obeyed _ _ stands => simp [awaits] at stands

theorem commands_lines (s : Session) (input : List Bytes) :
    ∀ e ∈ (s.lines stamps input).2, ∀ c, e.command = some c → ∃ line, c = Command.read line := by
  refine lines_induction (P := fun _ _ events =>
    ∀ e ∈ events, ∀ c, e.command = some c → ∃ line, c = Command.read line)
    (List.forall_mem_nil _) (fun raw known => ?_) input
  refine List.forall_mem_append.2 ⟨known, List.forall_mem_singleton.2 fun c given => ?_⟩
  exact command_line given

def Accepted (events : List SessionEvent) (address : String) : Prop :=
  ∃ e ∈ events, ∃ c, e.command = some c ∧ c.named? = some address ∧ e.code? = some 250

theorem accepted_of_submission {host : String} {r : Reception} {before : List Bytes} {raw : Bytes}
    {m : Message} (submits : ((new host r).lines stamps before).1.submission? stamps raw = some m) :
    m.addressees ≠ [] ∧ ∀ address ∈ m.sender :: m.recipients,
      Accepted ((new host r).lines stamps before).2 address := by
  obtain ⟨-, told⟩ := told_lines host r stamps before
  obtain ⟨sender, recipients, received, stage, -, -, made⟩ := content_of_submission submits
  rw [stage] at told
  obtain ⟨earlier, mail, addressing, data, content, events, gathering, named, -⟩ := told
  obtain ⟨-, sent, perm, addressed⟩ := Message.ofMail_ok made
  refine ⟨addressed named, List.forall_mem_cons.2 ⟨?_, fun recipient member => ?_⟩⟩
  · exact ⟨mail, by simp [events], _, gathering.opened, congrArg some sent.symm, gathering.accepted⟩
  · rw [perm.mem_iff, ← gathering.named, List.mem_filterMap] at member
    obtain ⟨e, within, named⟩ := member
    unfold SessionEvent.named? at named
    split at named
    · next found =>
      split at named
      · next accepted =>
        cases named
        exact ⟨e, by simp [events, within], _, found, rfl, accepted⟩
      · cases named
    · cases named

theorem parsed_of_accepted {host : String} {r : Reception} {before : List Bytes} {address : String}
    (accepted : Accepted ((new host r).lines stamps before).2 address) :
    ∃ spelling, Mailbox.parse? spelling = some address := by
  obtain ⟨e, member, c, given, named, -⟩ := accepted
  obtain ⟨line, rfl⟩ := commands_lines _ before e member c given
  exact Command.read_parsed named

/-- Every address of a submitted message was accepted when the client named it, and the message is
refused for those that are not read again. -/
theorem submission_is_refused_for_an_address_iff (host : String) (r : Reception) (stamps : Stamps)
    (input : Bytes) (ending : InputEnd) {before after : List Bytes} {raw : Bytes} {m : Message}
    (split : heard input ending = before ++ raw :: after)
    (submits : ((new host r).lines stamps before).1.submission? stamps raw = some m) :
    (∀ address ∈ m.sender :: m.recipients,
      Accepted ((new host r).serve stamps input ending).2 address ∧
        ∃ spelling, Mailbox.parse? spelling = some address) ∧
      (∀ (r' : Reception) (now : Instant),
        (r'.submit m now).2 = .error (.invalid .invalidSender) ↔
          Message.isReread m.sender = false) ∧
      (∀ (r' : Reception) (now : Instant) (address : String),
        (r'.submit m now).2 = .error (.invalid (.invalidRecipient address)) ↔
          Message.isReread m.sender = true ∧
            m.recipients.find? (!Message.isReread ·) = some address) ∧
      ∀ spelling address, Mailbox.parse? spelling = some address →
        Mailbox.parse? address = (Mailbox.reread? address.toList).map String.ofList ∧
          (Mailbox.parse? address = some address ↔ AddressList.isBare address.toList = true) := by
  obtain ⟨addressed, accepted⟩ := accepted_of_submission submits
  have parsed (address : String) (member : address ∈ m.sender :: m.recipients) :
      ∃ spelling, Mailbox.parse? spelling = some address :=
    parsed_of_accepted (accepted address member)
  have again (address : String) (member : address ∈ m.sender :: m.recipients) :
      Message.isAddress address = Message.isReread address := by
    obtain ⟨spelling, read⟩ := parsed address member
    exact Message.isAddress_eq_isReread read
  have sender := again m.sender List.mem_cons_self
  have recipients : m.recipients.find? (!Message.isAddress ·) =
      m.recipients.find? (!Message.isReread ·) :=
    List.find?_congr fun address member => by rw [again address (List.mem_cons_of_mem _ member)]
  refine ⟨fun address member => ⟨?_, parsed address member⟩, fun r' now => ?_,
    fun r' now address => ?_, fun spelling address read => ?_⟩
  · obtain ⟨later, served⟩ := events_serve stamps (new host r) split
    obtain ⟨e, within, named⟩ := accepted address member
    exact ⟨e, by simp [served, within], named⟩
  · rw [Reception.submit_invalid_iff, Message.validate_invalidSender_iff, sender]
  · rw [Reception.submit_invalid_iff, Message.validate_invalidRecipient_iff addressed, sender,
      recipients]
  · exact ⟨Mailbox.parse?_again read, Mailbox.parse?_self_iff read⟩

end

-- A comment is no obstacle, but the address is another one without it.
open AsciiOnly in
theorem comment_is_read_again :
    let input := Utf8.ofString
      ("EHLO a\r\nMAIL FROM:<a(c)@example.com>\r\nRCPT TO:<b@example.org>\r\nDATA\r\n" ++
        "Subject: s\r\n\r\nb\r\n.\r\n")
    let s := new "h" (.new .default (.new 1 .zero))
    let stamps : Stamps := fun _ => ⟨"m", .min, .min⟩
    ∃ before raw m, heard input .closed = before ++ [raw] ∧
      (s.lines stamps before).1.submission? stamps raw = some m ∧
      m.sender = "a(c)@example.com" ∧ m.recipients = ["b@example.org"] ∧
      (∀ (r : Reception) (now : Instant), (r.submit m now).2 ≠ .error (.invalid .invalidSender)) ∧
      ∀ (r : Reception) (now : Instant) (address : String),
        (r.submit m now).2 ≠ .error (.invalid (.invalidRecipient address)) := by
  intro input s stamps
  have split : heard input .closed = (heard input .closed).dropLast ++ [[46, 13, 10]] := by
    decide +kernel
  have submitted : ((s.lines stamps (heard input .closed).dropLast).1.submission? stamps
      [46, 13, 10]).map (fun m => (m.sender, m.recipients)) =
        some ("a(c)@example.com", ["b@example.org"]) := by
    decide +kernel
  obtain ⟨m, submits, facts⟩ := Option.map_eq_some_iff.1 submitted
  obtain ⟨sender, recipients⟩ := Prod.mk.inj facts
  obtain ⟨-, first, second, -⟩ := submission_is_refused_for_an_address_iff "h"
    (.new .default (.new 1 .zero)) stamps input .closed split submits
  refine ⟨_, _, m, split, submits, sender, recipients, fun r now refused => ?_,
    fun r now address refused => ?_⟩
  · have lost := (first r now).1 refused
    rw [sender] at lost
    revert lost
    decide +kernel
  · have lost := ((second r now address).1 refused).2
    rw [recipients] at lost
    have kept : ["b@example.org"].find? (!Message.isReread ·) = none := by decide +kernel
    rw [kept] at lost
    cases lost

-- The quotes are lost on the way back: an address that begins with one is taken for a name.
open AsciiOnly in
theorem quoted_sender_is_accepted_and_then_refused :
    let input := Utf8.ofString
      ("EHLO a\r\nMAIL FROM:<\"john\"@example.com>\r\nRCPT TO:<b@example.org>\r\nDATA\r\n" ++
        "Subject: s\r\n\r\nb\r\n.\r\n")
    let s := new "h" (.new .default (.new 1 .zero))
    let stamps : Stamps := fun _ => ⟨"m", .min, .min⟩
    Mailbox.parse? "<\"john\"@example.com>" = some "\"john\"@example.com" ∧
      Mailbox.parse? "\"john\"@example.com" = none ∧
      ((s.serve stamps input .closed).2.map fun e => (e.command, e.code?)).take 4 =
        [(none, some 220), (some (.ehlo "a"), some 250),
          (some (.mail (some "\"john\"@example.com")), some 250),
          (some (.rcpt "b@example.org"), some 250)] ∧
      (s.serve stamps input .closed).2.filterMap (fun e => e.replies.find? (·.code == 554)) =
        [reply 554 "5.6.0 invalid from address"] := by
  decide +kernel

end Session

end MailRelay
