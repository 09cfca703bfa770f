import MailRelay.Proofs.Message.Validation
import MailRelay.Proofs.Queue.Reception
import MailRelay.Proofs.Smtp.Ingest
import MailRelay.Proofs.Smtp.Session

set_option autoImplicit false

namespace MailRelay

-- Whether a command drops a message in preparation.
def Command.restarts : Command → Bool
  | helo _ | ehlo _ | rset => true
  | _ => false

namespace SessionEvent

def code? (e : SessionEvent) : Option Nat :=
  match e.replies with
  | [r] => some r.code
  | _ => none

def named? (e : SessionEvent) : Option String :=
  match e.command with
  | some (.rcpt recipient) => if e.code? = some 250 then some recipient else none
  | _ => none

def Continues (e : SessionEvent) : Prop :=
  ∀ c, e.command = some c → c.restarts = false ∧
    ((∃ sender, c = .mail sender) ∨ c = .data → e.code? = some 503)

theorem Continues.of_reply {c : Command} {r : Reply} (keeps : c.restarts = false)
    (refused : (∃ sender, c = .mail sender) ∨ c = .data → r.code = 503) :
    Continues ⟨some c, [r]⟩ := by
  intro c' same
  obtain rfl := Option.some.inj same
  exact ⟨keeps, fun begins => congrArg some (refused begins)⟩

end SessionEvent

/-- What came since an accepted MAIL command, while recipients were named. -/
structure Gathering (limit : Nat) (sender : String) (recipients : List String) (mail : SessionEvent)
    (addressing : List SessionEvent) : Prop where
  opened : mail.command = some (.mail (some sender))
  accepted : mail.code? = some 250
  named : addressing.filterMap (·.named?) = recipients
  within : recipients.length ≤ limit
  undisturbed : ∀ e ∈ addressing, e.Continues
  /-- Content is refused only as long as nobody is named. -/
  premature : ∀ front e back, addressing = front ++ e :: back → e.command = some .data →
    front.filterMap (·.named?) = []

namespace Gathering

variable {limit : Nat} {sender : String} {recipients : List String} {mail e : SessionEvent}
  {addressing : List SessionEvent}

theorem opening (opened : mail.command = some (.mail (some sender)))
    (accepted : mail.code? = some 250) : Gathering limit sender [] mail [] where
  opened := opened
  accepted := accepted
  named := rfl
  within := Nat.zero_le _
  undisturbed := List.forall_mem_nil _
  premature front e back split := by simp at split

theorem append (gathering : Gathering limit sender recipients mail addressing)
    (continues : e.Continues) (within : (recipients ++ e.named?.toList).length ≤ limit)
    (premature : e.command = some .data → recipients = []) :
    Gathering limit sender (recipients ++ e.named?.toList) mail (addressing ++ [e]) where
  opened := gathering.opened
  accepted := gathering.accepted
  named := by
    rw [List.filterMap_append, gathering.named]
    cases named : e.named? <;> simp [named]
  within := within
  undisturbed :=
    List.forall_mem_append.2 ⟨gathering.undisturbed, List.forall_mem_singleton.2 continues⟩
  premature front f back split data := by
    rcases List.eq_nil_or_concat back with rfl | ⟨back, last, rfl⟩
    · obtain ⟨rfl, same⟩ := List.append_inj' split rfl
      cases same
      rw [gathering.named, premature data]
    · rw [List.concat_eq_append, ← List.cons_append, ← List.append_assoc] at split
      obtain ⟨split, -⟩ := List.append_inj' split rfl
      exact gathering.premature front f back split data

theorem idle (gathering : Gathering limit sender recipients mail addressing)
    (continues : e.Continues) (unnamed : e.named? = none)
    (premature : e.command = some .data → recipients = []) :
    Gathering limit sender recipients mail (addressing ++ [e]) := by
  have more := gathering.append continues (by simpa [unnamed] using gathering.within) premature
  simpa [unnamed] using more

end Gathering

namespace Session

def Told (limit : Nat) (events : List SessionEvent) : SessionStage → Prop
  | .addressed sender recipients => ∃ earlier mail addressing,
    events = earlier ++ mail :: addressing ∧ Gathering limit sender recipients mail addressing
  | .content sender recipients _ => ∃ earlier mail addressing data content,
    events = earlier ++ mail :: addressing ++ data :: content ∧
      Gathering limit sender recipients mail addressing ∧ recipients ≠ [] ∧
      data.command = some .data ∧ data.code? = some 354 ∧ ∀ e ∈ content, e = ⟨none, []⟩
  | .connected | .greeted | .closed => True

variable {s : Session} {events : List SessionEvent}

theorem told_addressed {limit : Nat} {sender : String} {recipients : List String} {e : SessionEvent}
    (told : Told limit events (.addressed sender recipients)) (continues : e.Continues)
    (unnamed : e.named? = none) (premature : e.command = some .data → recipients = []) :
    Told limit (events ++ [e]) (.addressed sender recipients) := by
  obtain ⟨earlier, mail, addressing, rfl, gathering⟩ := told
  exact ⟨earlier, mail, addressing ++ [e], by simp, gathering.idle continues unnamed premature⟩

theorem told_command (told : Told s.reception.limits.maxRecipients events s.stage) (c : Command)
    (awaits : s.stage.awaitsCommand = true) :
    Told s.reception.limits.maxRecipients (events ++ [⟨some c, [(s.command c).2]⟩])
      (s.command c).1.stage := by
  obtain ⟨host, stage, r⟩ := s
  cases stage with
  | content | closed => cases awaits
  | connected => cases c <;> trivial
  | greeted =>
    cases c with
    | mail sender =>
      cases sender with
      | none => trivial
      | some sender => exact ⟨events, _, [], rfl, .opening rfl rfl⟩
    | _ => trivial
  | addressed sender recipients =>
    cases c with
    | helo | ehlo | rset | quit => trivial
    | mail next => exact told_addressed told (.of_reply rfl fun _ => rfl) rfl nofun
    | noop | vrfy | invalid => exact told_addressed told (.of_reply rfl (by simp)) rfl nofun
    | data =>
      cases recipients with
      | nil => exact told_addressed told (.of_reply rfl fun _ => rfl) rfl fun _ => rfl
      | cons first rest =>
        obtain ⟨earlier, mail, addressing, rfl, gathering⟩ := told
        exact ⟨earlier, mail, addressing, _, [], rfl, gathering, List.cons_ne_nil first rest, rfl,
          rfl, List.forall_mem_nil _⟩
    | rcpt recipient =>
      have continues (r : Reply) : SessionEvent.Continues ⟨some (.rcpt recipient), [r]⟩ :=
        .of_reply rfl (by simp)
      have premature : some (Command.rcpt recipient) = some .data → recipients = [] := by simp
      rw [command, rcpt]
      dsimp only
      split
      · exact told_addressed told (continues _) rfl premature
      · next room =>
        obtain ⟨earlier, mail, addressing, rfl, gathering⟩ := told
        have within : (recipients ++ [recipient]).length ≤ r.limits.maxRecipients := by
          rw [List.length_append]
          exact Nat.lt_of_not_le room
        exact ⟨earlier, mail, addressing ++ [_], by simp,
          gathering.append (continues (reply 250 "2.1.5 Ok")) within premature⟩

section

variable [ForeignDecoders]

theorem told_line (stamps : Stamps) (told : Told s.reception.limits.maxRecipients events s.stage)
    (raw : Bytes) :
    Told s.reception.limits.maxRecipients (events ++ [(s.line stamps raw).2])
      (s.line stamps raw).1.stage := by
  have taken := s.taken_line stamps raw
  generalize s.line stamps raw = result at taken ⊢
  cases taken with
  | finished | ended => trivial
  | gathered host sender recipients received r inside =>
    obtain ⟨earlier, mail, addressing, data, content, rfl, gathering, named, commanded, invited,
      silent⟩ := told
    refine ⟨earlier, mail, addressing, data, content ++ [⟨none, []⟩], by simp, gathering, named,
      commanded, invited, ?_⟩
    exact List.forall_mem_append.2 ⟨silent, List.forall_mem_singleton.2 rfl⟩
  | obeyed _ c awaits => exact told_command told c awaits
  | tooLong _ awaits =>
    obtain ⟨host, stage, r⟩ := s
    cases stage with
    | content | closed => cases awaits
    | connected | greeted => trivial
    | addressed sender recipients => exact told_addressed told nofun rfl nofun

theorem told_lines (host : String) (r : Reception) (stamps : Stamps) (input : List Bytes) :
    ((new host r).lines stamps input).1.reception.limits = r.limits ∧
      Told r.limits.maxRecipients ((new host r).lines stamps input).2
        ((new host r).lines stamps input).1.stage := by
  refine lines_induction (s := new host r) (P := fun _ s events =>
    s.reception.limits = r.limits ∧ Told r.limits.maxRecipients events s.stage)
    ⟨rfl, trivial⟩ (fun {_ s events} raw known => ?_) input
  obtain ⟨limits, told⟩ := known
  rw [← limits] at told ⊢
  exact ⟨limits_line stamps s raw, told_line stamps told raw⟩

theorem submitted_messages_follow_their_transaction (host : String) (r : Reception)
    (stamps : Stamps) (input : Bytes) (ending : InputEnd) {before after : List Bytes} {raw : Bytes}
    {m : Message} (split : heard input ending = before ++ raw :: after)
    (submits : ((new host r).lines stamps before).1.submission? stamps raw = some m) :
    ∃ earlier mail addressing data content later,
      ((new host r).serve stamps input ending).2 =
        earlier ++ mail :: addressing ++ data :: content ++
          (((new host r).lines stamps before).1.line stamps raw).2 :: later ∧
      (((new host r).lines stamps before).1.line stamps raw).1.reception =
        ((((new host r).lines stamps before).1.reception.stamp stamps).1.submit m
          (stamps ((new host r).lines stamps before).1.reception.stamped).queuedAt).1 ∧
      -- The sender is that of the last accepted MAIL command.
      mail.command = some (.mail (some m.sender)) ∧ mail.code? = some 250 ∧
      (∀ e ∈ addressing ++ data :: content, ∀ sender, e.command = some (.mail sender) →
        e.code? ≠ some 250) ∧
      -- The recipients are those of the accepted RCPT commands since then.
      m.recipients.Perm ((addressing ++ data :: content).filterMap (·.named?)) ∧
      (∀ e ∈ addressing, ∀ c, e.command = some c → c.restarts = false ∧
        (c = .data → e.code? = some 503)) ∧
      (∀ front e back, addressing = front ++ e :: back → e.command = some .data →
        front.filterMap (·.named?) = []) ∧
      data.command = some .data ∧ data.code? = some 354 ∧ (∀ e ∈ content, e = ⟨none, []⟩) ∧
      1 ≤ m.recipients.length ∧ m.recipients.length ≤ r.limits.maxRecipients ∧
      ∀ (r' : Reception) (now : Instant) (e : ValidationError), r'.limits = r.limits →
        (r'.submit m now).2 = .error (.invalid e) →
        e ≠ .noRecipients ∧ ∀ count max, e ≠ .tooManyRecipients count max := by
  obtain ⟨-, told⟩ := told_lines host r stamps before
  obtain ⟨sender, recipients, received, stage, -, -, made⟩ := content_of_submission submits
  rw [stage] at told
  obtain ⟨earlier, mail, addressing, data, content, events, gathering, named, commanded, invited,
    silent⟩ := told
  obtain ⟨-, sent, perm, addressed⟩ := Message.ofMail_ok made
  have unnamed : (data :: content).filterMap (·.named?) = [] := by
    refine List.filterMap_eq_nil_iff.2 (List.forall_mem_cons.2 ⟨?_, fun e member => ?_⟩)
    · simp [SessionEvent.named?, commanded]
    · rw [silent e member]
      rfl
  have length : m.recipients.length = recipients.length := perm.length_eq
  obtain ⟨later, served⟩ := events_serve stamps (new host r) split
  refine ⟨⟨none, [(new host r).welcome]⟩ :: earlier, mail, addressing, data, content, later, ?_,
    (line_submission submits).1, sent ▸ gathering.opened, gathering.accepted, ?_, ?_, ?_,
    gathering.premature, commanded, invited, silent, ?_, length ▸ gathering.within, ?_⟩
  · rw [served, events]
    rfl
  · intro e member from' begins
    rcases List.mem_append.1 member with early | late
    · have refused := (gathering.undisturbed e early _ begins).2 (.inl ⟨_, rfl⟩)
      simp [refused]
    · rcases List.mem_cons.1 late with rfl | quiet
      · cases commanded.symm.trans begins
      · cases silent e quiet ▸ begins
  · rw [List.filterMap_append, unnamed, gathering.named, List.append_nil]
    exact perm
  · intro e member c begins
    obtain ⟨keeps, refused⟩ := gathering.undisturbed e member c begins
    exact ⟨keeps, fun data => refused (.inr data)⟩
  · rw [length]
    exact List.length_pos_iff.2 named
  · intro r' now e same refused
    have few : m.recipients.length ≤ r'.limits.maxRecipients := by
      rw [length, same]
      exact gathering.within
    have kind := Message.validate_isCount (addressed named) few (Reception.submit_error refused)
    refine ⟨?_, fun count max => ?_⟩ <;> rintro rfl <;> cases kind

end

-- The transaction that is reset leaves nothing behind.
open AsciiOnly in
theorem reset_transaction_is_not_submitted :
    let input := Utf8.ofString
      ("EHLO a\r\nMAIL FROM:<x@example.com>\r\nRCPT TO:<y@example.org>\r\nRSET\r\n" ++
        "MAIL FROM:<a@example.com>\r\nRCPT TO:<b@example.org>\r\nDATA\r\n" ++
        "Subject: s\r\n\r\nb\r\n.\r\n")
    let s := new "h" (.new .default (.new 1 .zero))
    let stamps : Stamps := fun _ => ⟨"m", .min, .min⟩
    ∃ before raw m, heard input .closed = before ++ [raw] ∧
      (s.lines stamps before).1.submission? stamps raw = some m ∧
      m.sender = "a@example.com" ∧ m.recipients = ["b@example.org"] ∧
      ∃ mail ∈ (s.serve stamps input .closed).2,
        mail.command = some (.mail (some m.sender)) ∧ mail.code? = some 250 := by
  intro input s stamps
  have split : heard input .closed = (heard input .closed).dropLast ++ [[46, 13, 10]] := by
    decide +kernel
  have submitted : ((s.lines stamps (heard input .closed).dropLast).1.submission? stamps
      [46, 13, 10]).map (fun m => (m.sender, m.recipients)) =
        some ("a@example.com", ["b@example.org"]) := by
    decide +kernel
  obtain ⟨m, submits, facts⟩ := Option.map_eq_some_iff.1 submitted
  obtain ⟨sender, recipients⟩ := Prod.mk.inj facts
  obtain ⟨earlier, mail, addressing, data, content, later, events, -, opened, accepted, -⟩ :=
    submitted_messages_follow_their_transaction "h" (.new .default (.new 1 .zero)) stamps input
      .closed split submits
  exact ⟨_, _, m, split, submits, sender, recipients, mail, by simp [s, events], opened, accepted⟩

-- Content that is asked for too early is refused, and the transaction goes on.
open AsciiOnly in
theorem refused_data_stands_in_between :
    let input := Utf8.ofString
      ("EHLO a\r\nMAIL FROM:<a@example.com>\r\nDATA\r\nRCPT TO:<b@example.org>\r\nDATA\r\n" ++
        "Subject: s\r\n\r\nb\r\n.\r\n")
    let s := new "h" (.new .default (.new 1 .zero))
    let stamps : Stamps := fun _ => ⟨"m", .min, .min⟩
    ∃ before raw m, heard input .closed = before ++ [raw] ∧
      (s.lines stamps before).1.submission? stamps raw = some m ∧
      m.sender = "a@example.com" ∧ m.recipients = ["b@example.org"] ∧
      (s.lines stamps before).2.map (fun e => (e.command, e.code?)) =
        [(some (.ehlo "a"), some 250), (some (.mail (some "a@example.com")), some 250),
          (some .data, some 503), (some (.rcpt "b@example.org"), some 250),
          (some .data, some 354), (none, none), (none, none), (none, none)] := by
  intro input s stamps
  have submitted : ((s.lines stamps (heard input .closed).dropLast).1.submission? stamps
      [46, 13, 10]).map (fun m => (m.sender, m.recipients)) =
        some ("a@example.com", ["b@example.org"]) := by
    decide +kernel
  obtain ⟨m, submits, facts⟩ := Option.map_eq_some_iff.1 submitted
  obtain ⟨sender, recipients⟩ := Prod.mk.inj facts
  exact ⟨_, _, m, by decide +kernel, submits, sender, recipients, by decide +kernel⟩

end Session

end MailRelay
