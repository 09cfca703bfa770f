import MailRelay.Proofs.Smtp.Echo
import MailRelay.Proofs.Smtp.Ingest

set_option autoImplicit false

namespace MailRelay

namespace Reply

/-- Read one after the other, the bytes are these replies and nothing else. -/
inductive Reads : List Reply → Bytes → Prop where
  | nothing : Reads [] []
  | reply {r : Reply} {later : List Reply} {bytes : Bytes} {size : Nat}
      (first : read bytes = .ok (some (r, size))) (rest : Reads later (bytes.drop size)) :
    Reads (r :: later) bytes

def written (replies : List Reply) : Bytes :=
  replies.flatMap fun r => Utf8.ofString r.write

variable {replies : List Reply}

end Reply

open Reply (FitsLine)

def SessionStage.recipients : SessionStage → List String
  | addressed _ recipients | content _ recipients _ => recipients
  | connected | greeted | closed => []

def SessionStage.due (stage : SessionStage) (raw : Bytes) : Nat :=
  match stage with
  | connected | greeted | addressed .. => 1
  | content .. => if Payload.isEnd raw then 1 else 0
  | closed => 0

namespace Session

/-- What a session may quote stays on one line. -/
structure Tidy (s : Session) : Prop where
  host : FitsLine s.host.toList
  recipients : ∀ recipient ∈ s.stage.recipients, FitsLine recipient.toList

variable {stamps : Stamps} {s : Session} {c : Command}

theorem proper_reply {code : Nat} {text : String} (three : 100 ≤ code ∧ code ≤ 999)
    (fits : FitsLine text.toList) : (reply code text).Proper :=
  ⟨three, List.cons_ne_nil _ _, by simpa [reply] using fits⟩

theorem Tidy.greet (tidy : s.Tidy) : s.greet.Tidy :=
  ⟨tidy.host, List.forall_mem_nil _⟩

theorem Tidy.proper_extensions (tidy : s.Tidy) : s.extensions.Proper := by
  refine ⟨show 100 ≤ 250 ∧ 250 ≤ 999 by decide, List.cons_ne_nil _ _, ?_⟩
  have size : FitsLine s!"SIZE {s.reception.limits.maxMessageSize}".toList :=
    Text.fitsLine_append (by decide) (Reply.fitsLine_toString _)
  simp only [Session.extensions, List.forall_mem_cons]
  exact ⟨tidy.host, size, by decide, by decide, List.forall_mem_nil _⟩

theorem Tidy.mail (tidy : s.Tidy) (sender : Option String) :
    (s.mail sender).1.Tidy ∧ (s.mail sender).2.Proper := by
  unfold Session.mail
  split
  · exact ⟨⟨tidy.host, List.forall_mem_nil _⟩, proper_reply (by decide) (by decide)⟩
  · exact ⟨tidy, proper_reply (by decide) (by decide)⟩
  · exact ⟨tidy, proper_reply (by decide) (by decide)⟩

theorem Tidy.rcpt (tidy : s.Tidy) {recipient : String} (fits : FitsLine recipient.toList) :
    (s.rcpt recipient).1.Tidy ∧ (s.rcpt recipient).2.Proper := by
  unfold Session.rcpt
  split
  · next sender recipients stage =>
    split
    · exact ⟨tidy, proper_reply (by decide) (by decide)⟩
    · refine ⟨⟨tidy.host, List.forall_mem_append.2 ⟨?_, by simpa using fits⟩⟩,
        proper_reply (by decide) (by decide)⟩
      simpa [stage, SessionStage.recipients] using tidy.recipients
  · exact ⟨tidy, proper_reply (by decide) (by decide)⟩

theorem Tidy.data (tidy : s.Tidy) : s.data.1.Tidy ∧ s.data.2.Proper := by
  unfold Session.data
  split
  · next sender first rest stage =>
    refine ⟨⟨tidy.host, ?_⟩, proper_reply (by decide) (by decide)⟩
    simpa [stage, SessionStage.recipients] using tidy.recipients
  · exact ⟨tidy, proper_reply (by decide) (by decide)⟩

theorem Tidy.rset (tidy : s.Tidy) : s.rset.1.Tidy ∧ s.rset.2.Proper := by
  unfold Session.rset
  split
  · exact ⟨tidy, proper_reply (by decide) (by decide)⟩
  · exact ⟨tidy.greet, proper_reply (by decide) (by decide)⟩

theorem Tidy.command (tidy : s.Tidy) (fits : c.Fits) :
    (s.command c).1.Tidy ∧ (s.command c).2.Proper := by
  cases c with
  | helo host => exact ⟨tidy.greet, proper_reply (by decide) tidy.host⟩
  | ehlo host => exact ⟨tidy.greet, tidy.proper_extensions⟩
  | mail sender => exact tidy.mail sender
  | rcpt recipient => exact tidy.rcpt (fits recipient rfl)
  | data => exact tidy.data
  | rset => exact tidy.rset
  | noop => exact ⟨tidy, proper_reply (by decide) (by decide)⟩
  | vrfy => exact ⟨tidy, proper_reply (by decide) (by decide)⟩
  | quit => exact ⟨⟨tidy.host, List.forall_mem_nil _⟩, proper_reply (by decide) (by decide)⟩
  | invalid reason =>
    exact ⟨tidy, proper_reply (by decide) (Text.fitsLine_append (by decide) (fits reason rfl))⟩

theorem proper_refusal {e : SubmitError}
    (fits : ∀ invalid, e = .invalid invalid → FitsLine invalid.message.toList) :
    (refusal e).Proper := by
  cases e with
  | queue e => cases e <;> exact proper_reply (by decide) (by decide)
  | invalid e =>
    exact proper_reply (by decide) (Text.fitsLine_append (by decide) (fits e rfl))

section

variable [ForeignDecoders]

theorem proper_submit (r : Reception) (sender : String) (recipients : List String)
    (received : Incoming) (identifier : FitsLine (stamps r.stamped).id.toList)
    (fits : ∀ recipient ∈ recipients, FitsLine recipient.toList) :
    (submit stamps r sender recipients received).2.Proper := by
  unfold submit
  split
  · exact proper_reply (by decide) (by decide)
  dsimp only [Reception.stamp]
  split
  · exact proper_reply (by decide) (by decide)
  next m made =>
  obtain ⟨same, -, perm, -⟩ := Message.ofMail_ok made
  split
  · next id accepted =>
    rcases Reception.submit_cases _ m _ with ⟨spool, -, answered⟩ | ⟨e, answered⟩
    · rw [answered] at accepted
      cases accepted
      exact proper_reply (by decide) (Text.fitsLine_append (by decide) (same ▸ identifier))
    · rw [answered] at accepted
      cases accepted
  · next e refused =>
    refine proper_refusal ?_
    rintro invalid rfl
    have clean := fun recipient member => fits recipient (perm.subset member)
    exact Message.validate_fits clean (Reception.submit_error (congrArg Prod.snd refused))

theorem Tidy.line (tidy : s.Tidy) {raw : Bytes}
    (identifiers : ∀ n, FitsLine (stamps n).id.toList)
    (fits : (Command.read (Utf8.decodeLossy raw)).Fits) :
    (s.line stamps raw).1.Tidy ∧ ∀ r ∈ (s.line stamps raw).2.replies, r.Proper := by
  cases awaits : s.stage.awaitsCommand with
  | true =>
    rw [line_awaiting stamps awaits]
    split
    · exact ⟨tidy, by simpa using proper_reply (by decide) (by decide)⟩
    · obtain ⟨kept, answered⟩ := tidy.command fits
      dsimp only
      exact ⟨kept, by simpa using answered⟩
  | false =>
    have taken := s.taken_line stamps raw
    generalize s.line stamps raw = result at taken ⊢
    cases taken with
    | finished | gathered => exact ⟨⟨tidy.host, tidy.recipients⟩, List.forall_mem_nil _⟩
    | ended host sender recipients received r ends =>
      refine ⟨⟨tidy.host, List.forall_mem_nil _⟩, ?_⟩
      simpa using proper_submit r sender recipients received (identifiers r.stamped) tidy.recipients
    | tooLong _ does | obeyed _ c does => cases awaits.symm.trans does

theorem lines_cons (stamps : Stamps) (s : Session) (raw : Bytes) (rest : List Bytes) :
    s.lines stamps (raw :: rest) =
      (((s.line stamps raw).1.lines stamps rest).1,
        (s.line stamps raw).2 :: ((s.line stamps raw).1.lines stamps rest).2) :=
  lines_append stamps s [raw] rest

theorem Tidy.lines (tidy : s.Tidy) (identifiers : ∀ n, FitsLine (stamps n).id.toList)
    {input : List Bytes} (fits : ∀ raw ∈ input, (Command.read (Utf8.decodeLossy raw)).Fits) :
    ∀ e ∈ (s.lines stamps input).2, ∀ r ∈ e.replies, r.Proper := by
  induction input generalizing s with
  | nil => exact List.forall_mem_nil _
  | cons raw rest ih =>
    obtain ⟨first, others⟩ := List.forall_mem_cons.1 fits
    obtain ⟨kept, proper⟩ := tidy.line identifiers first
    rw [lines_cons]
    exact List.forall_mem_cons.2 ⟨proper, ih kept others⟩

end

end Session

end MailRelay
