import MailRelay.Proofs.Queue.Reception
import MailRelay.Smtp.Session
import Mathlib.Data.List.Induction

set_option autoImplicit false

namespace MailRelay

def SessionStage.awaitsCommand : SessionStage → Bool
  | connected | greeted | addressed .. => true
  | content .. | closed => false

namespace Session

def heard (input : Bytes) (ending : InputEnd) : List Bytes :=
  let (ls, tail) := split input
  if tail.isEmpty || ending == .silent then ls else ls ++ [tail]

theorem split_cons {b : UInt8} (other : b ≠ 10) (input : Bytes) :
    split (b :: input) =
      match split input with
      | ([], tail) => ([], b :: tail)
      | (line :: ls, tail) => ((b :: line) :: ls, tail) := by
  have first : split (b :: input) = addByte b (split input) := rfl
  rw [first]
  generalize split input = later
  obtain ⟨ls, tail⟩ := later
  cases ls <;> simp [addByte, lineFeed, other]

theorem split_line {raw : Bytes} (single : 10 ∉ raw) (rest : Bytes) :
    split (raw ++ 10 :: rest) = ((raw ++ [10]) :: (split rest).1, (split rest).2) := by
  induction raw with
  | nil => rfl
  | cons b raw ih =>
    rw [List.mem_cons, not_or] at single
    rw [List.cons_append, split_cons (Ne.symm single.1), ih single.2]
    rfl

theorem heard_line {raw : Bytes} (single : 10 ∉ raw) (rest : Bytes) (ending : InputEnd) :
    heard (raw ++ 10 :: rest) ending = (raw ++ [10]) :: heard rest ending := by
  simp only [heard, split_line single]
  split <;> rfl

variable [ForeignDecoders] {stamps : Stamps} {s : Session}

theorem serve_eq (stamps : Stamps) (s : Session) (input : Bytes) (ending : InputEnd) :
    s.serve stamps input ending =
      ((s.lines stamps (heard input ending)).1,
        ⟨none, [s.welcome]⟩ :: (s.lines stamps (heard input ending)).2 ++
          [⟨none, (s.lines stamps (heard input ending)).1.close ending⟩]) := rfl

theorem lines_snoc (stamps : Stamps) (s : Session) (input : List Bytes) (raw : Bytes) :
    s.lines stamps (input ++ [raw]) =
      (((s.lines stamps input).1.line stamps raw).1,
        (s.lines stamps input).2 ++ [((s.lines stamps input).1.line stamps raw).2]) := by
  simp [lines, take, List.foldl_append]

theorem lines_append (stamps : Stamps) (s : Session) (first second : List Bytes) :
    s.lines stamps (first ++ second) =
      (((s.lines stamps first).1.lines stamps second).1,
        (s.lines stamps first).2 ++ ((s.lines stamps first).1.lines stamps second).2) := by
  induction second using List.reverseRecOn with
  | nil => simp [lines]
  | append_singleton second raw ih =>
    rw [← List.append_assoc, lines_snoc, lines_snoc, ih, List.append_assoc]

-- The events of a session around one of its lines.
theorem events_serve (stamps : Stamps) (s : Session) {before after : List Bytes} {raw : Bytes}
    {input : Bytes} {ending : InputEnd} (split : heard input ending = before ++ raw :: after) :
    ∃ later, (s.serve stamps input ending).2 =
      ⟨none, [s.welcome]⟩ :: (s.lines stamps before).2 ++
        ((s.lines stamps before).1.line stamps raw).2 :: later := by
  rw [serve_eq, split, List.append_cons, lines_append, lines_snoc]
  simp

theorem lines_induction {P : List Bytes → Session → List SessionEvent → Prop} (none : P [] s [])
    (next : ∀ {input s events} raw, P input s events →
      P (input ++ [raw]) (s.line stamps raw).1 (events ++ [(s.line stamps raw).2]))
    (input : List Bytes) : P input (s.lines stamps input).1 (s.lines stamps input).2 := by
  induction input using List.reverseRecOn with
  | nil => exact none
  | append_singleton input raw ih =>
    rw [lines_snoc]
    exact next raw ih

inductive Taken (stamps : Stamps) (raw : Bytes) : Session → Session × SessionEvent → Prop where
  | finished (host : String) (r : Reception) :
    Taken stamps raw ⟨host, .closed, r⟩ (⟨host, .closed, r⟩, ⟨none, []⟩)
  | gathered (host sender : String) (recipients : List String) (received : Incoming)
      (r : Reception) (inside : Payload.isEnd raw = false) :
    Taken stamps raw ⟨host, .content sender recipients received, r⟩
      (⟨host, .content sender recipients (received.add r.limits.maxMessageSize raw), r⟩, ⟨none, []⟩)
  | ended (host sender : String) (recipients : List String) (received : Incoming) (r : Reception)
      (ends : Payload.isEnd raw = true) :
    Taken stamps raw ⟨host, .content sender recipients received, r⟩
      (⟨host, .greeted, (submit stamps r sender recipients received).1⟩,
        ⟨none, [(submit stamps r sender recipients received).2]⟩)
  | tooLong (s : Session) (awaits : s.stage.awaitsCommand = true) :
    Taken stamps raw s (s, ⟨none, [reply 500 "5.5.6 Line too long"]⟩)
  | obeyed (s : Session) (c : Command) (awaits : s.stage.awaitsCommand = true) :
    Taken stamps raw s ((s.command c).1, ⟨some c, [(s.command c).2]⟩)

theorem line_awaiting (stamps : Stamps) {s : Session} (awaits : s.stage.awaitsCommand = true)
    (raw : Bytes) :
    s.line stamps raw =
      if maxCommandLine < raw.length then (s, ⟨none, [reply 500 "5.5.6 Line too long"]⟩)
      else
        let c := Command.read (Utf8.decodeLossy raw)
        ((s.command c).1, ⟨some c, [(s.command c).2]⟩) := by
  rw [line]
  · rintro host r rfl
    cases awaits
  · rintro host sender recipients received r rfl
    cases awaits

theorem taken_line (stamps : Stamps) (s : Session) (raw : Bytes) :
    Taken stamps raw s (s.line stamps raw) := by
  cases awaits : s.stage.awaitsCommand with
  | true =>
    rw [line_awaiting stamps awaits]
    split
    · exact .tooLong s awaits
    · exact .obeyed s _ awaits
  | false =>
    obtain ⟨host, stage, r⟩ := s
    cases stage with
    | closed => exact .finished host r
    | content sender recipients received =>
      rw [line]
      cases ends : Payload.isEnd raw with
      | true => exact .ended host sender recipients received r ends
      | false => exact .gathered host sender recipients received r ends
    | connected | greeted | addressed => cases awaits

omit [ForeignDecoders] in
theorem reception_command (s : Session) (c : Command) :
    (s.command c).1.reception = s.reception := by
  cases c with
  | mail sender =>
    unfold command mail
    dsimp only
    split <;> rfl
  | rcpt recipient =>
    rw [command, rcpt]
    split
    · split <;> rfl
    · rfl
  | data =>
    rw [command, data]
    split <;> rfl
  | rset =>
    rw [command, rset]
    split <;> rfl
  | _ => rfl

theorem limits_line (stamps : Stamps) (s : Session) (raw : Bytes) :
    (s.line stamps raw).1.reception.limits = s.reception.limits := by
  have taken := s.taken_line stamps raw
  generalize s.line stamps raw = result at taken ⊢
  cases taken with
  | finished | gathered | tooLong => rfl
  | obeyed _ c awaits => rw [reception_command]
  | ended host sender recipients received r ends =>
    unfold submit
    split
    · rfl
    · dsimp only [Reception.stamp]
      split
      · rfl
      · next m made =>
        have limits := Reception.limits_submit { r with stamped := r.stamped + 1 } m
          (stamps r.stamped).queuedAt
        split <;> next answered => simpa [answered] using limits

def submission? (stamps : Stamps) (s : Session) (raw : Bytes) : Option Message :=
  match s.stage with
  | .content sender recipients received =>
    if Payload.isEnd raw && !received.oversized then
      let stamp := stamps s.reception.stamped
      match Message.ofMail stamp.id sender recipients received.data.toList stamp.createdAt with
      | .ok m => some m
      | .error _ => none
    else none
  | _ => none

theorem content_of_submission {raw : Bytes} {m : Message}
    (submits : s.submission? stamps raw = some m) :
    ∃ sender recipients received, s.stage = .content sender recipients received ∧
      Payload.isEnd raw = true ∧ received.oversized = false ∧
      Message.ofMail (stamps s.reception.stamped).id sender recipients received.data.toList
        (stamps s.reception.stamped).createdAt = .ok m := by
  obtain ⟨host, stage, r⟩ := s
  cases stage with
  | content sender recipients received =>
    dsimp only [submission?] at submits
    split at submits
    · next complete =>
      simp only [Bool.and_eq_true, Bool.not_eq_true'] at complete
      split at submits
      · next made =>
        cases submits
        exact ⟨sender, recipients, received, rfl, complete.1, complete.2, made⟩
      · cases submits
    · cases submits
  | _ => cases submits

theorem line_submission {raw : Bytes} {m : Message} (submits : s.submission? stamps raw = some m) :
    let answered := (s.reception.stamp stamps).1.submit m (stamps s.reception.stamped).queuedAt
    (s.line stamps raw).1.reception = answered.1 ∧
      (s.line stamps raw).2 = ⟨none, [match answered.2 with
        | .ok id => reply 250 ("2.0.0 Ok: queued as " ++ id)
        | .error e => refusal e]⟩ := by
  obtain ⟨sender, recipients, received, stage, ends, fits, made⟩ := content_of_submission submits
  obtain ⟨host, _, r⟩ := s
  obtain rfl := stage
  simp only [line, ends, if_true, submit, fits, Bool.false_eq_true, if_false, Reception.stamp, made]
  split <;> simp [*]

theorem line_silent {raw : Bytes} (silent : s.submission? stamps raw = none) :
    (s.line stamps raw).1.reception.spool = s.reception.spool ∧
      ((s.line stamps raw).2.command = none → ∀ r ∈ (s.line stamps raw).2.replies, r.code ≠ 250) := by
  have taken := s.taken_line stamps raw
  generalize s.line stamps raw = result at taken ⊢
  cases taken with
  | finished | gathered => exact ⟨rfl, fun _ => List.forall_mem_nil _⟩
  | tooLong => exact ⟨rfl, fun _ => by simp [reply]⟩
  | obeyed _ c awaits => exact ⟨by rw [reception_command], nofun⟩
  | ended host sender recipients received r ends =>
    dsimp only [submission?] at silent
    unfold submit
    split
    · exact ⟨rfl, fun _ => by simp [reply]⟩
    · next fits =>
      rw [if_pos (by simp [ends, fits])] at silent
      cases made : Message.ofMail (stamps r.stamped).id sender recipients received.data.toList
          (stamps r.stamped).createdAt with
      | error e => simp [Reception.stamp, made, reply]
      | ok m => simp [made] at silent

end Session

end MailRelay
