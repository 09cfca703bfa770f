import MailRelay.Proofs.Smtp.Session
import Mathlib.Data.List.Infix

set_option autoImplicit false

namespace MailRelay

def SessionEvent.queuedMark : List Char := "2.0.0 Ok: queued as ".toList

def SessionEvent.reported? (e : SessionEvent) : Option String :=
  match e.command, e.replies with
  | none, [⟨250, [text]⟩] => (Text.dropFront? queuedMark text.toList).map String.ofList
  | _, _ => none

namespace Session

theorem reported?_queued (id : String) :
    SessionEvent.reported? ⟨none, [reply 250 ("2.0.0 Ok: queued as " ++ id)]⟩ = some id := by
  have front (rest : List Char) :
      Text.dropFront? SessionEvent.queuedMark (SessionEvent.queuedMark ++ rest) = some rest := by
    simp [Text.dropFront?]
  have text : ("2.0.0 Ok: queued as " ++ id).toList = SessionEvent.queuedMark ++ id.toList :=
    String.toList_append ..
  simp only [SessionEvent.reported?, reply, text, front, Option.map_some, String.ofList_toList]

theorem reported?_of_code {e : SessionEvent}
    (other : e.command = none → ∀ r ∈ e.replies, r.code ≠ 250) : e.reported? = none := by
  unfold SessionEvent.reported?
  split
  · next text command replies =>
    rw [replies] at other
    exact absurd rfl (other command _ List.mem_cons_self)
  · rfl

theorem code_refusal (e : SubmitError) : (refusal e).code ≠ 250 := by
  cases e with
  | invalid e => simp [refusal, reply]
  | queue e => cases e <;> simp [refusal, reply]

-- The lines of an input are the input, but for what follows the last of them.
theorem split_flatten (input : Bytes) : (split input).1.flatten ++ (split input).2 = input := by
  induction input with
  | nil => rfl
  | cons b rest ih =>
    have first : split (b :: rest) = addByte b (split rest) := rfl
    rw [first]
    generalize split rest = later at ih ⊢
    obtain ⟨ls, tail⟩ := later
    by_cases ends : b == lineFeed
    · simpa [addByte, ends] using ih
    · cases ls <;> simpa [addByte, ends] using ih

theorem heard_prefix (input : Bytes) (ending : InputEnd) :
    (heard input ending).flatten <+: input := by
  have whole := split_flatten input
  simp only [heard]
  split
  · exact ⟨_, whole⟩
  · rw [List.flatten_append, List.flatten_singleton, whole]

variable [ForeignDecoders] (stamps : Stamps)

theorem line_gains (s : Session) (raw : Bytes) :
    s.reception.spool.Gains (s.line stamps raw).2.reported?.toList
      (s.line stamps raw).1.reception.spool := by
  cases submits : s.submission? stamps raw with
  | none =>
    obtain ⟨same, other⟩ := line_silent submits
    rw [same, reported?_of_code other]
    exact .nothing _
  | some m =>
    have gains := (s.reception.stamp stamps).1.submit_gains m (stamps s.reception.stamped).queuedAt
    obtain ⟨reception, event⟩ := line_submission submits
    rw [reception, event]
    cases answered : ((s.reception.stamp stamps).1.submit m
        (stamps s.reception.stamped).queuedAt).2 with
    | ok id =>
      rw [answered] at gains
      dsimp only
      rw [reported?_queued]
      exact gains
    | error e =>
      rw [answered] at gains
      dsimp only
      have refused : SessionEvent.reported? ⟨none, [refusal e]⟩ = none :=
        reported?_of_code fun _ => by simpa using code_refusal e
      rw [refused]
      exact gains

theorem lines_gain (s : Session) (input : List Bytes) :
    s.reception.spool.Gains ((s.lines stamps input).2.filterMap (·.reported?))
      (s.lines stamps input).1.reception.spool := by
  refine lines_induction (s := s) (P := fun _ s' events =>
    s.reception.spool.Gains (events.filterMap (·.reported?)) s'.reception.spool)
    (.nothing _) (fun {_ s' events} raw gains => ?_) input
  have more := gains.append (line_gains stamps s' raw)
  rw [List.filterMap_append]
  cases reported : (s'.line stamps raw).2.reported? <;> simpa [reported] using more

theorem serve_gains (s : Session) (input : Bytes) (ending : InputEnd) :
    s.reception.spool.Gains ((s.serve stamps input ending).2.filterMap (·.reported?))
      (s.serve stamps input ending).1.reception.spool := by
  have gains := lines_gain stamps s (heard input ending)
  have welcomed : SessionEvent.reported? ⟨none, [s.welcome]⟩ = none := rfl
  have closed (s : Session) : SessionEvent.reported? ⟨none, s.close ending⟩ = none := by
    unfold close
    split
    · rfl
    · split <;> rfl
  rw [serve_eq]
  simpa [welcomed, closed] using gains

-- What puts something into the queue is the line with a single dot, and all of it has come in.
theorem complete_of_gain {s : Session} {input : Bytes} {ending : InputEnd} {before after : List Bytes}
    {raw : Bytes} (split : heard input ending = before ++ raw :: after)
    (gains : ((s.lines stamps before).1.line stamps raw).1.reception.spool ≠
      (s.lines stamps before).1.reception.spool) :
    (raw = [Payload.dot, 13, 10] ∨ raw = [Payload.dot, 10]) ∧ before.flatten ++ raw <+: input := by
  constructor
  · cases submits : (s.lines stamps before).1.submission? stamps raw with
    | none => exact absurd (line_silent submits).1 gains
    | some m =>
      obtain ⟨_, _, _, -, ends, -⟩ := content_of_submission submits
      simpa [Payload.isEnd] using ends
  · have whole := heard_prefix input ending
    rw [split, List.append_cons, List.flatten_append] at whole
    exact (List.prefix_append ..).trans (by simpa using whole)

end Session

end MailRelay
