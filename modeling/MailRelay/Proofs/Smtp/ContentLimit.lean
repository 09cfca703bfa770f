import MailRelay.Proofs.Smtp.Content

set_option autoImplicit false

namespace MailRelay

namespace Incoming

variable {limit : Nat} {i : Incoming}

theorem size_add (within : i.data.size ≤ limit) (line : Bytes) :
    (i.add limit line).data.size ≤ limit := by
  unfold add
  dsimp only
  split
  · exact within
  · next fits =>
    split
    · exact within
    · rw [← Array.length_toList, Array.toList_appendList, List.length_append, Array.length_toList]
      exact Nat.le_of_not_lt fits

theorem size_foldl_add (within : i.data.size ≤ limit) (ls : List Bytes) :
    (ls.foldl (add limit) i).data.size ≤ limit := by
  induction ls generalizing i with
  | nil => exact within
  | cons line ls ih => exact ih (size_add within line)

end Incoming

namespace Session

section

variable [ForeignDecoders] {stamps : Stamps}

def tooLarge : Reply := reply 552 "5.3.4 Message size exceeds fixed maximum message size"

theorem code_submit (r : Reception) (sender : String) (recipients : List String)
    (data : Array UInt8) :
    (submit stamps r sender recipients ⟨data, false⟩).2.code ≠ 552 := by
  unfold submit
  simp only [Bool.false_eq_true, if_false]
  split
  · simp [reply]
  · split
    · simp [reply]
    · next e _ =>
      cases e with
      | invalid e => simp [refusal, reply]
      | queue e => cases e <;> simp [refusal, reply]

theorem submit_oversized {received : Incoming} (full : received.oversized = true) (r : Reception)
    (sender : String) (recipients : List String) :
    submit stamps r sender recipients received = (r, tooLarge) := by
  rw [submit, if_pos full]
  rfl

/-- Content up to the limit is kept whole, with no line left out; longer content is refused, and
nothing is queued. What is held never exceeds the limit. -/
theorem content_is_kept_up_to_the_limit {s : Session} {sender : String} {recipients : List String}
    (stage : s.stage = .content sender recipients .empty) {body : List Bytes}
    (inside : ∀ line ∈ body, Payload.isEnd line = false) {raw : Bytes}
    (ends : Payload.isEnd raw = true) (rest : List Bytes) :
    let limit := s.reception.limits.maxMessageSize
    let content := body.flatMap Payload.unstuff
    (∀ front, front <+: body → ∃ received, received.data.size ≤ limit ∧
      (s.lines stamps front).1 = { s with stage := .content sender recipients received }) ∧
    ∃ received reception answer,
      (s.lines stamps body).1 = { s with stage := .content sender recipients received } ∧
      submit stamps s.reception sender recipients received = (reception, answer) ∧
      (s.lines stamps (body ++ raw :: rest) =
        let (last, events) := lines stamps ⟨s.host, .greeted, reception⟩ rest
        (last, (body.map fun _ => ⟨none, []⟩) ++ ⟨none, [answer]⟩ :: events)) ∧
      (answer.code = 552 ↔ limit < content.length) ∧
      (limit < content.length → answer = tooLarge ∧ reception = s.reception) ∧
      (content.length ≤ limit → received = ⟨content.toArray, false⟩) := by
  intro limit content
  obtain ⟨host, _, r⟩ := s
  obtain rfl := stage
  constructor
  · intro front first
    refine ⟨_, Incoming.size_foldl_add (i := .empty) (Nat.zero_le limit) front, ?_⟩
    rw [lines_gathered fun line member => inside line (first.subset member)]
  generalize kept : body.foldl (Incoming.add limit) .empty = received
  have outcome : content.length ≤ limit ∧ received = ⟨content.toArray, false⟩ ∨
      limit < content.length ∧ received.oversized = true := by
    rw [← kept]
    exact Incoming.foldl_add (i := .empty) body rfl (Nat.zero_le limit)
  refine ⟨received, (submit stamps r sender recipients received).1,
    (submit stamps r sender recipients received).2, ?_, rfl, ?_, ?_⟩
  · rw [lines_gathered inside, kept]
  · rw [lines_ended inside ends rest, kept]
  rcases outcome with ⟨within, rfl⟩ | ⟨beyond, full⟩
  · exact ⟨iff_of_false (code_submit r sender recipients _) (Nat.not_lt_of_le within),
      fun beyond => absurd within (Nat.not_le_of_lt beyond), fun _ => rfl⟩
  · rw [submit_oversized full]
    exact ⟨iff_of_true rfl beyond, fun _ => ⟨rfl, rfl⟩,
      fun within => absurd within (Nat.not_le_of_lt beyond)⟩

end

-- The second line does not fit. The third one would, but is not taken for the whole content.
open AsciiOnly in
theorem long_line_is_not_left_out :
    let s : Session := ⟨"h", .content "a@example.com" ["b@example.org"] .empty,
      .new ⟨100, 8⟩ (.new 1 .zero)⟩
    let stamps : Stamps := fun _ => ⟨"m", .min, .min⟩
    let body : List Bytes := [[46, 46, 97, 13, 10], List.replicate 10 48 ++ [13, 10], [98, 13, 10]]
    (∀ line ∈ body, Payload.isEnd line = false) ∧ Payload.isEnd [46, 10] = true ∧
      (body.flatMap Payload.unstuff).length = 19 ∧
      s.lines stamps (body ++ [[46, 10]]) =
        (s.greet, [⟨none, []⟩, ⟨none, []⟩, ⟨none, []⟩, ⟨none, [tooLarge]⟩]) := by
  intro s stamps body
  have inside : ∀ line ∈ body, Payload.isEnd line = false := by decide
  have size : (body.flatMap Payload.unstuff).length = 19 := by decide
  have ends : Payload.isEnd [46, 10] = true := by decide
  refine ⟨inside, ends, size, ?_⟩
  obtain ⟨-, received, r, answer, -, -, whole, -, refused, -⟩ :=
    @content_is_kept_up_to_the_limit _ stamps s _ _ rfl body inside [46, 10] ends []
  obtain ⟨rfl, rfl⟩ := refused (by rw [size]; decide)
  exact whole

end Session

end MailRelay
