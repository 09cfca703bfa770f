import MailRelay.Proofs.Message.Validation
import MailRelay.Proofs.Mime.Growth
import MailRelay.Proofs.Smtp.ContentLimit
import MailRelay.Proofs.Smtp.Gathering
import MailRelay.Proofs.Smtp.Ingest

set_option autoImplicit false

namespace MailRelay

namespace Ingest

variable [ForeignDecoders]

namespace Content

def size (c : Content) : Nat :=
  c.body.utf8ByteSize + (c.html.map String.utf8ByteSize).getD 0
    + c.attachments.foldr (fun a n => a.data.length + n) 0

omit [ForeignDecoders] in
theorem foldr_length (as : List Attachment) (a : Attachment) :
    (as ++ [a]).foldr (fun a n => a.data.length + n) 0 =
      as.foldr (fun a n => a.data.length + n) 0 + a.data.length := by
  induction as with
  | nil => exact Nat.add_comm ..
  | cons first as ih => rw [List.cons_append, List.foldr_cons, ih, List.foldr_cons, Nat.add_assoc]

theorem size_add {c c' : Content} {l : Leaf} {n : Nat} (gives : l.Gives n)
    (added : c.add l = .ok c') : c'.size ≤ c.size + n := by
  have step := c.adds l
  rw [added] at step
  cases step with
  | @attachment filename data named read =>
    have short := gives.data data read
    simp only [size, foldr_length]
    omega
  | @html s html free read =>
    have short := gives.text (by simp_all [Leaf.isHtml, Leaf.isText]) s read
    simp only [size, free, Option.map_some, Option.map_none, Option.getD_some, Option.getD_none]
    omega
  | @body s plain free read =>
    have short := gives.text (by simp_all [Leaf.isPlain, Leaf.isText]) s read
    simp only [size]
    omega
  | passed => exact Nat.le_add_right ..

end Content

theorem size_foldlM {ls : List Leaf} {c c' : Content} {k : Nat}
    (gives : ∀ l ∈ ls, l.Gives (k * l.content.length)) (done : ls.foldlM Content.add c = .ok c') :
    c'.size ≤ c.size + k * Part.contentLength ls := by
  induction ls generalizing c with
  | nil =>
    cases done
    exact Nat.le_add_right ..
  | cons l ls ih =>
    obtain ⟨first, others⟩ := List.forall_mem_cons.1 gives
    rw [List.foldlM_cons] at done
    cases added : c.add l with
    | error e =>
      rw [added] at done
      cases done
    | ok next =>
      rw [added] at done
      have front := Content.size_add first added
      have back := ih others done
      simp only [Part.contentLength, List.map_cons, List.sum_cons, Nat.mul_add] at back ⊢
      omega

end Ingest

namespace Message

theorem size_ofMail [ForeignDecoders] {id sender : String} {recipients : List String}
    {raw : Bytes} {now : Instant} {m : Message} (made : ofMail id sender recipients raw now = .ok m)
    {header : Header} {part : Part}
    (read : Part.read false raw = .ok (header, part)) {k : Nat}
    (gives : ∀ l ∈ part.leaves, l.Gives (k * l.content.length)) : m.size ≤ k * raw.length := by
  obtain ⟨_, _, content, again, gathered, rfl⟩ := ofMail_eq_ok made
  cases read.symm.trans again
  rw [Ingest.collect_eq] at gathered
  have whole := Ingest.size_foldlM gives gathered
  have short := Nat.mul_le_mul_left k (Part.contentLength_leaves false raw read)
  have same : (ofParts id sender recipients header content now).size = content.size := rfl
  have empty : (⟨"", none, []⟩ : Ingest.Content).size = 0 := rfl
  omega

end Message

namespace Session

section

variable [ForeignDecoders] {stamps : Stamps}

/-- Content within the limit is taken in, and the message that is made of it is refused for its size
only if one of its parts has grown. -/
theorem content_within_the_limit_is_not_too_large {s : Session} {sender : String}
    {recipients : List String} (stage : s.stage = .content sender recipients .empty)
    {body : List Bytes} (inside : ∀ line ∈ body, Payload.isEnd line = false) {raw : Bytes}
    (ends : Payload.isEnd raw = true)
    (fits : (body.flatMap Payload.unstuff).length ≤ s.reception.limits.maxMessageSize) :
    let payload := body.flatMap Payload.unstuff
    let after := (s.lines stamps body).1
    (∀ r ∈ (after.line stamps raw).2.replies, r.code ≠ 552) ∧
      ∀ m, after.submission? stamps raw = some m →
        ∃ header part, Part.read false payload = .ok (header, part) ∧
          m.size ≤ 6 * payload.length ∧
          ((∀ l ∈ part.leaves, l.IsModerate) → m.size ≤ 3 * payload.length) ∧
          ((∀ l ∈ part.leaves, l.IsSteady) → m.size ≤ payload.length) ∧
          ∀ size max, m.validate s.reception.limits = .error (.messageTooLarge size max) →
            max < 6 * payload.length ∧
              ((∀ l ∈ part.leaves, l.IsModerate) → max < 3 * payload.length) ∧
              ∃ l ∈ part.leaves, ¬ l.IsSteady := by
  intro payload after
  obtain ⟨host, _, r⟩ := s
  obtain rfl := stage
  have taken : body.foldl (Incoming.add r.limits.maxMessageSize) .empty =
      ⟨payload.toArray, false⟩ := by
    rcases Incoming.foldl_add (i := .empty) body rfl (Nat.zero_le r.limits.maxMessageSize) with
      ⟨-, all⟩ | ⟨large, -⟩
    · exact all
    · exact absurd fits (Nat.not_le_of_lt large)
  have there : after = ⟨host, .content sender recipients ⟨payload.toArray, false⟩, r⟩ := by
    simp only [after, lines_gathered inside, taken]
  rw [there]
  constructor
  · simp only [line, ends, if_true, List.forall_mem_singleton]
    exact code_submit r sender recipients _
  · intro m submits
    obtain ⟨_, _, received, stage, -, -, made⟩ := content_of_submission submits
    cases stage
    obtain ⟨header, part, -, read, -⟩ := Message.ofMail_eq_ok made
    have sixfold := Message.size_ofMail made read fun l _ => l.gives_sixfold
    have thrice (moderate : ∀ l ∈ part.leaves, l.IsModerate) : m.size ≤ 3 * payload.length :=
      Message.size_ofMail made read fun l member => (moderate l member).gives
    have once (steady : ∀ l ∈ part.leaves, l.IsSteady) : m.size ≤ payload.length := by
      have size := Message.size_ofMail made read (k := 1) fun l member => by
        simpa using (steady l member).gives
      simpa using size
    refine ⟨header, part, read, sixfold, thrice, once, fun size max refused => ?_⟩
    obtain ⟨rfl, large⟩ := Message.validate_messageTooLarge refused
    refine ⟨Nat.lt_of_lt_of_le large sixfold,
      fun moderate => Nat.lt_of_lt_of_le large (thrice moderate), ?_⟩
    by_contra! steady
    exact absurd (Nat.le_trans (once steady) fits) (Nat.not_le_of_lt large)

end

-- Accents of another character set: each becomes a replacement character, which takes three bytes.
def accentedLines : List Bytes :=
  [Utf8.ofString "Subject: s\r\n", Utf8.ofString "Content-Type: text/plain; charset=utf-8\r\n",
    [13, 10], List.replicate 40 0xE9 ++ [13, 10]]

open AsciiOnly in
theorem accented_mail_has_grown :
    let s : Session := ⟨"h", .content "a@example.com" ["b@example.org"] .empty,
      .new ⟨100, 97⟩ (.new 1 .zero)⟩
    let stamps : Stamps := fun _ => ⟨"m", .min, .min⟩
    (∀ line ∈ accentedLines, Payload.isEnd line = false) ∧
      (accentedLines.flatMap Payload.unstuff).length ≤ s.reception.limits.maxMessageSize ∧
      ∃ m, (s.lines stamps accentedLines).1.submission? stamps [46, 13, 10] = some m ∧
        m.validate s.reception.limits = .error (.messageTooLarge 122 97) ∧
        ∃ header part, Part.read false (accentedLines.flatMap Payload.unstuff) = .ok (header, part) ∧
          ∃ l ∈ part.leaves, ¬ l.IsSteady := by
  intro s stamps
  have inside : ∀ line ∈ accentedLines, Payload.isEnd line = false := by decide +kernel
  have fits : (accentedLines.flatMap Payload.unstuff).length ≤ s.reception.limits.maxMessageSize := by
    decide +kernel
  have submitted : ((s.lines stamps accentedLines).1.submission? stamps [46, 13, 10]).map
      (fun m => m.validate s.reception.limits) = some (.error (.messageTooLarge 122 97)) := by
    decide +kernel
  obtain ⟨m, submits, refused⟩ := Option.map_eq_some_iff.1 submitted
  have stage : s.stage = .content "a@example.com" ["b@example.org"] .empty := rfl
  obtain ⟨header, part, read, -, -, -, grown⟩ :=
    (content_within_the_limit_is_not_too_large stage inside rfl fits).2 m submits
  exact ⟨inside, fits, m, submits, refused, header, part, read, (grown 122 97 refused).2.2⟩

open AsciiOnly in
theorem accented_mail_is_refused_for_its_size :
    let input := Utf8.ofString
      "EHLO a\r\nMAIL FROM:<a@example.com>\r\nRCPT TO:<b@example.org>\r\nDATA\r\n" ++
        accentedLines.flatten ++ [46, 13, 10]
    let limits : Limits := ⟨100, 97⟩
    let s := new "h" (.new limits (.new 1 .zero))
    let stamps : Stamps := fun _ => ⟨"m", .min, .min⟩
    (accentedLines.flatMap Payload.unstuff).length = limits.maxMessageSize ∧
      ∃ before m, heard input .closed = before ++ [[46, 13, 10]] ∧
        (s.lines stamps before).1.submission? stamps [46, 13, 10] = some m ∧
        m.size = 122 ∧ m.validate limits = .error (.messageTooLarge 122 97) := by
  intro input limits s stamps
  have split : heard input .closed = (heard input .closed).dropLast ++ [[46, 13, 10]] := by
    decide +kernel
  have submitted : ((s.lines stamps (heard input .closed).dropLast).1.submission? stamps
      [46, 13, 10]).map (fun m => (m.size, m.validate limits)) =
        some (122, .error (.messageTooLarge 122 97)) := by
    decide +kernel
  obtain ⟨m, submits, facts⟩ := Option.map_eq_some_iff.1 submitted
  obtain ⟨size, refused⟩ := Prod.mk.inj facts
  exact ⟨by decide +kernel, _, m, split, submits, size, refused⟩

end Session

end MailRelay
