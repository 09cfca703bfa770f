import MailRelay.Delivery.Attempt
import MailRelay.Message.Validation
import MailRelay.Proofs.Delivery.Consent

set_option autoImplicit false

namespace MailRelay

def PayloadAccepted (es : List DialogueEvent) : Prop :=
  ∃ content r, r.isSuccess = true ∧ [.payload content, .reply r] <:+: es

namespace PayloadAccepted

variable {before es later : List DialogueEvent}

theorem append (accepted : PayloadAccepted es) : PayloadAccepted (es ++ later) := by
  obtain ⟨content, r, success, inside⟩ := accepted
  exact ⟨content, r, success, inside.trans (List.prefix_append es later).isInfix⟩

theorem length (accepted : PayloadAccepted es) : 2 ≤ es.length := by
  obtain ⟨content, r, -, inside⟩ := accepted
  exact inside.length_le

theorem append_iff (quiet : ∀ e ∈ before, e.isPayload = false) :
    PayloadAccepted (before ++ es) ↔ PayloadAccepted es := by
  induction before with
  | nil => rfl
  | cons e rest ih =>
    have first := quiet e (List.mem_cons_self ..)
    rw [← ih fun other member => quiet other (List.mem_cons_of_mem _ member)]
    constructor
    · rintro ⟨content, r, success, inside⟩
      rcases List.infix_cons_iff.1 inside with front | inside
      · obtain ⟨rfl, -⟩ := List.cons_prefix_cons.1 front
        simp [DialogueEvent.isPayload] at first
      · exact ⟨content, r, success, inside⟩
    · rintro ⟨content, r, success, inside⟩
      exact ⟨content, r, success, List.infix_cons_iff.2 (.inr inside)⟩

theorem exchange_iff (content : String) (r : Reply) :
    PayloadAccepted [.payload content, .reply r] ↔ r.isSuccess = true := by
  constructor
  · rintro ⟨other, reply, success, inside⟩
    have same := inside.eq_of_length rfl
    simp only [List.cons.injEq, DialogueEvent.reply.injEq] at same
    rw [← same.2.1]
    exact success
  · intro success
    exact ⟨content, r, success, List.infix_rfl⟩

end PayloadAccepted

theorem not_isPayload_of_mem {es : List DialogueEvent} {sender : String}
    {recipients : List String}
    (named : ∀ e ∈ es.filter DialogueEvent.carriesMessage, e ∈ envelope sender recipients) :
    ∀ e ∈ es, e.isPayload = false := by
  intro e member
  cases payload : e.isPayload with
  | false => rfl
  | true =>
    have carried : e ∈ es.filter DialogueEvent.carriesMessage :=
      List.mem_filter.2 ⟨member, by simp [DialogueEvent.carriesMessage, payload]⟩
    rw [← payload, DialogueEvent.isPayload_of_isEnvelope (isEnvelope_of_mem (named e carried))]

namespace Transport

open Dialogue

theorem traces_payload (content : String) :
    Traces (do expect (← talk (Dialogue.payload content))) fun outcome es =>
      outcome = .ok () ↔ PayloadAccepted es := by
  have exchange : Traces (Dialogue.payload content) (Exchanged (.payload content)) :=
    traces_exchange _
  apply Traces.bind (exchange.adapt _)
  · rintro h es ⟨inner, exchanged, failed⟩
    cases exchanged with
    | unsent e => exact ⟨nofun, fun accepted => absurd accepted.length (by simp)⟩
    | unanswered e => exact ⟨nofun, fun accepted => absurd accepted.length (by simp)⟩
    | answered r => simp at failed
  · rintro r es ⟨inner, exchanged, returned⟩
    cases exchanged with
    | unsent e => simp at returned
    | unanswered e => simp at returned
    | answered reply =>
      obtain rfl : r = reply := by simpa using returned
      rw [expect]
      split
      case isTrue success => exact Traces.pure (by simp [PayloadAccepted.exchange_iff, success])
      case isFalse failure => exact Traces.throw (by simp [PayloadAccepted.exchange_iff, failure])

theorem traces_handover (t : Transport) (host : String) (m : Message) (date : Instant) :
    Traces (t.handover host m date) fun outcome es => outcome = .ok () ↔ PayloadAccepted es := by
  apply Traces.bind (shows_prepare t host m)
  · intro h es front
    -- Before the content is sent nothing can be an answer to it.
    have quiet := not_isPayload_of_mem fun e member => front.subset member
    refine ⟨nofun, fun accepted => ?_⟩
    rw [← List.append_nil es, PayloadAccepted.append_iff quiet] at accepted
    exact absurd accepted.length (by simp)
  · intro a es whole
    have shown : es.filter DialogueEvent.carriesMessage = envelope m.sender m.recipients := whole
    have quiet := not_isPayload_of_mem fun e member => shown ▸ member
    apply (traces_payload (m.render date)).mono
    intro outcome later exact
    rw [exact, PayloadAccepted.append_iff quiet]

/-- The server has accepted the message, and then the farewell gets no answer at all. -/
def FallsSilent (t : Transport) (host : String) (m : Message) (date : Instant)
    (servers : List Peer) : Prop :=
  ∃ after, play (t.handover host m date) (.facing servers) = (.ok (), after) ∧
    (play quit after).1 = .error .silent

theorem fallsSilent_consenting (t : Transport) (host : String) (m : Message) (date : Instant) :
    t.FallsSilent host m date [.consenting m .silent] := by
  obtain ⟨after, handed, awaits⟩ := opens_handover t host m date .silent
  exact ⟨after, handed, play_command_of_ending "QUIT" awaits⟩

theorem events_leave (c : Client) : ∃ es, (play leave c).2.events = c.events ++ es := by
  obtain ⟨es, added, -⟩ := shows_leave c
  exact ⟨es, added⟩

theorem deliver_cases (t : Transport) (host : String) (m : Message) (limit : Duration)
    (date : Instant) (servers : List Peer) :
    let run := t.deliver host m limit date (.facing servers)
    (¬ PayloadAccepted run.2.events ∧ run.1 ≠ .ok () ∧ ¬ t.FallsSilent host m date servers) ∨
      (PayloadAccepted run.2.events ∧ run.1 = .ok () ∧ ¬ t.FallsSilent host m date servers) ∨
      (PayloadAccepted run.2.events ∧ run.1 = .error (.timeout limit) ∧
        t.FallsSilent host m date servers) := by
  obtain ⟨es, added, settled⟩ := t.traces_handover host m date (.facing servers)
  simp only [deliver_eq, transact_eq, play_bind]
  cases handed : play (t.handover host m date) (.facing servers) with
  | mk outcome after =>
    rw [handed] at added settled
    have events : after.events = es := added
    cases outcome with
    | error h =>
      left
      have unheard : ¬ t.FallsSilent host m date servers := by
        rintro ⟨other, accepted, -⟩
        simp [handed] at accepted
      have refused : ¬ PayloadAccepted after.events := by
        rw [events, ← settled]
        exact nofun
      cases h <;> exact ⟨refused, nofun, unheard⟩
    | ok =>
      right
      -- What the farewell adds to the history does not take the acceptance away.
      have accepted : PayloadAccepted (play leave after).2.events := by
        obtain ⟨more, left⟩ := events_leave after
        rw [left, events]
        exact (settled.1 rfl).append
      have silent : t.FallsSilent host m date servers ↔ (play quit after).1 = .error .silent := by
        simp [FallsSilent, handed]
      have parted := play_leave after
      rw [silent]
      cases farewell : play leave after with
      | mk ending last =>
        rw [farewell] at accepted parted
        simp only [farewell] at parted ⊢
        by_cases quiet : (play quit after).1 = .error .silent
        · obtain rfl : ending = .error .silent := by rw [parted, quiet]
          exact .inr ⟨accepted, rfl, quiet⟩
        · obtain rfl : ending = .ok () := by
            rw [parted]
            split
            · contradiction
            · rfl
          exact .inl ⟨accepted, rfl, quiet⟩

end Transport

structure Offer where
  host : String
  servers : List Peer
  date : Instant

namespace Offer

variable (o : Offer) (t : Transport) (m : Message) (limit : Duration)

def result : Except TransportError Unit :=
  (t.deliver o.host m limit o.date (.facing o.servers)).1

def Accepted : Prop :=
  PayloadAccepted (t.deliver o.host m limit o.date (.facing o.servers)).2.events

def FallsSilent : Prop :=
  t.FallsSilent o.host m o.date o.servers

theorem cases :
    (¬ o.Accepted t m limit ∧ o.result t m limit ≠ .ok () ∧ ¬ o.FallsSilent t m) ∨
      (o.Accepted t m limit ∧ o.result t m limit = .ok () ∧ ¬ o.FallsSilent t m) ∨
      (o.Accepted t m limit ∧ o.result t m limit = .error (.timeout limit) ∧
        o.FallsSilent t m) :=
  t.deliver_cases o.host m limit o.date o.servers

theorem accepted_of_ok (ok : o.result t m limit = .ok ()) : o.Accepted t m limit := by
  rcases o.cases t m limit with ⟨-, failed, -⟩ | ⟨accepted, -⟩ | ⟨accepted, -⟩
  · exact absurd ok failed
  · exact accepted
  · exact accepted

theorem accepted_of_fallsSilent (silent : o.FallsSilent t m) : o.Accepted t m limit := by
  rcases o.cases t m limit with ⟨-, -, answered⟩ | ⟨accepted, -⟩ | ⟨accepted, -⟩
  · exact absurd silent answered
  · exact accepted
  · exact accepted

end Offer

namespace Attempt

/-- Carries an attempt on through the given meetings, one for each host that it turns to. Gives the
offers made and where the attempt stands in the end. -/
def pursue (t : Transport) (m : Message) (limit : Duration) :
    Attempt → List (List Peer × Instant) → List Offer × Attempt
  | delivering host others, (servers, date) :: meetings =>
    let offer : Offer := ⟨host, servers, date⟩
    let (later, last) := pursue t m limit (handed others (offer.result t m limit)) meetings
    (offer :: later, last)
  | attempt, _ => ([], attempt)

/-- An offer that was accepted is the last one, and the attempt has succeeded. -/
def Settles (t : Transport) (m : Message) (limit : Duration) (course : List Offer × Attempt) :
    Prop :=
  ∀ before o after, course.1 = before ++ o :: after → o.Accepted t m limit →
    after = [] ∧ course.2 = decided (.ok ())

variable (t : Transport) (m : Message) (limit : Duration)

theorem pursue_decided (outcome : Except AttemptError Unit)
    (meetings : List (List Peer × Instant)) :
    pursue t m limit (decided outcome) meetings = ([], decided outcome) := by
  cases meetings <;> rfl

-- With the error of one offer the attempt goes on or fails.
theorem pursue_error (others : List String) (e : TransportError)
    (meetings : List (List Peer × Instant)) :
    pursue t m limit (handed others (.error e)) meetings ≠ ([], decided (.ok ())) := by
  cases others with
  | nil => simp [handed, failed, pursue_decided]
  | cons host rest => cases meetings <;> simp [handed, pursue]

theorem settles_nil (attempt : Attempt) : Settles t m limit ([], attempt) := by
  intro before o after split
  simp at split

theorem settles_cons (o : Offer) (later : List Offer) (last : Attempt) :
    Settles t m limit (o :: later, last) ↔
      (o.Accepted t m limit → (later, last) = ([], decided (.ok ()))) ∧
        Settles t m limit (later, last) := by
  constructor
  · intro settles
    refine ⟨fun accepted => Prod.ext_iff.2 (settles [] o later rfl accepted), ?_⟩
    intro before other after split
    exact settles (o :: before) other after (congrArg (o :: ·) split)
  · rintro ⟨first, rest⟩ before other after split accepted
    cases before with
    | nil =>
      obtain ⟨rfl, rfl⟩ : o = other ∧ later = after := by simpa using split
      exact Prod.ext_iff.1 (first accepted)
    | cons skipped before =>
      obtain ⟨rfl, later_split⟩ : o = skipped ∧ later = before ++ other :: after := by
        simpa using split
      exact rest before other after later_split accepted

theorem pursue_settles_iff (attempt : Attempt) (meetings : List (List Peer × Instant)) :
    Settles t m limit (pursue t m limit attempt meetings) ↔
      ∀ o ∈ (pursue t m limit attempt meetings).1, ¬ o.FallsSilent t m := by
  induction meetings generalizing attempt with
  | nil => cases attempt <;> simp [pursue, settles_nil]
  | cons meeting meetings ih =>
    cases attempt with
    | resolving | decided => simp [pursue, settles_nil]
    | delivering host others =>
      simp only [pursue, settles_cons, ih, List.forall_mem_cons]
      refine and_congr_left fun _ => ?_
      -- The offer is refused, or it ends the attempt, or its farewell is not answered.
      rcases Offer.cases ⟨host, meeting.1, meeting.2⟩ t m limit with
        ⟨refused, -, answered⟩ | ⟨accepted, ok, answered⟩ | ⟨accepted, late, silent⟩
      · exact ⟨fun _ => answered, fun _ accepted => absurd accepted refused⟩
      · rw [ok, handed, pursue_decided]
        exact ⟨fun _ => answered, fun _ _ => rfl⟩
      · rw [late]
        constructor
        · intro settles
          exact absurd (settles accepted) (pursue_error t m limit others _ meetings)
        · intro answered
          exact absurd silent answered

/-- One transaction succeeds exactly if the server accepts the message and does not fall silent
afterwards; and exactly then no message is offered again or given up after it was accepted. -/
theorem acceptance_settles_iff_farewell_is_answered :
    (∀ host date servers,
      let run := t.deliver host m limit date (.facing servers)
      (run.1 = .ok () ↔ PayloadAccepted run.2.events ∧ ¬ t.FallsSilent host m date servers) ∧
        (t.FallsSilent host m date servers ↔
          PayloadAccepted run.2.events ∧ run.1 = .error (.timeout limit))) ∧
      ∀ attempt meetings,
        Settles t m limit (pursue t m limit attempt meetings) ↔
          ∀ o ∈ (pursue t m limit attempt meetings).1, ¬ o.FallsSilent t m := by
  refine ⟨fun host date servers => ?_, pursue_settles_iff t m limit⟩
  rcases t.deliver_cases host m limit date servers with
    ⟨refused, failed, answered⟩ | ⟨accepted, ok, answered⟩ | ⟨accepted, late, silent⟩
  · simp [refused, failed, answered]
  · simp [accepted, ok, answered]
  · simp [accepted, late, silent]

theorem silent_farewell_delivers_twice :
    let t : Transport := ⟨"relay", 25⟩
    let m := noteTo "b@example.org"
    let course := pursue t m (.ofSecs 30) (delivering "mx1" ["mx2"])
      [([.consenting m .silent], .min),
        ([.consenting m (.failed .closed)], .min)]
    m.validate .default = .ok () ∧ course.1.map (·.host) = ["mx1", "mx2"] ∧
      (∀ o ∈ course.1, o.Accepted t m (.ofSecs 30)) ∧
      ¬ Settles t m (.ofSecs 30) course := by
  intro t m course
  -- The first server does not answer the farewell, so that the second one gets the message too.
  have valid : (noteTo "b@example.org").validate .default = .ok () := rfl
  let first : Offer := ⟨"mx1", [.consenting m .silent], .min⟩
  let second : Offer := ⟨"mx2", [.consenting m (.failed .closed)], .min⟩
  have silent : first.FallsSilent t m := t.fallsSilent_consenting "mx1" _ .min
  have late : first.result t m (.ofSecs 30) = .error (.timeout (.ofSecs 30)) :=
    t.deliver_consenting "mx1" m (.ofSecs 30) .min .silent
  have ok : second.result t m (.ofSecs 30) = .ok () :=
    t.deliver_consenting "mx2" m (.ofSecs 30) .min (.failed .closed)
  have both : course = ([first, second], decided (.ok ())) := by
    simp only [course, pursue, first, second] at late ok ⊢
    simp only [late, handed, pursue, ok]
  have accepted : ∀ o ∈ course.1, o.Accepted t m (.ofSecs 30) := by
    rw [both]
    simp [second.accepted_of_ok t _ _ ok, first.accepted_of_fallsSilent t _ (.ofSecs 30) silent]
  refine ⟨valid, by rw [both]; rfl, accepted, ?_⟩
  rw [pursue_settles_iff]
  intro answered
  have made : first ∈ course.1 := by
    rw [both]
    exact List.mem_cons_self ..
  exact answered first made silent

end Attempt

end MailRelay
