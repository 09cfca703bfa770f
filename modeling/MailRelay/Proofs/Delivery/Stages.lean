import MailRelay.Proofs.Delivery.Conversation

set_option autoImplicit false

namespace MailRelay

namespace DialogueEvent

def asks : DialogueEvent → Bool
  | connected _ | command _ | payload _ => true
  | reply _ | secured => false

@[simp] theorem asks_reply (r : Reply) : (reply r).asks = false := rfl

def grants (q : DialogueEvent) (r : Reply) : Bool :=
  if q = .command "DATA" then r.isIntermediate else r.isSuccess

end DialogueEvent

namespace Transport

open Dialogue DialogueEvent

def sayEhlo (t : Transport) : DialogueEvent := .command ("EHLO " ++ t.heloName)
def sayHelo (t : Transport) : DialogueEvent := .command ("HELO " ++ t.heloName)
def sayStartTls : DialogueEvent := .command "STARTTLS"

inductive Stage where
  | ask (q : DialogueEvent)
  | hail
  | retry

inductive Unsecured : List DialogueEvent → Prop
  | unsent : Unsecured []
  | unanswered : Unsecured [sayStartTls]
  | answered (r : Reply) : Unsecured [sayStartTls, .reply r]

-- A dialogue halts, but not since it is refused.
def Unheard (h : Halt TransportError) : Prop :=
  ∀ r, h ≠ .failed (rejected r)

inductive Cut (q : DialogueEvent) : Halt TransportError → List DialogueEvent → Prop
  | unsent {h : Halt TransportError} (unheard : Unheard h) : Cut q h []
  | unanswered {h : Halt TransportError} (unheard : Unheard h) : Cut q h [q]
  | refused {r : Reply} (unfit : q.grants r = false) :
    Cut q (.failed (rejected r)) [q, .reply r]

section

variable (t : Transport) (address : String)

inductive Passed : Stage → List DialogueEvent → Prop
  | ask {q : DialogueEvent} {r : Reply} (asks : q.asks = true) (fits : q.grants r = true) :
    Passed (.ask q) [q, .reply r]
  | hail {r : Reply} (fits : r.isSuccess = true) : Passed .hail [t.sayEhlo, .reply r]
  | hailOld {r r' : Reply} (unfit : r.isSuccess = false) (fits : r'.isSuccess = true) :
    Passed .hail [t.sayEhlo, .reply r, t.sayHelo, .reply r']
  | retry {told : List DialogueEvent} {r : Reply} (unsecured : Unsecured told)
      (fits : r.isSuccess = true) : Passed .retry (told ++ [.connected address, .reply r])

inductive Broken : Stage → Halt TransportError → List DialogueEvent → Prop
  | ask {q : DialogueEvent} {h : Halt TransportError} {es : List DialogueEvent}
      (asks : q.asks = true) (cut : Cut q h es) : Broken (.ask q) h es
  | hail {h : Halt TransportError} {es : List DialogueEvent} (cut : Cut t.sayEhlo h es)
      (unheard : Unheard h) : Broken .hail h es
  | hailOld {r : Reply} {h : Halt TransportError} {es : List DialogueEvent}
      (unfit : r.isSuccess = false) (cut : Cut t.sayHelo h es) :
    Broken .hail h (t.sayEhlo :: .reply r :: es)
  | secure {told : List DialogueEvent} (unsecured : Unsecured told) : Broken .retry .silent told
  | retry {told : List DialogueEvent} {h : Halt TransportError} {es : List DialogueEvent}
      (unsecured : Unsecured told) (cut : Cut (.connected address) h es) :
    Broken .retry h (told ++ es)

inductive Passes : List Stage → List DialogueEvent → Prop
  | nil : Passes [] []
  | cons {s : Stage} {plan : List Stage} {es later : List DialogueEvent}
      (first : Passed t address s es) (rest : Passes plan later) :
    Passes (s :: plan) (es ++ later)

inductive Breaks : List Stage → Halt TransportError → List DialogueEvent → Prop
  | here {s : Stage} {plan : List Stage} {h : Halt TransportError} {es : List DialogueEvent}
      (broken : Broken t address s h es) : Breaks (s :: plan) h es
  | later {s : Stage} {plan : List Stage} {h : Halt TransportError} {es more : List DialogueEvent}
      (first : Passed t address s es) (rest : Breaks plan h more) :
    Breaks (s :: plan) h (es ++ more)

def Follows {α : Type} (plan : List Stage) :
    Except (Halt TransportError) α → List DialogueEvent → Prop
  | .ok _, es => Passes t address plan es
  | .error h, es => Breaks t address plan h es

end

variable {t : Transport} {address : String} {p q : List Stage} {es later : List DialogueEvent}
  {e : DialogueEvent} {h : Halt TransportError} {α β : Type}

theorem Passes.append (first : Passes t address p es) (rest : Passes t address q later) :
    Passes t address (p ++ q) (es ++ later) := by
  induction first with
  | nil => exact rest
  | cons passed _ ih =>
    rw [List.append_assoc]
    exact .cons passed ih

theorem Passes.breaks (first : Passes t address p es) (rest : Breaks t address q h later) :
    Breaks t address (p ++ q) h (es ++ later) := by
  induction first with
  | nil => exact rest
  | cons passed _ ih =>
    rw [List.append_assoc]
    exact .later passed ih

theorem Breaks.append (breaks : Breaks t address p h es) : Breaks t address (p ++ q) h es := by
  induction breaks with
  | here broken => exact .here broken
  | later passed _ ih => exact .later passed ih

theorem Passes.follows {outcome : Except (Halt TransportError) α} (first : Passes t address p es)
    (rest : Follows t address q outcome later) :
    Follows t address (p ++ q) outcome (es ++ later) := by
  cases outcome with
  | error h => exact first.breaks rest
  | ok a => exact first.append rest

theorem Passes.of_append (passes : Passes t address (p ++ q) es) :
    ∃ first rest, es = first ++ rest ∧ Passes t address p first ∧ Passes t address q rest := by
  induction p generalizing es with
  | nil => exact ⟨[], es, rfl, .nil, passes⟩
  | cons s p ih =>
    rcases passes with _ | ⟨passed, passes⟩
    obtain ⟨first, rest, rfl, before, after⟩ := ih passes
    exact ⟨_, rest, (List.append_assoc ..).symm, .cons passed before, after⟩

theorem Breaks.of_append (breaks : Breaks t address (p ++ q) h es) :
    Breaks t address p h es ∨
      ∃ first rest, es = first ++ rest ∧ Passes t address p first ∧ Breaks t address q h rest := by
  induction p generalizing es with
  | nil => exact .inr ⟨[], es, rfl, .nil, breaks⟩
  | cons s p ih =>
    rcases breaks with ⟨broken⟩ | ⟨passed, breaks⟩
    · exact .inl (.here broken)
    rcases ih breaks with early | ⟨first, rest, rfl, before, after⟩
    · exact .inl (.later passed early)
    · exact .inr ⟨_, rest, (List.append_assoc ..).symm, .cons passed before, after⟩

theorem Passes.single {s : Stage} (passed : Passed t address s es) : Passes t address [s] es := by
  rw [← List.append_nil es]
  exact .cons passed .nil

theorem Passes.asked (passes : Passes t address [.ask e] es) :
    ∃ r, e.grants r = true ∧ es = [e, .reply r] := by
  rcases passes with _ | ⟨⟨-, fits⟩, ⟨⟩⟩
  exact ⟨_, fits, rfl⟩

theorem Breaks.cut (breaks : Breaks t address [.ask e] h es) : Cut e h es := by
  rcases breaks with ⟨⟨-, cut⟩⟩ | ⟨-, ⟨⟩⟩
  exact cut

namespace Follows

theorem bind {d : Dialogue TransportError α} {f : α → Dialogue TransportError β}
    (first : Traces d (Follows t address p)) (next : ∀ a, Traces (f a) (Follows t address q)) :
    Traces (d >>= f) (Follows t address (p ++ q)) := by
  apply Traces.bind first
  · intro h es breaks
    exact Breaks.append breaks
  · intro a es passes
    exact (next a).mono fun _ _ follows => Passes.follows passes follows

end Follows

inductive Heard (q : DialogueEvent) :
    Except (Halt TransportError) Reply → List DialogueEvent → Prop
  | unsent {h : Halt TransportError} (unheard : Unheard h) : Heard q (.error h) []
  | unanswered {h : Halt TransportError} (unheard : Unheard h) :
    Heard q (.error h) [q]
  | answered (r : Reply) : Heard q (.ok r) [q, .reply r]

theorem unheard_ofClient (h : Halt ClientError) : Unheard (h.map TransportError.ofClient) := by
  intro r
  rcases h with (_ | _ | _ | _ | _) | _ <;> simp [Halt.map, TransportError.ofClient, rejected]

theorem heard_talk {q : DialogueEvent} {ask : Dialogue ClientError Reply}
    (exchanged : Traces ask (Exchanged q)) : Traces (talk ask) (Heard q) := by
  apply (exchanged.adapt _).mono
  rintro outcome es ⟨inner, exchange, rfl⟩
  cases exchange with
  | unsent h => exact .unsent (unheard_ofClient h)
  | unanswered h => exact .unanswered (unheard_ofClient h)
  | answered reply => exact .answered reply

theorem heard_command (line : String) : Traces (talk (command line)) (Heard (.command line)) :=
  heard_talk (traces_exchange _)

theorem heard_greeting (address : String) :
    Traces (do
      ExceptT.adapt (Halt.map fun e => .connectionFailed (address ++ ": " ++ e.message))
        (Dialogue.connect address)
      talk Dialogue.receive) (Heard (.connected address)) := by
  apply Traces.bind ((traces_connect address).adapt _)
  · rintro h es ⟨h' | _, rfl, same⟩ <;> cases same
    exact .unsent fun r => by cases h' <;> simp [Halt.map, rejected]
  · rintro ⟨⟩ es ⟨h' | _, rfl, same⟩ <;> cases same
    apply (traces_receive.adapt _).mono
    rintro outcome es ⟨h' | reply, rfl, rfl⟩
    · exact .unanswered (unheard_ofClient h')
    · exact .answered reply

theorem follows_check {q : DialogueEvent} {ask : Dialogue TransportError Reply}
    (asks : q.asks = true) (heard : Traces ask (Heard q))
    {check : Reply → Dialogue TransportError α}
    (granted : ∀ r, q.grants r = true → ∃ a, check r = pure a)
    (refused : ∀ r, q.grants r = false → check r = throw (.failed (rejected r))) :
    Traces (ask >>= check) (Follows t address [.ask q]) := by
  apply heard.bind
  · intro h es heard
    cases heard with
    | unsent unheard => exact .here (.ask asks (.unsent unheard))
    | unanswered unheard => exact .here (.ask asks (.unanswered unheard))
  · rintro r es (_ | _ | _)
    cases fits : q.grants r with
    | true =>
      obtain ⟨a, same⟩ := granted r fits
      rw [same]
      exact Traces.pure (Passes.single (.ask asks fits))
    | false =>
      rw [refused r fits]
      exact Traces.throw (.here (.ask asks (.refused fits)))

theorem expect_of_success {r : Reply} (success : r.isSuccess = true) : expect r = pure () :=
  if_pos success

theorem expect_of_failure {r : Reply} (failure : r.isSuccess = false) :
    expect r = throw (.failed (rejected r)) :=
  if_neg (by simp [failure])

theorem grants_of_ne (other : e ≠ .command "DATA") (r : Reply) : e.grants r = r.isSuccess :=
  if_neg other

theorem follows_expect {ask : Dialogue TransportError Reply} (asks : e.asks = true)
    (heard : Traces ask (Heard e)) (other : e ≠ .command "DATA") :
    Traces (do expect (← ask)) (Follows t address [.ask e]) :=
  follows_check asks heard (fun r fits => ⟨(), expect_of_success (grants_of_ne other r ▸ fits)⟩)
    fun r unfit => expect_of_failure (grants_of_ne other r ▸ unfit)

theorem follows_expect_pure {ask : Dialogue TransportError Reply} (asks : e.asks = true)
    (heard : Traces ask (Heard e)) (other : e ≠ .command "DATA") (result : Reply → α) :
    Traces (do
      let reply ← ask
      expect reply
      return result reply) (Follows t address [.ask e]) := by
  refine follows_check asks heard (fun r fits => ⟨result r, ?_⟩) fun r unfit => ?_
  · rw [expect_of_success (grants_of_ne other r ▸ fits), pure_bind]
  · rw [expect_of_failure (grants_of_ne other r ▸ unfit)]
    rfl

theorem follows_connect :
    Traces (connect address) (Follows t address [.ask (.connected address)]) := by
  rw [connect, ← bind_assoc]
  exact follows_expect rfl (heard_greeting address) (by simp)

theorem command_ne {line other : String} (differ : line.toList.head? ≠ other.toList.head?) :
    DialogueEvent.command line ≠ .command other := by
  rintro ⟨⟩
  exact differ rfl

theorem follows_greet : Traces (greet t) (Follows t address [.hail]) := by
  rw [greet]
  apply (heard_command ("EHLO " ++ t.heloName)).bind
  · intro h es heard
    cases heard with
    | unsent unheard => exact .here (.hail (.unsent unheard) unheard)
    | unanswered unheard => exact .here (.hail (.unanswered unheard) unheard)
  · rintro r es (_ | _ | _)
    cases fits : r.isSuccess with
    | true => exact Traces.pure (Passes.single (.hail fits))
    | false =>
      have other : t.sayHelo ≠ .command "DATA" := command_ne (by simp)
      have asked : Traces (do
          let reply ← talk (Dialogue.helo t.heloName)
          expect reply
          return reply) (Follows t address [.ask t.sayHelo]) :=
        follows_expect_pure rfl (heard_command _) other fun r => r
      apply asked.mono
      rintro (h | r') es follows
      · exact .here (.hailOld fits (Breaks.cut follows))
      · obtain ⟨last, granted, rfl⟩ := Passes.asked follows
        exact Passes.single (.hailOld fits (grants_of_ne other last ▸ granted))

theorem tries_startTls : Traces startTls fun outcome es => .secured ∉ es →
    Unsecured es ∧ ∀ r, outcome = .ok r → r.isSuccess = false := by
  rw [startTls]
  have asked : Traces (command "STARTTLS") (Exchanged sayStartTls) := traces_exchange _
  apply asked.bind
  · intro h es exchanged _
    cases exchanged with
    | unsent => exact ⟨.unsent, by simp⟩
    | unanswered => exact ⟨.unanswered, by simp⟩
  · rintro r es (_ | _ | _)
    cases fits : r.isSuccess with
    | true =>
      apply traces_secure.bind
      · rintro h es rfl _
        exact ⟨.answered r, by simp⟩
      · rintro ⟨⟩ es rfl
        exact Traces.pure fun plain => absurd plain (by simp)
    | false =>
      refine Traces.pure fun _ => ⟨.answered r, ?_⟩
      rintro _ ⟨⟩
      exact fits

-- Tries to secure the connection. A failure counts as an answer.
def trySecure : Dialogue TransportError (Option Reply) :=
  tryCatch (do return some (← talk Dialogue.startTls)) fun
    | .failed _ => return none
    | .silent => throw .silent

theorem tries_trySecure : Traces trySecure fun outcome es => .secured ∉ es →
    Unsecured es ∧ (∀ r, outcome = .ok (some r) → r.isSuccess = false) ∧
      ∀ h, outcome = .error h → h = .silent := by
  rw [trySecure]
  refine Traces.tryCatch (P := fun outcome es => .secured ∉ es →
    Unsecured es ∧ ∀ r, outcome = .ok (some r) → r.isSuccess = false) ?_ ?_ ?_
  · apply Traces.bind (tries_startTls.adapt _)
    · rintro h es ⟨inner, tried, failed⟩ plain
      exact ⟨(tried plain).1, by simp⟩
    · rintro r es ⟨inner, tried, same⟩
      refine Traces.pure fun plain => ?_
      rw [List.append_nil] at plain ⊢
      obtain ⟨unsecured, refused⟩ := tried plain
      refine ⟨unsecured, ?_⟩
      rintro _ ⟨⟩
      cases inner with
      | error h => cases same
      | ok r' =>
        cases same
        exact refused r rfl
  · intro a es tried plain
    exact ⟨(tried plain).1, (tried plain).2, by simp⟩
  · rintro (e | _) es tried
    · refine Traces.pure fun plain => ?_
      rw [List.append_nil] at plain ⊢
      exact ⟨(tried plain).1, by simp, by simp⟩
    · refine Traces.throw fun plain => ?_
      rw [List.append_nil] at plain ⊢
      refine ⟨(tried plain).1, by simp, ?_⟩
      rintro _ ⟨⟩
      rfl

/-- What negotiating leaves behind on a connection that is not secured: nothing has been tried, or
there has to be a second connection. -/
def Negotiated (t : Transport) (address : String) :
    Except (Halt TransportError) Bool → List DialogueEvent → Prop
  | .ok false, es => Passes t address [.hail] es
  | .ok true, es =>
    ∃ hello told, Passes t address [.hail] hello ∧ Unsecured told ∧ es = hello ++ told
  | .error h, es => Breaks t address [.hail, .retry] h es

theorem negotiated_negotiate (t : Transport) (address : String) :
    Traces (negotiate t) fun outcome es => .secured ∉ es → Negotiated t address outcome es := by
  have greeted : Traces (greet t) (Follows t address [.hail]) := follows_greet
  rw [negotiate]
  apply greeted.bind
  · intro h es breaks _
    exact Breaks.append breaks
  · rintro greeting hello passes
    split
    · refine Traces.pure fun _ => ?_
      rw [List.append_nil]
      exact passes
    · change Traces (trySecure >>= _) _
      apply tries_trySecure.bind
      · intro h told tried plain
        obtain ⟨unsecured, -, silent⟩ := tried fun member => plain (List.mem_append_right _ member)
        obtain rfl := silent h rfl
        exact Passes.breaks passes (.here (.secure unsecured))
      · rintro secured told tried
        have apart (plain : .secured ∉ hello ++ told) :
            Negotiated t address (.ok true) (hello ++ told) ∧
              ∀ r, secured = some r → r.isSuccess = false := by
          obtain ⟨unsecured, refused, -⟩ :=
            tried fun member => plain (List.mem_append_right _ member)
          exact ⟨⟨hello, told, passes, unsecured, rfl⟩, fun r same => refused r (congrArg _ same)⟩
        rcases secured with _ | r
        · refine Traces.pure fun plain => ?_
          rw [List.append_nil] at plain ⊢
          exact (apart plain).1
        cases agreed : r.isSuccess with
        | false =>
          simp only [agreed, Bool.not_false, if_true]
          refine Traces.pure fun plain => ?_
          rw [List.append_nil] at plain ⊢
          exact (apart plain).1
        | true =>
          simp only [agreed, Bool.not_true, Bool.false_eq_true, if_false]
          have asked : Traces (do
              expect (← talk (Dialogue.ehlo t.heloName))
              return false) (Follows t address [.ask t.sayEhlo]) :=
            follows_expect_pure rfl (heard_command _) (command_ne (by simp)) fun _ => false
          -- The server has agreed, so that the connection is secured.
          apply asked.mono
          intro outcome later _ plain
          rw [← List.append_assoc] at plain
          have refused := (apart fun member => plain (List.mem_append_left _ member)).2 r rfl
          simp [agreed] at refused

-- A second connection is made after an attempt to secure the first one.
def opening (address : String) (again : Bool) : List Stage :=
  .ask (.connected address) :: .hail :: if again then [.retry, .hail] else []

theorem follows_retry {told more : List DialogueEvent} {outcome : Except (Halt TransportError) α}
    (unsecured : Unsecured told)
    (follows : Follows t address [.ask (.connected address), .hail] outcome more) :
    Follows t address [.retry, .hail] outcome (told ++ more) := by
  have other : DialogueEvent.connected address ≠ .command "DATA" := by simp
  cases outcome with
  | error h =>
    rcases follows with ⟨⟨-, cut⟩⟩ | ⟨⟨-, fits⟩, rest⟩
    · exact .here (.retry unsecured cut)
    · rw [← List.append_assoc]
      exact .later (.retry unsecured (grants_of_ne other _ ▸ fits)) rest
  | ok a =>
    rcases follows with _ | ⟨⟨-, fits⟩, rest⟩
    rw [← List.append_assoc]
    exact .cons (.retry unsecured (grants_of_ne other _ ▸ fits)) rest

theorem follows_reach (t : Transport) (host : String) :
    Traces (t.reach host) fun outcome es => .secured ∉ es →
      ∃ again, Follows t (t.address host).1 (opening (t.address host).1 again) outcome es := by
  rw [reach]
  generalize t.address host = place
  obtain ⟨address, name⟩ := place
  have connected : Traces (connect address) (Follows t address [.ask (.connected address)]) :=
    follows_connect
  apply connected.bind
  · intro h es breaks _
    exact ⟨false, Breaks.append breaks⟩
  rintro ⟨⟩ es passes
  apply (negotiated_negotiate t address).bind
  · intro h more breaks plain
    have broken := breaks fun member => plain (List.mem_append_right _ member)
    exact ⟨true, Passes.breaks passes (Breaks.append broken)⟩
  · rintro (_ | _) more negotiated
    · refine Traces.pure fun plain => ?_
      rw [List.append_nil] at plain ⊢
      have hello := negotiated fun member => plain (List.mem_append_right _ member)
      exact ⟨false, Passes.append passes hello⟩
    · have again : Traces (do connect address; let _ ← greet t)
          (Follows t address [.ask (.connected address), .hail]) := by
        refine Follows.bind connected fun _ => ?_
        rw [← List.append_nil [Stage.hail]]
        exact Follows.bind follows_greet fun _ => Traces.pure .nil
      apply again.mono
      intro outcome later follows plain
      obtain ⟨hello, told, welcome, unsecured, rfl⟩ :=
        negotiated fun member => plain (by simp [member])
      refine ⟨true, Passes.follows passes ?_⟩
      rw [List.append_assoc]
      exact Passes.follows welcome (follows_retry unsecured follows)

def letter (m : Message) : List DialogueEvent :=
  envelope m.sender m.recipients ++ [.command "DATA"]

theorem follows_recipients (rs : List String) :
    Traces (recipients rs) (Follows t address
      (rs.map fun recipient => .ask (.command ("RCPT TO:<" ++ recipient ++ ">")))) := by
  induction rs with
  | nil => exact Traces.pure .nil
  | cons recipient rest ih =>
    rw [recipients, List.map_cons, ← List.singleton_append]
    have asked : Traces (do expect (← talk (Dialogue.rcpt recipient)))
        (Follows t address [.ask (.command ("RCPT TO:<" ++ recipient ++ ">"))]) :=
      follows_expect rfl (heard_command _) (command_ne (by simp))
    simpa only [bind_assoc] using Follows.bind asked fun _ => ih

theorem follows_data : Traces (do
    let reply ← talk Dialogue.data
    if !reply.isIntermediate then throw (.failed (rejected reply)))
    (Follows t address [.ask (.command "DATA")]) := by
  refine follows_check rfl (heard_command "DATA") (fun r fits => ⟨(), ?_⟩) fun r unfit => ?_
  · rw [grants, if_pos rfl] at fits
    simp [fits]
  · rw [grants, if_pos rfl] at unfit
    simp [unfit]

theorem follows_letter (m : Message) : Traces (do
    expect (← talk (Dialogue.mail m.sender))
    recipients m.recipients
    let reply ← talk Dialogue.data
    if !reply.isIntermediate then throw (.failed (rejected reply)))
    (Follows t address ((letter m).map .ask)) := by
  have asked : Traces (do expect (← talk (Dialogue.mail m.sender)))
      (Follows t address [.ask (.command ("MAIL FROM:<" ++ m.sender ++ ">"))]) :=
    follows_expect rfl (heard_command _) (command_ne (by simp))
  have named : (letter m).map Stage.ask =
      [.ask (.command ("MAIL FROM:<" ++ m.sender ++ ">"))] ++
        (m.recipients.map (fun recipient => .ask (.command ("RCPT TO:<" ++ recipient ++ ">"))) ++
          [.ask (.command "DATA")]) := by
    simp [letter, envelope]
  rw [named]
  simpa only [bind_assoc] using
    Follows.bind asked fun _ => Follows.bind (follows_recipients m.recipients) fun _ => follows_data

def preparing (address : String) (again : Bool) (m : Message) : List Stage :=
  opening address again ++ (letter m).map .ask

theorem follows_prepare (t : Transport) (host : String) (m : Message) :
    Traces (t.prepare host m) fun outcome es => .secured ∉ es →
      ∃ again, Follows t (t.address host).1 (preparing (t.address host).1 again m) outcome es := by
  rw [prepare]
  apply (follows_reach t host).bind
  · intro h es reached plain
    obtain ⟨again, breaks⟩ := reached plain
    exact ⟨again, Breaks.append breaks⟩
  · intro _ es reached
    apply (follows_letter m).mono
    intro outcome later follows plain
    obtain ⟨again, passes⟩ := reached fun member => plain (List.mem_append_left _ member)
    exact ⟨again, Passes.follows passes follows⟩

theorem follows_payload (content : String) :
    Traces (do expect (← talk (Dialogue.payload content)))
      (Follows t address [.ask (.payload content)]) :=
  follows_expect rfl (heard_talk (traces_exchange _)) (by simp)

inductive Parting : List DialogueEvent → Prop
  | unsent : Parting []
  | unanswered : Parting [.command "QUIT"]
  | answered (r : Reply) : Parting [.command "QUIT", .reply r]

theorem parts_leave : Traces leave fun outcome es =>
    Parting es ∧ ∀ h, outcome = .error h → h = .silent := by
  rw [leave]
  have asked : Traces (do let _ ← talk Dialogue.quit) fun _ es => Parting es := by
    apply (heard_command "QUIT").bind
    · intro h es heard
      cases heard with
      | unsent => exact .unsent
      | unanswered => exact .unanswered
    · rintro r es (_ | _ | _)
      exact Traces.pure (.answered r)
  apply asked.tryCatch
  · intro a es parting
    exact ⟨parting, by simp⟩
  · rintro (e | _) es parting
    · refine Traces.pure ⟨?_, by simp⟩
      rwa [List.append_nil]
    · refine Traces.throw ⟨?_, ?_⟩
      · rwa [List.append_nil]
      · rintro _ ⟨⟩
        rfl

/-- How far a transaction comes: it breaks off before the content is sent, or on sending it, or all
stages pass and only the farewell follows. -/
inductive Transacted (t : Transport) (address : String) (m : Message) (date : Instant) :
    Except (Halt TransportError) Unit → List DialogueEvent → Prop
  | unprepared {again : Bool} {h : Halt TransportError} {es : List DialogueEvent}
      (breaks : Breaks t address (preparing address again m) h es) :
    Transacted t address m date (.error h) es
  | unaccepted {again : Bool} {h : Halt TransportError} {es later : List DialogueEvent}
      (prepared : Passes t address (preparing address again m) es)
      (cut : Cut (.payload (m.render date)) h later) :
    Transacted t address m date (.error h) (es ++ later)
  | accepted {again : Bool} {r : Reply} {outcome : Except (Halt TransportError) Unit}
      {es later : List DialogueEvent} (prepared : Passes t address (preparing address again m) es)
      (fits : r.isSuccess = true) (parting : Parting later)
      (late : ∀ h, outcome = .error h → h = .silent) :
    Transacted t address m date outcome (es ++ .payload (m.render date) :: .reply r :: later)

theorem transacted_transact (t : Transport) (host : String) (m : Message) (date : Instant) :
    Traces (t.transact host m date) fun outcome es => .secured ∉ es →
      Transacted t (t.address host).1 m date outcome es := by
  rw [transact_eq, handover, bind_assoc]
  apply (follows_prepare t host m).bind
  · intro h es prepared plain
    obtain ⟨again, breaks⟩ := prepared plain
    exact .unprepared breaks
  intro _ es prepared
  have sent : Traces (do expect (← talk (Dialogue.payload (m.render date))))
      (Follows t (t.address host).1 [.ask (.payload (m.render date))]) := follows_payload _
  apply sent.bind
  · intro h later breaks plain
    obtain ⟨again, passes⟩ := prepared fun member => plain (List.mem_append_left _ member)
    exact .unaccepted passes (Breaks.cut breaks)
  · intro _ exchange passed
    apply parts_leave.mono
    rintro outcome later ⟨parting, late⟩ plain
    obtain ⟨again, passes⟩ := prepared fun member => plain (List.mem_append_left _ member)
    obtain ⟨r, fits, rfl⟩ := Passes.asked passed
    have other : DialogueEvent.payload (m.render date) ≠ .command "DATA" := by simp
    exact .accepted passes (grants_of_ne other r ▸ fits) parting late

end Transport

end MailRelay
