import MailRelay.Proofs.Delivery.Consent
import MailRelay.Proofs.Delivery.PlainText
import MailRelay.Proofs.Delivery.Stages

set_option autoImplicit false

namespace MailRelay

def Halt.toError (limit : Duration) : Halt TransportError → TransportError
  | failed e => e
  | silent => .timeout limit

namespace DialogueEvent

def isConnection : DialogueEvent → Bool
  | connected _ => true
  | command _ | payload _ | reply _ | secured => false

theorem asks_of_isConnection (e : DialogueEvent) (dials : e.isConnection = true) :
    e.asks = true := by
  cases e <;> first | rfl | cases dials

theorem asks_of_isPayload (e : DialogueEvent) (sends : e.isPayload = true) : e.asks = true := by
  cases e <;> first | rfl | cases sends

end DialogueEvent

namespace Transport

open Dialogue DialogueEvent

/-- Where a client turns to after a refusal that does not end a transaction. -/
inductive Recovery (t : Transport) (address : String) : DialogueEvent → DialogueEvent → Prop
  | helo : Recovery t address t.sayEhlo t.sayHelo
  | reconnect : Recovery t address sayStartTls (.connected address)

-- A transaction fails, but not since it is refused.
def Lost (result : Except TransportError Unit) : Prop :=
  ∃ e, result = .error e ∧ ∀ code text, e ≠ .rejected code text

inductive Heeded (t : Transport) (address : String) (result : Except TransportError Unit)
    (q : DialogueEvent) (r : Reply) : List DialogueEvent → Prop
  | granted {back : List DialogueEvent} (fits : q.grants r = true) :
    Heeded t address result q r back
  | farewell {back : List DialogueEvent} (leaves : q = .command "QUIT") :
    Heeded t address result q r back
  | rejected (ends : result = .error (.rejected r.code r.message)) : Heeded t address result q r []
  | recovered {next : DialogueEvent} {more : List DialogueEvent}
      (recovery : Recovery t address q next) : Heeded t address result q r (next :: more)
  | lost {next : DialogueEvent} (recovery : Recovery t address q next) (lost : Lost result) :
    Heeded t address result q r []

/-- Every reply answers the question before it, and is heeded. -/
def Heeds (t : Transport) (address : String) (result : Except TransportError Unit)
    (es : List DialogueEvent) : Prop :=
  ∀ front r back, es = front ++ .reply r :: back →
    ∃ earlier q, front = earlier ++ [q] ∧ q.asks = true ∧ Heeded t address result q r back

variable {t : Transport} {address : String} {result : Except TransportError Unit}
  {es later told : List DialogueEvent} {q : DialogueEvent} {h : Halt TransportError}
  {limit : Duration}

theorem Heeds.nil : Heeds t address result [] := by
  intro front r back split
  simp at split

theorem Heeds.append (first : Heeds t address (.ok ()) es) (rest : Heeds t address result later) :
    Heeds t address result (es ++ later) := by
  intro front r back split
  rcases List.append_eq_append_iff.1 split with ⟨middle, rfl, inside⟩ | ⟨middle, rfl, inside⟩
  · obtain ⟨earlier, q, rfl, asks, heeded⟩ := rest middle r back inside
    exact ⟨es ++ earlier, q, by simp, asks, heeded⟩
  · cases middle with
    | nil =>
      obtain ⟨earlier, q, nothing, -⟩ := rest [] r back inside.symm
      simp at nothing
    | cons e middle =>
      obtain ⟨rfl, rfl⟩ := List.cons.inj inside
      obtain ⟨earlier, q, same, asks, heeded⟩ := first front r middle rfl
      refine ⟨earlier, q, same, asks, ?_⟩
      cases heeded with
      | granted fits => exact .granted fits
      | farewell leaves => exact .farewell leaves
      | rejected ends => cases ends
      | recovered recovery => exact .recovered recovery
      | lost _ lost => obtain ⟨e, ends, -⟩ := lost; cases ends

theorem Heeds.question (asks : q.asks = true) (rest : Heeds t address result es) :
    Heeds t address result (q :: es) := by
  intro front r back split
  cases front with
  | nil =>
    obtain ⟨rfl, -⟩ := List.cons.inj split
    cases asks
  | cons e front =>
    obtain ⟨rfl, inside⟩ := List.cons.inj split
    obtain ⟨earlier, q', rfl, asked, heeded⟩ := rest front r back inside
    exact ⟨q :: earlier, q', rfl, asked, heeded⟩

theorem Heeds.exchange {r : Reply} (asks : q.asks = true) (heeded : Heeded t address result q r es)
    (rest : Heeds t address result es) : Heeds t address result (q :: .reply r :: es) := by
  intro front r' back split
  match front with
  | [] =>
    obtain ⟨rfl, -⟩ := List.cons.inj split
    cases asks
  | [_] =>
    obtain ⟨rfl, tail⟩ := List.cons.inj split
    obtain ⟨same, rfl⟩ := List.cons.inj tail
    cases same
    exact ⟨[], q, rfl, asks, heeded⟩
  | _ :: _ :: front =>
    obtain ⟨rfl, tail⟩ := List.cons.inj split
    obtain ⟨rfl, inside⟩ := List.cons.inj tail
    obtain ⟨earlier, q', rfl, asked, heeded'⟩ := rest front r' back inside
    exact ⟨q :: .reply r :: earlier, q', rfl, asked, heeded'⟩

theorem lost_of_unheard (unheard : Unheard h) :
    Lost (.error (h.toError limit)) := by
  refine ⟨_, rfl, fun code text same => ?_⟩
  cases h with
  | silent => cases same
  | failed e =>
    obtain rfl : e = .rejected code text := same
    exact unheard ⟨code, [text]⟩ (by simp [rejected, Reply.message])

theorem heeds_cut (asks : q.asks = true) (cut : Cut q h es) :
    Heeds t address (.error (h.toError limit)) es := by
  cases cut with
  | unsent => exact .nil
  | unanswered => exact .question asks .nil
  | refused => exact .exchange asks (.rejected rfl) .nil

theorem heeds_passed {s : Stage} (passed : Passed t address s es) :
    Heeds t address (.ok ()) es := by
  have ehlo : t.sayEhlo ≠ .command "DATA" := command_ne (by simp)
  have helo : t.sayHelo ≠ .command "DATA" := command_ne (by simp)
  have connected : DialogueEvent.connected address ≠ .command "DATA" := by simp
  cases passed with
  | ask asks fits => exact .exchange asks (.granted fits) .nil
  | hail fits => exact .exchange rfl (.granted (grants_of_ne ehlo _ ▸ fits)) .nil
  | hailOld unfit fits =>
    refine .exchange rfl (.recovered .helo) ?_
    exact .exchange rfl (.granted (grants_of_ne helo _ ▸ fits)) .nil
  | retry unsecured fits =>
    have welcome : Heeds t address (.ok ()) [.connected address, .reply _] :=
      .exchange rfl (.granted (grants_of_ne connected _ ▸ fits)) .nil
    cases unsecured with
    | unsent => exact welcome
    | unanswered => exact .question rfl welcome
    | answered r => exact .exchange rfl (.recovered .reconnect) welcome

theorem lost_silent : Lost (.error ((Halt.silent : Halt TransportError).toError limit)) :=
  lost_of_unheard fun r refused => by cases refused

theorem heeds_broken {s : Stage} (broken : Broken t address s h es) :
    Heeds t address (.error (h.toError limit)) es := by
  have ehlo : t.sayEhlo ≠ .command "DATA" := command_ne (by simp)
  cases broken with
  | ask asks cut => exact heeds_cut asks cut
  | hail cut unheard => exact heeds_cut rfl cut
  | hailOld unfit cut =>
    refine .exchange rfl ?_ (heeds_cut rfl cut)
    cases cut with
    | unsent unheard => exact .lost .helo (lost_of_unheard unheard)
    | unanswered | refused => exact .recovered .helo
  | secure unsecured =>
    cases unsecured with
    | unsent => exact .nil
    | unanswered => exact .question rfl .nil
    | answered r => exact .exchange rfl (.lost .reconnect lost_silent) .nil
  | @retry told h es unsecured cut =>
    have rest : Heeds t address (.error (h.toError limit)) es := heeds_cut rfl cut
    cases unsecured with
    | unsent => exact rest
    | unanswered => exact .question rfl rest
    | answered r =>
      refine .exchange rfl ?_ rest
      cases cut with
      | unsent unheard => exact .lost .reconnect (lost_of_unheard unheard)
      | unanswered | refused => exact .recovered .reconnect

theorem heeds_passes {plan : List Stage} (passes : Passes t address plan es) :
    Heeds t address (.ok ()) es := by
  induction passes with
  | nil => exact .nil
  | cons passed _ ih => exact (heeds_passed passed).append ih

theorem heeds_breaks {plan : List Stage} (breaks : Breaks t address plan h es) :
    Heeds t address (.error (h.toError limit)) es := by
  induction breaks with
  | here broken => exact heeds_broken broken
  | later passed _ ih => exact (heeds_passed passed).append ih

theorem heeds_parting (parting : Parting es) : Heeds t address result es := by
  cases parting with
  | unsent => exact .nil
  | unanswered => exact .question rfl .nil
  | answered r => exact .exchange rfl (.farewell rfl) .nil

variable {m : Message} {date : Instant} {outcome : Except (Halt TransportError) Unit}

theorem heeds_transacted (transacted : Transacted t address m date outcome es) :
    Heeds t address (outcome.mapError (·.toError limit)) es := by
  cases transacted with
  | unprepared breaks => exact heeds_breaks breaks
  | unaccepted prepared cut => exact (heeds_passes prepared).append (heeds_cut rfl cut)
  | accepted prepared fits parting =>
    have other : DialogueEvent.payload (m.render date) ≠ .command "DATA" := by simp
    refine (heeds_passes prepared).append (.exchange rfl ?_ (heeds_parting parting))
    exact .granted (grants_of_ne other _ ▸ fits)

def Stage.questions (t : Transport) (address : String) : Stage → List DialogueEvent
  | ask q => [q]
  | hail => [t.sayEhlo, t.sayHelo]
  | retry => [sayStartTls, .connected address]

def questions (t : Transport) (address : String) (plan : List Stage) : List DialogueEvent :=
  plan.flatMap (Stage.questions t address)

theorem asked_cut (asks : q.asks = true) (cut : Cut q h es) :
    (es.filter DialogueEvent.asks).Sublist [q] := by
  cases cut with
  | unsent => exact List.nil_sublist _
  | unanswered => simp [asks]
  | refused => simp [asks]

theorem asked_unsecured (unsecured : Unsecured told) :
    (told.filter DialogueEvent.asks).Sublist [sayStartTls] := by
  cases unsecured with
  | unsent => exact List.nil_sublist _
  | unanswered | answered => exact List.Sublist.refl _

theorem asked_passed {s : Stage} (passed : Passed t address s es) :
    (es.filter DialogueEvent.asks).Sublist (s.questions t address) := by
  cases passed with
  | ask asks => simp [Stage.questions, asks]
  | hail => exact List.sublist_append_left [t.sayEhlo] [t.sayHelo]
  | hailOld => exact List.Sublist.refl _
  | retry unsecured =>
    rw [List.filter_append]
    exact (asked_unsecured unsecured).append (List.Sublist.refl _)

theorem asked_broken {s : Stage} (broken : Broken t address s h es) :
    (es.filter DialogueEvent.asks).Sublist (s.questions t address) := by
  cases broken with
  | ask asks cut => exact asked_cut asks cut
  | hail cut => exact (asked_cut rfl cut).trans (List.sublist_append_left [t.sayEhlo] [t.sayHelo])
  | hailOld _ cut => exact (asked_cut rfl cut).cons_cons t.sayEhlo
  | secure unsecured =>
    exact (asked_unsecured unsecured).trans
      (List.sublist_append_left [sayStartTls] [.connected address])
  | retry unsecured cut =>
    rw [List.filter_append]
    exact (asked_unsecured unsecured).append (asked_cut rfl cut)

theorem asked_passes {plan : List Stage} (passes : Passes t address plan es) :
    (es.filter DialogueEvent.asks).Sublist (questions t address plan) := by
  induction passes with
  | nil => exact List.nil_sublist _
  | cons passed _ ih =>
    rw [List.filter_append, questions, List.flatMap_cons]
    exact (asked_passed passed).append ih

theorem asked_breaks {plan : List Stage} (breaks : Breaks t address plan h es) :
    (es.filter DialogueEvent.asks).Sublist (questions t address plan) := by
  induction breaks with
  | here broken =>
    rw [questions, List.flatMap_cons]
    exact (asked_broken broken).trans (List.sublist_append_left _ _)
  | later passed _ ih =>
    rw [List.filter_append, questions, List.flatMap_cons]
    exact (asked_passed passed).append ih

theorem asked_parting (parting : Parting es) :
    (es.filter DialogueEvent.asks).Sublist [.command "QUIT"] := by
  cases parting with
  | unsent => exact List.nil_sublist _
  | unanswered | answered => exact List.Sublist.refl _

theorem asked_transacted (transacted : Transacted t address m date outcome es) :
    ∃ again, (es.filter DialogueEvent.asks).Sublist
      (questions t address (preparing address again m) ++
        [.payload (m.render date), .command "QUIT"]) := by
  cases transacted with
  | @unprepared again h es breaks =>
    exact ⟨again, (asked_breaks breaks).trans (List.sublist_append_left _ _)⟩
  | @unaccepted again h es later prepared cut =>
    refine ⟨again, ?_⟩
    rw [List.filter_append]
    have sent := (asked_cut rfl cut).trans (List.sublist_append_left _ [.command "QUIT"])
    exact (asked_passes prepared).append sent
  | @accepted again r outcome es later prepared fits parting =>
    refine ⟨again, ?_⟩
    rw [List.filter_append]
    exact (asked_passes prepared).append ((asked_parting parting).cons_cons _)

theorem mem_of_asked {e : DialogueEvent} {qs : List DialogueEvent} (asks : e.asks = true)
    (asked : (es.filter DialogueEvent.asks).Sublist qs) (member : e ∈ es) : e ∈ qs :=
  asked.mem (List.mem_filter.2 ⟨member, asks⟩)

theorem questions_map_ask (t : Transport) (address : String) (qs : List DialogueEvent) :
    questions t address (qs.map .ask) = qs := by
  induction qs with
  | nil => rfl
  | cons q rest ih =>
    rw [questions, List.map_cons, List.flatMap_cons]
    exact congrArg (q :: ·) ih

theorem questions_preparing (t : Transport) (address : String) (again : Bool) (m : Message) :
    questions t address (preparing address again m) =
      [.connected address, t.sayEhlo, t.sayHelo] ++
        ((if again then [sayStartTls, .connected address, t.sayEhlo, t.sayHelo] else []) ++
          letter m) := by
  have asked := questions_map_ask t address (letter m)
  rw [questions] at asked ⊢
  rw [preparing, List.flatMap_append, asked]
  cases again <;> rfl

theorem command_of_mem_letter {e : DialogueEvent} (member : e ∈ letter m) :
    ∃ line, e = .command line ∧ line ≠ "STARTTLS" := by
  rcases List.mem_append.1 member with named | last
  · rcases List.mem_cons.1 named with rfl | named
    · exact ⟨_, rfl, fun same => by simpa using congrArg (·.toList.head?) same⟩
    · obtain ⟨recipient, -, rfl⟩ := List.mem_map.1 named
      exact ⟨_, rfl, fun same => by simpa using congrArg (·.toList.head?) same⟩
  · exact ⟨"DATA", List.mem_singleton.1 last, by decide⟩

/-- After the attempt to secure a connection, there is another one, on which it is not made again.
-/
def Secures (address : String) (result : Except TransportError Unit)
    (es : List DialogueEvent) : Prop :=
  ∀ front back, es = front ++ sayStartTls :: back →
    ∃ told rest, back = told ++ rest ∧ (told = [] ∨ ∃ r, told = [.reply r]) ∧
      sayStartTls ∉ rest ∧ ((∃ more, rest = .connected address :: more) ∨ rest = [] ∧ Lost result)

theorem Secures.of_not_mem (quiet : sayStartTls ∉ es) : Secures address result es := by
  rintro front back rfl
  simp at quiet

theorem Secures.append (quiet : sayStartTls ∉ es) (rest : Secures address result later) :
    Secures address result (es ++ later) := by
  intro front back split
  rcases List.append_eq_append_iff.1 split with ⟨middle, rfl, inside⟩ | ⟨middle, rfl, inside⟩
  · exact rest middle back inside
  · cases middle with
    | nil => exact rest [] back inside.symm
    | cons e middle =>
      obtain ⟨rfl, -⟩ := List.cons.inj inside
      simp at quiet

theorem Secures.retry {rest : List DialogueEvent} (unsecured : Unsecured told)
    (quiet : sayStartTls ∉ rest)
    (goes : (∃ more, rest = .connected address :: more) ∨ rest = [] ∧ Lost result) :
    Secures address result (told ++ rest) := by
  cases unsecured with
  | unsent => exact .of_not_mem quiet
  | unanswered =>
    intro front back split
    cases front with
    | nil =>
      obtain ⟨-, rfl⟩ := List.cons.inj split
      exact ⟨[], rest, rfl, .inl rfl, quiet, goes⟩
    | cons e front =>
      obtain ⟨-, rfl⟩ := List.cons.inj split
      simp at quiet
  | answered r =>
    intro front back split
    match front with
    | [] =>
      obtain ⟨-, rfl⟩ := List.cons.inj split
      exact ⟨[.reply r], rest, rfl, .inr ⟨r, rfl⟩, quiet, goes⟩
    | [_] => cases (List.cons.inj (List.cons.inj split).2).1
    | _ :: _ :: front =>
      obtain ⟨-, rfl⟩ := List.cons.inj (List.cons.inj split).2
      simp at quiet

def Stage.LeavesPlain : Stage → Prop
  | ask q => q ≠ sayStartTls
  | hail => True
  | retry => False

theorem startTls_not_mem_questions {plan : List Stage} (leaves : ∀ s ∈ plan, s.LeavesPlain) :
    sayStartTls ∉ questions t address plan := by
  have ehlo : t.sayEhlo ≠ sayStartTls := command_ne (by simp)
  have helo : t.sayHelo ≠ sayStartTls := command_ne (by simp)
  intro member
  obtain ⟨s, planned, asked⟩ := List.mem_flatMap.1 member
  have plain := leaves s planned
  cases s with
  | ask q => exact plain (List.mem_singleton.1 asked).symm
  | hail => simp [Stage.questions, ehlo.symm, helo.symm] at asked
  | retry => exact plain

theorem startTls_not_mem {qs : List DialogueEvent}
    (asked : (es.filter DialogueEvent.asks).Sublist qs) (quiet : sayStartTls ∉ qs) :
    sayStartTls ∉ es :=
  fun member => quiet (mem_of_asked rfl asked member)

theorem Passes.leavesPlain {plan : List Stage} (passes : Passes t address plan es)
    (leaves : ∀ s ∈ plan, s.LeavesPlain) : sayStartTls ∉ es :=
  startTls_not_mem (asked_passes passes) (startTls_not_mem_questions leaves)

theorem Breaks.leavesPlain {plan : List Stage} (breaks : Breaks t address plan h es)
    (leaves : ∀ s ∈ plan, s.LeavesPlain) : sayStartTls ∉ es :=
  startTls_not_mem (asked_breaks breaks) (startTls_not_mem_questions leaves)

theorem leavesPlain_opening (address : String) :
    ∀ s ∈ opening address false, s.LeavesPlain := by
  simp [opening, Stage.LeavesPlain, sayStartTls]

theorem leavesPlain_letter (m : Message) : ∀ s ∈ (letter m).map Stage.ask, s.LeavesPlain := by
  refine List.forall_mem_map.2 fun q member => ?_
  obtain ⟨line, rfl, other⟩ := command_of_mem_letter member
  rintro ⟨⟩
  exact other rfl

theorem leavesPlain_closing (m : Message) :
    ∀ s ∈ .hail :: (letter m).map Stage.ask, s.LeavesPlain :=
  List.forall_mem_cons.2 ⟨trivial, leavesPlain_letter m⟩

theorem leavesPlain_direct (address : String) (m : Message) :
    ∀ s ∈ preparing address false m, s.LeavesPlain :=
  List.forall_mem_append.2 ⟨leavesPlain_opening address, leavesPlain_letter m⟩

theorem preparing_again (address : String) (m : Message) :
    preparing address true m =
      opening address false ++ .retry :: .hail :: (letter m).map .ask := rfl

theorem startTls_not_mem_welcome {r : Reply} (quiet : sayStartTls ∉ es) :
    sayStartTls ∉ .connected address :: .reply r :: es := by
  simp only [sayStartTls] at quiet ⊢
  simpa using quiet

theorem secures_passes {again : Bool} (passes : Passes t address (preparing address again m) es)
    (quiet : sayStartTls ∉ later) : Secures address result (es ++ later) := by
  cases again with
  | false =>
    have none := passes.leavesPlain (leavesPlain_direct address m)
    exact .of_not_mem fun member => (List.mem_append.1 member).elim none quiet
  | true =>
    rw [preparing_again] at passes
    obtain ⟨first, rest, rfl, opened, passes⟩ := passes.of_append
    rcases passes with _ | ⟨retried, closing⟩
    cases retried with
    | retry unsecured fits =>
      have none := closing.leavesPlain (leavesPlain_closing m)
      simp only [List.append_assoc, List.cons_append, List.nil_append]
      refine .append (opened.leavesPlain (leavesPlain_opening address)) ?_
      refine .retry unsecured (startTls_not_mem_welcome fun member => ?_) (.inl ⟨_, rfl⟩)
      exact (List.mem_append.1 member).elim none quiet

theorem secures_broken (broken : Broken t address .retry h es) :
    Secures address (.error (h.toError limit)) es := by
  cases broken with
  | secure unsecured =>
    simpa using Secures.retry unsecured List.not_mem_nil (.inr ⟨rfl, lost_silent⟩)
  | retry unsecured cut =>
    refine .retry unsecured (startTls_not_mem (asked_cut rfl cut) (by simp [sayStartTls])) ?_
    cases cut with
    | unsent unheard => exact .inr ⟨rfl, lost_of_unheard unheard⟩
    | unanswered | refused => exact .inl ⟨_, rfl⟩

theorem secures_breaks {again : Bool} (breaks : Breaks t address (preparing address again m) h es) :
    Secures address (.error (h.toError limit)) es := by
  cases again with
  | false => exact .of_not_mem (breaks.leavesPlain (leavesPlain_direct address m))
  | true =>
    rw [preparing_again] at breaks
    rcases breaks.of_append with early | ⟨first, rest, rfl, opened, breaks⟩
    · exact .of_not_mem (early.leavesPlain (leavesPlain_opening address))
    refine .append (opened.leavesPlain (leavesPlain_opening address)) ?_
    rcases breaks with ⟨broken⟩ | ⟨retried, closing⟩
    · exact secures_broken broken
    · cases retried with
      | retry unsecured fits =>
        have none := closing.leavesPlain (leavesPlain_closing m)
        rw [List.append_assoc]
        exact .retry unsecured (startTls_not_mem_welcome none) (.inl ⟨_, rfl⟩)

theorem secures_transacted (transacted : Transacted t address m date outcome es) :
    Secures address (outcome.mapError (·.toError limit)) es := by
  cases transacted with
  | unprepared breaks => exact secures_breaks breaks
  | unaccepted prepared cut =>
    refine secures_passes prepared (startTls_not_mem (asked_cut rfl cut) ?_)
    simp [sayStartTls]
  | @accepted again r outcome es later prepared fits parting =>
    have quiet := startTls_not_mem (asked_parting parting) (by decide)
    refine secures_passes prepared ?_
    simp only [sayStartTls] at quiet ⊢
    simpa using quiet

theorem not_isPayload_of_asked {again : Bool}
    (asked : (es.filter DialogueEvent.asks).Sublist
      (questions t address (preparing address again m))) {e : DialogueEvent} (member : e ∈ es) :
    e.isPayload = false := by
  cases payload : e.isPayload with
  | false => rfl
  | true =>
    have named := mem_of_asked (asks_of_isPayload e payload) asked member
    rw [questions_preparing] at named
    cases e with
    | payload content =>
      rcases List.mem_append.1 named with early | late
      · simp [sayEhlo, sayHelo] at early
      rcases List.mem_append.1 late with early | late
      · cases again <;> simp [sayEhlo, sayHelo, sayStartTls] at early
      · obtain ⟨line, same, -⟩ := command_of_mem_letter late
        cases same
    | connected | command | reply | secured => cases payload

theorem countP_asked {p : DialogueEvent → Bool} (only : ∀ e, p e = true → e.asks = true)
    {qs : List DialogueEvent} (asked : (es.filter DialogueEvent.asks).Sublist qs) :
    es.countP p ≤ qs.countP p := by
  have same : (es.filter DialogueEvent.asks).countP p = es.countP p := by
    rw [List.countP_filter]
    refine List.countP_congr fun e _ => ?_
    simpa using only e
  exact same ▸ asked.countP_le

theorem countP_letter {p : DialogueEvent → Bool} (none : ∀ line, p (.command line) = false) :
    (letter m).countP p = 0 := by
  refine List.countP_eq_zero.2 fun e member => ?_
  obtain ⟨line, rfl, -⟩ := command_of_mem_letter member
  simp [none]

theorem countP_preparing {p : DialogueEvent → Bool} (none : ∀ line, p (.command line) = false)
    (t : Transport) (address : String) (again : Bool) (m : Message) :
    (questions t address (preparing address again m)).countP p ≤
      if p (.connected address) then 2 else 0 := by
  rw [questions_preparing, List.countP_append, List.countP_append, countP_letter none]
  have ehlo : p t.sayEhlo = false := none _
  have helo : p t.sayHelo = false := none _
  have startTls : p sayStartTls = false := none _
  cases again <;> cases dials : p (.connected address) <;> simp [ehlo, helo, startTls, dials]

theorem countP_transacted {p : DialogueEvent → Bool} (only : ∀ e, p e = true → e.asks = true)
    (none : ∀ line, p (.command line) = false)
    (transacted : Transacted t address m date outcome es) :
    es.countP p ≤ (if p (.connected address) then 2 else 0) +
      (if p (.payload (m.render date)) then 1 else 0) := by
  obtain ⟨again, asked⟩ := asked_transacted transacted
  have counted := countP_asked only asked
  have before := countP_preparing none t address again m
  have last : [DialogueEvent.payload (m.render date), .command "QUIT"].countP p =
      if p (.payload (m.render date)) then 1 else 0 := by
    simp [List.countP_cons, none]
  rw [List.countP_append, last] at counted
  exact Nat.le_trans counted (Nat.add_le_add_right before _)

theorem split_payload {front back es later : List DialogueEvent} {content sent : String}
    (prepared : ∀ e ∈ es, e.isPayload = false) (done : ∀ e ∈ later, e.isPayload = false)
    (split : es ++ .payload sent :: later = front ++ .payload content :: back) :
    es = front ∧ sent = content := by
  rcases List.append_eq_append_iff.1 split with ⟨middle, rfl, inside⟩ | ⟨middle, rfl, inside⟩
  · cases middle with
    | nil =>
      cases inside
      simp
    | cons e middle =>
      obtain ⟨-, rfl⟩ := List.cons.inj inside
      have impossible := done (.payload content) (by simp)
      cases impossible
  · cases middle with
    | nil =>
      cases inside
      simp
    | cons e middle =>
      obtain ⟨rfl, -⟩ := List.cons.inj inside
      have impossible := prepared (.payload content) (by simp)
      cases impossible

theorem content_transacted (transacted : Transacted t address m date outcome es)
    {front back : List DialogueEvent} {content : String}
    (split : es = front ++ .payload content :: back) :
    content = m.render date ∧ ∃ again, Passes t address (preparing address again m) front := by
  have unsent (quiet : ∀ e ∈ es, e.isPayload = false) : False := by
    have impossible := quiet (.payload content) (by simp [split])
    cases impossible
  cases transacted with
  | unprepared breaks => exact (unsent fun e => not_isPayload_of_asked (asked_breaks breaks)).elim
  | @unaccepted again h es later prepared cut =>
    have quiet : ∀ e ∈ es, e.isPayload = false := fun e =>
      not_isPayload_of_asked (asked_passes prepared)
    cases cut with
    | unsent => exact (unsent (by simpa using quiet)).elim
    | unanswered =>
      obtain ⟨rfl, rfl⟩ := split_payload quiet (List.forall_mem_nil _) split
      exact ⟨rfl, again, prepared⟩
    | refused =>
      obtain ⟨rfl, rfl⟩ := split_payload quiet (by simp [isPayload]) split
      exact ⟨rfl, again, prepared⟩
  | @accepted again r outcome es later prepared fits parting =>
    have quiet : ∀ e ∈ es, e.isPayload = false := fun e =>
      not_isPayload_of_asked (asked_passes prepared)
    have done : ∀ e ∈ .reply r :: later, e.isPayload = false := by
      cases parting <;> simp [isPayload]
    obtain ⟨rfl, rfl⟩ := split_payload quiet done split
    exact ⟨rfl, again, prepared⟩

theorem deliver_outcome (t : Transport) (host : String) (m : Message) (limit : Duration)
    (date : Instant) (c : Client) :
    t.deliver host m limit date c =
      ((play (t.transact host m date) c).1.mapError (·.toError limit),
        (play (t.transact host m date) c).2) := by
  rw [deliver_eq]
  cases play (t.transact host m date) c with
  | mk outcome after => rcases outcome with (e | _) | ⟨⟩ <;> rfl

/-- The whole message or nothing of it, to a server that has agreed to each step: before the content
every stage has passed, with one consent for each recipient, and success means that the content was
accepted too. The first reply of another class ends the transaction as a rejection with its code and
text; only a refused greeting is followed by the old one, and a connection that is not secured by
another one, which stays as it is. -/
theorem plain_transaction_is_all_or_nothing (t : Transport) (host : String) (m : Message)
    (limit : Duration) (date : Instant) {servers : List Peer}
    (plain : ∀ p ∈ servers, p.IsPlain) :
    let run := t.deliver host m limit date (.facing servers)
    let address := (t.address host).1
    run.2.events.countP isPayload ≤ 1 ∧ run.2.events.countP isConnection ≤ 2 ∧
      (∀ front content back, run.2.events = front ++ .payload content :: back →
        content = m.render date ∧
          ∃ again, Passes t address (preparing address again m) front) ∧
      (run.1 = .ok () → ∃ front r back, r.isSuccess = true ∧
        run.2.events = front ++ .payload (m.render date) :: .reply r :: back) ∧
      Heeds t address run.1 run.2.events ∧ Secures address run.1 run.2.events := by
  obtain ⟨es, added, transacts⟩ := t.transacted_transact host m date (.facing servers)
  have events : (play (t.transact host m date) (.facing servers)).2.events = es := added
  have transacted := transacts (events ▸ secured_not_mem plain t host m date)
  rw [deliver_outcome]
  simp only [events]
  refine ⟨?_, ?_, fun front content back => content_transacted transacted, fun ok => ?_,
    heeds_transacted transacted, secures_transacted transacted⟩
  · exact countP_transacted asks_of_isPayload (fun _ => rfl) transacted
  · exact countP_transacted asks_of_isConnection (fun _ => rfl) transacted
  · generalize (play (t.transact host m date) (.facing servers)).1 = outcome at ok transacted
    cases transacted with
    | unprepared | unaccepted => cases ok
    | accepted prepared fits parting => exact ⟨_, _, _, fits, rfl⟩

theorem consenting_server_gets_the_whole_note :
    let t : Transport := ⟨"relay", 25⟩
    let m := noteTo "b@example.org"
    let servers := [Peer.consenting m (.failed .closed)]
    let run := t.deliver "mx" m (.ofSecs 30) .min (.facing servers)
    (∀ p ∈ servers, p.IsPlain) ∧ run.1 = .ok () ∧ run.2.events.countP isPayload = 1 ∧
      ∃ front back, run.2.events = front ++ .payload (m.render .min) :: back ∧
        ∃ again, Passes t "mx:25" (preparing "mx:25" again m) front := by
  intro t m servers run
  have plain : ∀ p ∈ servers, p.IsPlain := List.forall_mem_singleton.2 fun wire secured => by cases secured
  have ok : run.1 = .ok () := t.deliver_consenting "mx" m (.ofSecs 30) .min (.failed .closed)
  obtain ⟨once, -, content, accepted, -⟩ :=
    plain_transaction_is_all_or_nothing t "mx" m (.ofSecs 30) .min plain
  obtain ⟨front, r, back, -, split⟩ := accepted ok
  obtain ⟨-, prepared⟩ := content front _ _ split
  have there : 1 ≤ run.2.events.countP isPayload := by
    refine List.one_le_countP_iff.2 ⟨.payload (m.render .min), ?_, rfl⟩
    exact split ▸ List.mem_append_right _ List.mem_cons_self
  have place : (t.address "mx").1 = "mx:25" := by decide
  exact ⟨plain, ok, Nat.le_antisymm once there, front, _, split, place ▸ prepared⟩

-- One refused recipient, and nothing of the message is sent.
example :
    let refusal : Bytes := [53, 53, 48, 32, 110, 111, 13, 10]
    let replies := [greetingBytes, consentBytes, consentBytes, refusal]
    let run := (Transport.mk "relay" 25).deliver "mx" (noteTo "b@example.org") (.ofSecs 30) .min
      (.facing [.answering replies (.failed .closed)])
    run.1 = .error (.rejected 550 "no") ∧ run.2.events.getLast? = some (.reply ⟨550, ["no"]⟩) := by
  decide +kernel

end Transport

end MailRelay
