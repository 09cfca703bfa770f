import MailRelay.Delivery.Rehearsal
import Mathlib.Data.List.Basic

set_option autoImplicit false

namespace MailRelay

def HostScript.Answers (limit : Duration) : HostScript → Prop
  | ends _ => True
  | slow delay => delay.nanos ≤ limit.nanos
  | late | silent => False

theorem HostScript.outcome_of_not_answers {limit : Duration} {deed : HostScript}
    (quiet : ¬ deed.Answers limit) : (deed.outcome limit).1 = .error (.timeout limit) := by
  cases deed with
  | ends => exact absurd trivial quiet
  | late | silent => rfl
  | slow delay =>
    have late : ¬ delay.nanos ≤ limit.nanos := quiet
    rw [outcome, if_neg late]

def Rehearsal.raised (r : Rehearsal) : Bool := r.service.hub.cancelled

structure Wait (settings : ServiceSettings) where
  before : Rehearsal
  after : Rehearsal
  configured : before.service.settings = settings

namespace Wait

variable {settings : ServiceSettings}

def isCalm (v : Wait settings) : Bool := !v.before.raised && !v.after.raised

def heard? (v : Wait settings) (domain : String) : Option (Except DnsError (List Exchanger)) :=
  let name := ExchangerCache.key domain
  (v.before.script.domain name).answer? name

def resolved? (v : Wait settings) (domain : String) (answer : Except DnsError (List Exchanger)) :
    Option (Attempt × ExchangerCache) :=
  Attempt.resolved? v.after.service.hub.cache v.after.readClock.1.ticks domain answer

/-- What the attempt is told about a domain. An answer that the cache cannot take never reaches it:
the attempt breaks off. -/
def answer? (v : Wait settings) (domain : String) : Option (Except DnsError (List Exchanger)) :=
  (v.heard? domain).filter fun answer => (v.resolved? domain answer).isSome

def deed (v : Wait settings) (host : String) : HostScript :=
  v.before.script.host host ((v.before.calls.get? host).getD 0)

def result (v : Wait settings) (host : String) : Except TransportError Unit :=
  ((v.deed host).outcome settings.connectionTimeout).1

def Refuses (v : Wait settings) (host : String) : Prop :=
  v.isCalm = true ∧ ∃ e, v.result host = .error e

def pass (v : Wait settings) (w : Worker) : List Handover × Option Worker :=
  let (r, event) := ({ v.before with handovers := [] } : Rehearsal).next w
  let last := if v.before.raised then v.before else v.after
  let event := if last.raised then some .interrupted else event.map (·.2)
  (r.handovers, event.map fun e => (last.step w e).2)

def passAll : List (Wait settings) → Worker → List Handover × Worker
  | [], w => ([], w)
  | v :: vs, w =>
    if Rehearsal.isDecided w then ([], w)
    else
      match v.pass w with
      | (calls, some w) => ((calls ++ (passAll vs w).1), (passAll vs w).2)
      | (calls, none) => (calls, w)

end Wait

namespace Rehearsal

variable {r : Rehearsal} {m : Message} {rest : List Message} {host domain : String}
variable {others : List String}

theorem step_interrupted (raised : r.raised = true) {a : Attempt}
    (pending : (∃ domain, a = .resolving domain) ∨ ∃ host others, a = .delivering host others) :
    (r.step (.trying m a rest) .interrupted).2 = .trying m (.failed .cancelled) rest := by
  have flag : r.service.hub.cancelled = true := raised
  rcases pending with ⟨domain, rfl⟩ | ⟨host, others, rfl⟩
  · simp [step, readClock, Worker.step, flag]
  · simp [step, readClock, Worker.step, flag]

theorem step_resolved (calm : r.raised = false) (answer : Except DnsError (List Exchanger)) :
    (r.step (.trying m (.resolving domain) rest) (.resolved answer)).2 =
      match Attempt.resolved? r.service.hub.cache r.readClock.1.ticks domain answer with
      | some (attempt, _) => .trying m attempt rest
      | none => .aborted m rest := by
  have flag : r.service.hub.cancelled = false := calm
  simp only [step, readClock, Worker.step, flag, Bool.false_eq_true, if_false]
  cases Attempt.resolved? r.service.hub.cache (r.elapsed + readingTime) domain answer <;> rfl

theorem step_handed (calm : r.raised = false) (result : Except TransportError Unit) :
    (r.step (.trying m (.delivering host others) rest) (.handed result)).2 =
      .trying m (.handed others result) rest := by
  have flag : r.service.hub.cancelled = false := calm
  simp [step, readClock, Worker.step, flag]

end Rehearsal

def Attempt.visit (domain : String) : List String → Attempt
  | [] => failed (.noTargets domain)
  | host :: others => delivering host others

theorem Attempt.turnTo_eq (domain : String) (hosts : List Exchanger) :
    turnTo domain hosts = visit domain (hosts.map (·.host)) := by
  cases hosts <;> rfl

namespace Wait

variable {settings : ServiceSettings} {m : Message} {rest : List Message} {host domain : String}
variable {others : List String}

theorem pass_resolving (v : Wait settings) :
    v.pass (.trying m (.resolving domain) rest) =
      ([], if v.isCalm then (v.heard? domain).map fun answer =>
          match v.resolved? domain answer with
          | some (attempt, _) => .trying m attempt rest
          | none => .aborted m rest
        else some (.trying m (.failed .cancelled) rest)) := by
  cases raised : v.before.raised with
  | true =>
    have flag : v.before.service.hub.cancelled = true := raised
    simp [pass, isCalm, raised, Rehearsal.next, flag, Rehearsal.step_interrupted raised]
  | false =>
    have flag : v.before.service.hub.cancelled = false := raised
    cases later : v.after.raised with
    | true =>
      simp [pass, isCalm, raised, later, Rehearsal.next, flag, Rehearsal.ask,
        Rehearsal.step_interrupted later]
    | false =>
      simp only [pass, isCalm, raised, later, Rehearsal.next, flag, Rehearsal.ask, heard?,
        Bool.false_eq_true, if_false, Bool.not_false, Bool.and_self, if_true, resolved?]
      cases (v.before.script.domain (ExchangerCache.key domain)).answer?
          (ExchangerCache.key domain) with
      | none => rfl
      | some answer => simp [Rehearsal.step_resolved later]

theorem pass_aborted (v : Wait settings) (m : Message) (rest : List Message) :
    v.pass (.aborted m rest) = ([], none) ∨
      v.pass (.aborted m rest) = ([], some (.aborted m rest)) := by
  cases raised : v.before.raised with
  | true => exact .inr (by simp [pass, raised, Rehearsal.next, Rehearsal.step, Worker.step])
  | false =>
    cases later : v.after.raised with
    | true =>
      exact .inr (by simp [pass, raised, later, Rehearsal.next, Rehearsal.step, Worker.step])
    | false => exact .inl (by simp [pass, raised, later, Rehearsal.next])

theorem passAll_aborted (waits : List (Wait settings)) :
    passAll waits (.aborted m rest) = ([], .aborted m rest) := by
  induction waits with
  | nil => rfl
  | cons v waits ih =>
    rcases v.pass_aborted m rest with stays | stays
    · simp [passAll, Rehearsal.isDecided, Rehearsal.isIdle, stays]
    · simp [passAll, Rehearsal.isDecided, Rehearsal.isIdle, stays, ih]

def told (domain : String) : Except DnsError (List Exchanger) → Attempt
  | .ok hosts => .visit domain (hosts.map (·.host))
  | .error e => .failed (.resolutionFailed e)

theorem resolved_of_answer {v : Wait settings} {answer : Except DnsError (List Exchanger)}
    (heard : v.answer? domain = some answer) :
    v.heard? domain = some answer ∧
      ∃ cache, v.resolved? domain answer = some (told domain answer, cache) := by
  obtain ⟨heard, kept⟩ := Option.filter_eq_some_iff.1 heard
  obtain ⟨⟨attempt, cache⟩, resolved⟩ := Option.isSome_iff_exists.1 kept
  refine ⟨heard, cache, ?_⟩
  cases answer with
  | error e =>
    cases resolved
    rfl
  | ok hosts =>
    obtain ⟨kept, stored, same⟩ := Option.map_eq_some_iff.1 resolved
    cases same
    rw [told, ← Attempt.turnTo_eq]
    exact resolved

theorem pass_delivering (v : Wait settings) :
    v.pass (.trying m (.delivering host others) rest) =
      if v.before.raised then ([], some (.trying m (.failed .cancelled) rest))
      else ([⟨host, m.id, settings.connectionTimeout⟩],
        some (.trying m (if v.after.raised then .failed .cancelled
          else .handed others (v.result host)) rest)) := by
  obtain ⟨before, after, configured⟩ := v
  subst configured
  cases raised : before.raised with
  | true =>
    have flag : before.service.hub.cancelled = true := raised
    simp [pass, raised, Rehearsal.next, flag, Rehearsal.step_interrupted raised]
  | false =>
    have flag : before.service.hub.cancelled = false := raised
    cases later : after.raised with
    | true =>
      simp [pass, raised, later, Rehearsal.next, flag, Rehearsal.hand,
        Rehearsal.step_interrupted later]
    | false =>
      simp [pass, raised, later, Rehearsal.next, flag, Rehearsal.hand,
        Rehearsal.step_handed later, result, deed]

theorem passAll_decided (waits : List (Wait settings)) (outcome : Except AttemptError Unit) :
    passAll waits (.trying m (.decided outcome) rest) =
      ([], .trying m (.decided outcome) rest) := by
  cases waits <;> simp [passAll, Rehearsal.isDecided]

end Wait

def call (settings : ServiceSettings) (m : Message) (host : String) : Handover :=
  ⟨host, m.id, settings.connectionTimeout⟩

def settled (settings : ServiceSettings) (m : Message) (rest : List Message) (called : List String)
    (outcome : Except AttemptError Unit) : List Handover × Worker :=
  (called.map (call settings m), .trying m (.decided outcome) rest)

theorem settled_inj {settings : ServiceSettings} {m : Message} {rest : List Message}
    {called called' : List String} {outcome outcome' : Except AttemptError Unit}
    (same : settled settings m rest called outcome = settled settings m rest called' outcome') :
    called = called' ∧ outcome = outcome' := by
  obtain ⟨calls, worker⟩ := Prod.mk.inj same
  refine ⟨List.map_injective_iff.2 (fun host host' same => ?_) calls, ?_⟩
  · injection same
  · injection worker with _ decided
    injection decided

-- The first hosts, as many as `k`, each refuse in a wait of their own.
def Refused {settings : ServiceSettings} (hosts : List String) (waits : List (Wait settings))
    (k : Nat) : Prop :=
  ∀ i < k, ∃ host v, hosts[i]? = some host ∧ waits[i]? = some v ∧ v.Refuses host

structure Reaches {settings : ServiceSettings} (hosts : List String) (waits : List (Wait settings))
    (k : Nat) (host : String) (v : Wait settings) : Prop where
  refused : Refused hosts waits k
  there : hosts[k]? = some host
  wait : waits[k]? = some v

/-- Which of the hosts of a domain are called, and how the attempt ends. -/
inductive Tour {settings : ServiceSettings} (domain : String) (hosts : List String)
    (waits : List (Wait settings)) : List String → Except AttemptError Unit → Prop
  | nowhere (none : hosts = []) : Tour domain hosts waits [] (.error (.noTargets domain))
  | exhausted {k : Nat} {host : String} {v : Wait settings} {e : TransportError}
      (reached : Reaches hosts waits k host v) (last : k + 1 = hosts.length)
      (calm : v.isCalm = true) (refused : v.result host = .error e) :
      Tour domain hosts waits hosts (.error (.allTargetsFailed e))
  | accepted {k : Nat} {host : String} {v : Wait settings}
      (reached : Reaches hosts waits k host v) (calm : v.isCalm = true)
      (taken : v.result host = .ok ()) : Tour domain hosts waits (hosts.take (k + 1)) (.ok ())
  | withheld {k : Nat} {host : String} {v : Wait settings}
      (reached : Reaches hosts waits k host v) (raised : v.before.raised = true) :
      Tour domain hosts waits (hosts.take k) (.error .cancelled)
  | interrupted {k : Nat} {host : String} {v : Wait settings}
      (reached : Reaches hosts waits k host v) (begun : v.before.raised = false)
      (raised : v.after.raised = true) :
      Tour domain hosts waits (hosts.take (k + 1)) (.error .cancelled)

section Tour

open Wait

variable {settings : ServiceSettings} {m : Message} {rest : List Message} {domain : String}
variable {hosts others : List String} {waits : List (Wait settings)} {k : Nat}
variable {host next : String} {v u : Wait settings}

theorem refused_succ :
    Refused (host :: hosts) (v :: waits) (k + 1) ↔ v.Refuses host ∧ Refused hosts waits k := by
  constructor
  · intro refused
    obtain ⟨host, v, there, wait, first⟩ := refused 0 (Nat.succ_pos k)
    cases there
    cases wait
    exact ⟨first, fun i small => refused (i + 1) (Nat.succ_lt_succ small)⟩
  · rintro ⟨first, refused⟩ i small
    cases i with
    | zero => exact ⟨host, v, rfl, rfl, first⟩
    | succ i => exact refused i (Nat.lt_of_succ_lt_succ small)

theorem refused_length (refused : Refused hosts waits k) : k ≤ waits.length := by
  cases k with
  | zero => exact Nat.zero_le _
  | succ k =>
    obtain ⟨host, v, -, found, -⟩ := refused k (Nat.lt_succ_self k)
    exact (List.getElem?_eq_some_iff.1 found).1

theorem Reaches.take_succ (reached : Reaches hosts waits k host v) :
    hosts.take (k + 1) = hosts.take k ++ [host] := by
  rw [List.take_add_one, reached.there]
  rfl

theorem passAll_withheld (raised : v.before.raised = true) :
    passAll (v :: waits) (.trying m (.delivering host others) rest) =
      settled settings m rest [] (.error .cancelled) := by
  simp [passAll, Rehearsal.isDecided, Rehearsal.isIdle, pass_delivering, raised, Attempt.failed,
    passAll_decided, settled]

theorem passAll_begun (begun : v.before.raised = false) :
    passAll (v :: waits) (.trying m (.delivering host others) rest) =
      let w := .trying m (if v.after.raised then .failed .cancelled
        else .handed others (v.result host)) rest
      (call settings m host :: (passAll waits w).1, (passAll waits w).2) := by
  simp [passAll, Rehearsal.isDecided, Rehearsal.isIdle, pass_delivering, begun, call]

theorem passAll_interrupted (begun : v.before.raised = false) (raised : v.after.raised = true) :
    passAll (v :: waits) (.trying m (.delivering host others) rest) =
      settled settings m rest [host] (.error .cancelled) := by
  simp [passAll_begun begun, raised, Attempt.failed, passAll_decided, settled]

theorem passAll_calm (calm : v.isCalm = true) :
    passAll (v :: waits) (.trying m (.delivering host others) rest) =
      let onward := passAll waits (.trying m (.handed others (v.result host)) rest)
      (call settings m host :: onward.1, onward.2) := by
  simp only [isCalm, Bool.and_eq_true, Bool.not_eq_true'] at calm
  simp [passAll_begun calm.1, calm.2]

theorem passAll_accepted (calm : v.isCalm = true) (taken : v.result host = .ok ()) :
    passAll (v :: waits) (.trying m (.delivering host others) rest) =
      settled settings m rest [host] (.ok ()) := by
  simp [passAll_calm calm, taken, Attempt.handed, passAll_decided, settled]

theorem passAll_exhausted {e : TransportError} (calm : v.isCalm = true)
    (refused : v.result host = .error e) :
    passAll (v :: waits) (.trying m (.delivering host []) rest) =
      settled settings m rest [host] (.error (.allTargetsFailed e)) := by
  simp [passAll_calm calm, refused, Attempt.handed, Attempt.failed, passAll_decided, settled]

theorem passAll_refused (refuses : v.Refuses host) :
    passAll (v :: waits) (.trying m (.delivering host (next :: others)) rest) =
      let onward := passAll waits (.trying m (.delivering next others) rest)
      (call settings m host :: onward.1, onward.2) := by
  obtain ⟨calm, e, refused⟩ := refuses
  rw [passAll_calm calm, refused]
  rfl

-- Behind the hosts that refuse, the attempt goes on as if it had begun there.
theorem passAll_behind (refused : Refused (host :: others) waits k)
    (there : (host :: others)[k]? = some next) :
    let onward := passAll (waits.drop k)
      (.trying m (.delivering next ((host :: others).drop (k + 1))) rest)
    passAll waits (.trying m (.delivering host others) rest) =
      (((host :: others).take k).map (call settings m) ++ onward.1, onward.2) := by
  induction k generalizing host others waits with
  | zero =>
    obtain rfl : host = next := by simpa using there
    simp
  | succ k ih =>
    obtain ⟨second, others, rfl⟩ : ∃ second more, others = second :: more := by
      cases others with
      | nil => simp at there
      | cons second more => exact ⟨second, more, rfl⟩
    obtain ⟨v, waits, rfl⟩ : ∃ v later, waits = v :: later := by
      cases waits with
      | nil => simpa using refused_length refused
      | cons v later => exact ⟨v, later, rfl⟩
    obtain ⟨first, later⟩ := refused_succ.1 refused
    rw [passAll_refused first, ih later (by simpa using there)]
    simp

theorem passAll_reached (reached : Reaches hosts waits k host v) :
    let onward := passAll (v :: waits.drop (k + 1))
      (.trying m (.delivering host (hosts.drop (k + 1))) rest)
    passAll waits (.trying m (.visit domain hosts) rest) =
      ((hosts.take k).map (call settings m) ++ onward.1, onward.2) := by
  obtain ⟨refused, there, wait⟩ := reached
  cases hosts with
  | nil => simp at there
  | cons first others =>
    obtain ⟨inside, rfl⟩ := List.getElem?_eq_some_iff.1 wait
    rw [← List.drop_eq_getElem_cons inside]
    exact passAll_behind refused there

theorem passAll_of_tour {called : List String} {outcome : Except AttemptError Unit}
    (tour : Tour domain hosts waits called outcome) :
    passAll waits (.trying m (.visit domain hosts) rest) =
      settled settings m rest called outcome := by
  cases tour with
  | nowhere none =>
    subst none
    exact passAll_decided waits _
  | @exhausted k host v e reached last calm refused =>
    have whole : (hosts.take k).map (call settings m) ++ [call settings m host] =
        hosts.map (call settings m) := by
      rw [← List.map_singleton, ← List.map_append, ← reached.take_succ, last, List.take_length]
    rw [passAll_reached reached, last, List.drop_length, passAll_exhausted calm refused]
    simp only [settled, List.map_cons, List.map_nil, whole]
  | accepted reached calm taken =>
    rw [passAll_reached reached, passAll_accepted calm taken, reached.take_succ]
    simp [settled]
  | withheld reached raised =>
    rw [passAll_reached reached, passAll_withheld raised]
    simp [settled]
  | interrupted reached begun raised =>
    rw [passAll_reached reached, passAll_interrupted begun raised, reached.take_succ]
    simp [settled]

theorem exists_refused (hosts : List String) (waits : List (Wait settings)) :
    ∃ k, Refused hosts waits k ∧ (k = hosts.length ∨
      ∃ host, hosts[k]? = some host ∧ ∀ v, waits[k]? = some v → ¬ v.Refuses host) := by
  have none (hosts : List String) (waits : List (Wait settings)) : Refused hosts waits 0 :=
    fun i small => absurd small (Nat.not_lt_zero i)
  induction hosts generalizing waits with
  | nil => exact ⟨0, none [] waits, .inl rfl⟩
  | cons host hosts ih =>
    cases waits with
    | nil => exact ⟨0, none _ _, .inr ⟨host, rfl, fun v found => by simp at found⟩⟩
    | cons v waits =>
      by_cases first : v.Refuses host
      · obtain ⟨k, refused, next⟩ := ih waits
        exact ⟨k + 1, refused_succ.2 ⟨first, refused⟩, next.imp (congrArg Nat.succ) id⟩
      · refine ⟨0, none _ _, .inr ⟨host, rfl, fun u found => ?_⟩⟩
        cases found
        exact first

theorem tour_or_waiting (m : Message) (rest : List Message) (domain : String)
    (hosts : List String) (waits : List (Wait settings)) :
    (∃ called outcome, Tour domain hosts waits called outcome) ∨
      waits.length < hosts.length ∧
        Rehearsal.isDecided (passAll waits (.trying m (.visit domain hosts) rest)).2 = false := by
  obtain ⟨k, refused, next⟩ := exists_refused hosts waits
  rcases next with rfl | ⟨host, there, free⟩
  · cases count : hosts.length with
    | zero => exact .inl ⟨_, _, .nowhere (List.eq_nil_of_length_eq_zero count)⟩
    | succ k =>
      rw [count] at refused
      obtain ⟨host, v, there, wait, calm, e, failed⟩ := refused k (Nat.lt_succ_self k)
      have before : Refused hosts waits k := fun i small => refused i (Nat.lt_succ_of_lt small)
      exact .inl ⟨_, _, .exhausted ⟨before, there, wait⟩ count.symm calm failed⟩
  cases wait : waits[k]? with
  | none =>
    have used : waits.length = k :=
      Nat.le_antisymm (List.getElem?_eq_none_iff.1 wait) (refused_length refused)
    obtain ⟨inside, -⟩ := List.getElem?_eq_some_iff.1 there
    refine .inr ⟨used ▸ inside, ?_⟩
    cases hosts with
    | nil => simp at there
    | cons first others =>
      rw [Attempt.visit, passAll_behind refused there, ← used, List.drop_length]
      rfl
  | some v =>
    have reached : Reaches hosts waits k host v := ⟨refused, there, wait⟩
    cases begun : v.before.raised with
    | true => exact .inl ⟨_, _, .withheld reached begun⟩
    | false =>
      cases ended : v.after.raised with
      | true => exact .inl ⟨_, _, .interrupted reached begun ended⟩
      | false =>
        have calm : v.isCalm = true := by simp [isCalm, begun, ended]
        cases result : v.result host with
        | ok => exact .inl ⟨_, _, .accepted reached calm result⟩
        | error e => exact absurd ⟨calm, e, result⟩ (free v wait)

end Tour

namespace Rehearsal

def Routes (opening : Rehearsal) (m : Message) (domain : String) : Prop :=
  opening.raised = false ∧
    ∃ recipient, m.addressees.head? = some recipient ∧ Mailbox.domain? recipient = some domain

def remembered? (opening : Rehearsal) (domain : String) : Option (List Exchanger) :=
  opening.service.hub.cache.fresh? domain opening.readClock.1.ticks

end Rehearsal

/-- The hosts that an attempt calls, and how it ends. -/
inductive Itinerary {settings : ServiceSettings} (opening : Rehearsal) (m : Message)
    (waits : List (Wait settings)) : List String → Except AttemptError Unit → Prop
  | stopped (raised : opening.raised = true) : Itinerary opening m waits [] (.error .cancelled)
  | unaddressed (calm : opening.raised = false) (none : m.addressees = []) :
      Itinerary opening m waits [] (.error .noRecipients)
  | unreadable {recipient : String} (calm : opening.raised = false)
      (first : m.addressees.head? = some recipient) (none : Mailbox.domain? recipient = none) :
      Itinerary opening m waits [] (.error (.invalidDomain recipient))
  | abandoned {domain : String} {v : Wait settings} (routed : opening.Routes m domain)
      (unknown : opening.remembered? domain = none) (asked : waits.head? = some v)
      (raised : v.isCalm = false) : Itinerary opening m waits [] (.error .cancelled)
  | unresolved {domain : String} {v : Wait settings} {e : DnsError}
      (routed : opening.Routes m domain) (unknown : opening.remembered? domain = none)
      (asked : waits.head? = some v) (calm : v.isCalm = true)
      (failed : v.answer? domain = some (.error e)) :
      Itinerary opening m waits [] (.error (.resolutionFailed e))
  | remembered {domain : String} {hosts : List Exchanger} {called : List String}
      {outcome : Except AttemptError Unit} (routed : opening.Routes m domain)
      (known : opening.remembered? domain = some hosts)
      (tour : Tour domain (hosts.map (·.host)) waits called outcome) :
      Itinerary opening m waits called outcome
  | answered {domain : String} {v : Wait settings} {hosts : List Exchanger} {called : List String}
      {outcome : Except AttemptError Unit} (routed : opening.Routes m domain)
      (unknown : opening.remembered? domain = none) (asked : waits.head? = some v)
      (calm : v.isCalm = true) (found : v.answer? domain = some (.ok hosts))
      (tour : Tour domain (hosts.map (·.host)) waits.tail called outcome) :
      Itinerary opening m waits called outcome

/-- The name servers answer, and there is a wait for every host that they or the cache name. -/
structure Sufficient {settings : ServiceSettings} (opening : Rehearsal) (m : Message)
    (waits : List (Wait settings)) : Prop where
  remembered : ∀ domain hosts, opening.Routes m domain → opening.remembered? domain = some hosts →
    hosts.length ≤ waits.length
  asked : ∀ domain, opening.Routes m domain → opening.remembered? domain = none →
    ∃ v, waits.head? = some v ∧ (v.isCalm = true → ∃ answer, v.answer? domain = some answer ∧
      ∀ hosts, answer = .ok hosts → hosts.length ≤ waits.tail.length)

section Itinerary

variable {settings : ServiceSettings} {opening : Rehearsal} {m : Message} {rest : List Message}
variable {waits : List (Wait settings)} {domain : String}

def Wait.attempt (opening : Rehearsal) (m : Message) (rest : List Message)
    (waits : List (Wait settings)) : List Handover × Worker :=
  passAll waits (opening.step (.turning m rest) .proceed).2

theorem step_turning :
    (opening.step (.turning m rest) .proceed).2 =
      .trying m (Attempt.start opening.raised opening.service.hub.cache
        opening.readClock.1.ticks m).1 rest :=
  rfl

theorem start_routed (routed : opening.Routes m domain) :
    (Attempt.start opening.raised opening.service.hub.cache opening.readClock.1.ticks m).1 =
      match opening.remembered? domain with
      | some hosts => .turnTo domain hosts
      | none => .resolving domain := by
  obtain ⟨calm, recipient, first, readable⟩ := routed
  simp only [Attempt.start, calm, first, readable, ExchangerCache.lookup, Rehearsal.remembered?]
  cases opening.service.hub.cache.fresh? domain opening.readClock.1.ticks <;> rfl

theorem attempt_remembered (routed : opening.Routes m domain) {hosts : List Exchanger}
    (known : opening.remembered? domain = some hosts) :
    Wait.attempt opening m rest waits =
      Wait.passAll waits (.trying m (.visit domain (hosts.map (·.host))) rest) := by
  rw [Wait.attempt, step_turning, start_routed routed, known, ← Attempt.turnTo_eq]

theorem attempt_asking (routed : opening.Routes m domain)
    (unknown : opening.remembered? domain = none) (waits : List (Wait settings)) :
    Wait.attempt opening m rest waits = Wait.passAll waits (.trying m (.resolving domain) rest) := by
  rw [Wait.attempt, step_turning, start_routed routed, unknown]

theorem passAll_abandoned {v : Wait settings} (raised : v.isCalm = false)
    (later : List (Wait settings)) :
    Wait.passAll (v :: later) (.trying m (.resolving domain) rest) =
      settled settings m rest [] (.error .cancelled) := by
  simp [Wait.passAll, Rehearsal.isDecided, Rehearsal.isIdle, Wait.pass_resolving, raised,
    Attempt.failed, Wait.passAll_decided, settled]

theorem passAll_told {v : Wait settings} (calm : v.isCalm = true)
    {answer : Except DnsError (List Exchanger)} (heard : v.answer? domain = some answer)
    (later : List (Wait settings)) :
    Wait.passAll (v :: later) (.trying m (.resolving domain) rest) =
      Wait.passAll later (.trying m (Wait.told domain answer) rest) := by
  obtain ⟨heard, cache, resolved⟩ := Wait.resolved_of_answer heard
  simp [Wait.passAll, Rehearsal.isDecided, Rehearsal.isIdle, Wait.pass_resolving, calm, heard,
    resolved]

-- Either no answer comes, or the one that comes breaks the attempt off.
theorem passAll_untold {v : Wait settings} (calm : v.isCalm = true)
    (unheard : v.answer? domain = none) (later : List (Wait settings)) :
    Rehearsal.isDecided
      (Wait.passAll (v :: later) (.trying m (.resolving domain) rest)).2 = false := by
  cases heard : v.heard? domain with
  | none =>
    simp [Wait.passAll, Rehearsal.isDecided, Rehearsal.isIdle, Wait.pass_resolving, calm, heard]
  | some answer =>
    have lost : v.resolved? domain answer = none := by
      simpa [Wait.answer?, heard, Option.filter_some] using unheard
    simp [Wait.passAll, Rehearsal.isDecided, Rehearsal.isIdle, Wait.pass_resolving, calm, heard,
      lost, Wait.passAll_aborted]

theorem attempt_of_itinerary {called : List String} {outcome : Except AttemptError Unit}
    (itinerary : Itinerary opening m waits called outcome) :
    Wait.attempt opening m rest waits = settled settings m rest called outcome := by
  have ended (a : Except AttemptError Unit)
      (decided : (Attempt.start opening.raised opening.service.hub.cache
        opening.readClock.1.ticks m).1 = .decided a) :
      Wait.attempt opening m rest waits = settled settings m rest [] a := by
    rw [Wait.attempt, step_turning, decided, Wait.passAll_decided]
    rfl
  cases itinerary with
  | stopped raised =>
    refine ended _ ?_
    simp [Attempt.start, raised, Attempt.failed]
  | unaddressed calm none =>
    refine ended _ ?_
    simp [Attempt.start, calm, none, Attempt.failed]
  | unreadable calm first none =>
    refine ended _ ?_
    simp [Attempt.start, calm, first, none, Attempt.failed]
  | abandoned routed unknown asked raised =>
    obtain ⟨later, rfl⟩ := List.head?_eq_some_iff.1 asked
    rw [attempt_asking routed unknown, passAll_abandoned raised]
  | unresolved routed unknown asked calm failed =>
    obtain ⟨later, rfl⟩ := List.head?_eq_some_iff.1 asked
    rw [attempt_asking routed unknown, passAll_told calm failed]
    exact Wait.passAll_decided later _
  | remembered routed known tour =>
    rw [attempt_remembered routed known]
    exact passAll_of_tour tour
  | answered routed unknown asked calm found tour =>
    obtain ⟨later, rfl⟩ := List.head?_eq_some_iff.1 asked
    rw [attempt_asking routed unknown, passAll_told calm found]
    exact passAll_of_tour tour

def Wait.IsPending (opening : Rehearsal) (m : Message) (rest : List Message)
    (waits : List (Wait settings)) : Prop :=
  Rehearsal.isDecided (attempt opening m rest waits).2 = false ∧ ¬ Sufficient opening m waits

theorem Sufficient.answer {v : Wait settings} {later : List (Wait settings)}
    (enough : Sufficient opening m (v :: later)) (routed : opening.Routes m domain)
    (unknown : opening.remembered? domain = none) (calm : v.isCalm = true) :
    ∃ answer, v.answer? domain = some answer ∧
      ∀ hosts, answer = .ok hosts → hosts.length ≤ later.length := by
  obtain ⟨_, asked, told⟩ := enough.asked domain routed unknown
  cases asked
  exact told calm

theorem remembered_or_pending (rest : List Message) (waits : List (Wait settings))
    (routed : opening.Routes m domain) {hosts : List Exchanger}
    (known : opening.remembered? domain = some hosts) :
    (∃ called outcome, Itinerary opening m waits called outcome) ∨
      Wait.IsPending opening m rest waits := by
  rcases tour_or_waiting m rest domain (hosts.map (·.host)) waits with
    ⟨called, outcome, tour⟩ | ⟨short, waiting⟩
  · exact .inl ⟨called, outcome, .remembered routed known tour⟩
  · rw [List.length_map] at short
    rw [Wait.IsPending, attempt_remembered routed known]
    exact .inr ⟨waiting, fun enough =>
      absurd (enough.remembered domain hosts routed known) (Nat.not_le_of_lt short)⟩

theorem asked_or_pending (rest : List Message) (waits : List (Wait settings))
    (routed : opening.Routes m domain) (unknown : opening.remembered? domain = none) :
    (∃ called outcome, Itinerary opening m waits called outcome) ∨
      Wait.IsPending opening m rest waits := by
  cases waits with
  | nil =>
    refine .inr ⟨?_, fun enough => ?_⟩
    · rw [Wait.attempt, step_turning, start_routed routed, unknown]
      rfl
    · obtain ⟨v, asked, -⟩ := enough.asked domain routed unknown
      simp at asked
  | cons v later =>
  cases calm : v.isCalm with
  | false => exact .inl ⟨_, _, .abandoned routed unknown rfl calm⟩
  | true =>
  rw [Wait.IsPending, attempt_asking routed unknown]
  cases answer : v.answer? domain with
  | none =>
    refine .inr ⟨passAll_untold calm answer later, fun enough => ?_⟩
    obtain ⟨a, found, -⟩ := enough.answer routed unknown calm
    rw [answer] at found
    cases found
  | some answered =>
  cases answered with
  | error e => exact .inl ⟨_, _, .unresolved routed unknown rfl calm answer⟩
  | ok hosts =>
    rcases tour_or_waiting m rest domain (hosts.map (·.host)) later with
      ⟨called, outcome, tour⟩ | ⟨short, waiting⟩
    · exact .inl ⟨called, outcome, .answered routed unknown rfl calm answer tour⟩
    · rw [List.length_map] at short
      rw [passAll_told calm answer]
      refine .inr ⟨waiting, fun enough => ?_⟩
      obtain ⟨a, found, covered⟩ := enough.answer routed unknown calm
      rw [answer] at found
      cases found
      exact absurd (covered hosts rfl) (Nat.not_le_of_lt short)

theorem itinerary_or_pending (opening : Rehearsal) (m : Message) (rest : List Message)
    (waits : List (Wait settings)) :
    (∃ called outcome, Itinerary opening m waits called outcome) ∨
      Wait.IsPending opening m rest waits := by
  cases calm : opening.raised with
  | true => exact .inl ⟨_, _, .stopped calm⟩
  | false =>
  cases first : m.addressees.head? with
  | none => exact .inl ⟨_, _, .unaddressed calm (List.head?_eq_none_iff.1 first)⟩
  | some recipient =>
  cases readable : Mailbox.domain? recipient with
  | none => exact .inl ⟨_, _, .unreadable calm first readable⟩
  | some domain =>
  have routed : opening.Routes m domain := ⟨calm, recipient, first, readable⟩
  cases known : opening.remembered? domain with
  | some hosts => exact remembered_or_pending rest waits routed known
  | none => exact asked_or_pending rest waits routed known

/-- An attempt ends, and it does so exactly as its itinerary says. A host that does not answer in
time counts as one that timed out. -/
theorem attempt_ends_iff {settings : ServiceSettings} (opening : Rehearsal) (m : Message)
    (rest : List Message) (waits : List (Wait settings)) :
    (∀ called outcome, Wait.attempt opening m rest waits = settled settings m rest called outcome ↔
      Itinerary opening m waits called outcome) ∧
    (Sufficient opening m waits → ∃ called outcome, Itinerary opening m waits called outcome) ∧
    ∀ v ∈ waits, ∀ host, ¬ (v.deed host).Answers settings.connectionTimeout →
      v.result host = .error (.timeout settings.connectionTimeout) := by
  refine ⟨fun called outcome => ⟨fun run => ?_, attempt_of_itinerary⟩, fun enough => ?_,
    fun v _ host quiet => ?_⟩
  · rcases itinerary_or_pending opening m rest waits with
      ⟨called', outcome', itinerary⟩ | ⟨waiting, -⟩
    · obtain ⟨rfl, rfl⟩ := settled_inj (run.symm.trans (attempt_of_itinerary itinerary))
      exact itinerary
    · rw [run] at waiting
      cases waiting
  · exact (itinerary_or_pending opening m rest waits).resolve_right fun pending =>
      pending.2 enough
  · exact HostScript.outcome_of_not_answers quiet

def silentFirst : Rehearsal :=
  .new ⟨.ofList [("example.org", .hosts [⟨"mx1.example.org", 10⟩, ⟨"mx2.example.org", 20⟩])],
      .ofList [("mx1.example.org", [.silent])]⟩
    (.new .default (.new 10 .zero)) .min true

def quietWait : Wait silentFirst.service.settings := ⟨silentFirst, silentFirst, rfl⟩

-- The first wait is for the name servers, the others are for the two hosts.
theorem silent_host_is_passed_over :
    let note := Message.new "m" "a@example.com" ["b@example.org"] "s" .min
    let waits := [quietWait, quietWait, quietWait]
    Sufficient silentFirst note waits ∧
      Wait.attempt silentFirst note [] waits = settled silentFirst.service.settings note []
        ["mx1.example.org", "mx2.example.org"] (.ok ()) ∧
      quietWait.result "mx1.example.org" =
        .error (.timeout silentFirst.service.settings.connectionTimeout) := by
  intro note waits
  have routed : silentFirst.Routes note "example.org" := ⟨rfl, "b@example.org", rfl, by decide⟩
  have answer : quietWait.answer? "example.org" =
      some (.ok [⟨"mx1.example.org", 10⟩, ⟨"mx2.example.org", 20⟩]) := rfl
  have unknown : silentFirst.remembered? "example.org" = none := rfl
  obtain ⟨ends, -, timeout⟩ := attempt_ends_iff silentFirst note [] waits
  have silent : quietWait.result "mx1.example.org" =
      .error (.timeout silentFirst.service.settings.connectionTimeout) :=
    timeout quietWait (by simp [waits]) "mx1.example.org" id
  have second : Reaches ["mx1.example.org", "mx2.example.org"] waits.tail 1 "mx2.example.org"
      quietWait := by
    refine ⟨fun i small => ?_, rfl, rfl⟩
    obtain rfl : i = 0 := by omega
    exact ⟨"mx1.example.org", quietWait, rfl, rfl, rfl, _, silent⟩
  have itinerary :
      Itinerary silentFirst note waits ["mx1.example.org", "mx2.example.org"] (.ok ()) :=
    .answered routed unknown rfl rfl answer (.accepted second rfl rfl)
  have only : ∀ domain, silentFirst.Routes note domain → domain = "example.org" := by
    rintro domain ⟨-, recipient, first, readable⟩
    cases first
    obtain ⟨-, recipient, first, readable'⟩ := routed
    cases first
    exact Option.some.inj (readable.symm.trans readable')
  refine ⟨⟨fun domain hosts there known => ?_, fun domain there _ => ?_⟩, (ends _ _).2 itinerary,
    silent⟩
  · rw [only domain there, unknown] at known
    cases known
  · rw [only domain there]
    refine ⟨quietWait, rfl, fun _ => ⟨_, answer, fun hosts found => ?_⟩⟩
    cases found
    decide

end Itinerary

end MailRelay
