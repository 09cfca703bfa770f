import MailRelay.Proofs.Delivery.ExchangerCache
import Mathlib.Data.List.Basic
import Mathlib.Data.List.Induction

set_option autoImplicit false

namespace MailRelay

inductive Inquiry where
  | found (domain : String) (hosts : List Exchanger)
  | waiting (domain name : String)
  | answered (domain name : String) (answer : Except DnsError (List Exchanger))
  | dropped (domain name : String)

namespace Inquiry

def domain : Inquiry → String
  | found domain _ | waiting domain _ | answered domain _ _ | dropped domain _ => domain

def question? : Inquiry → Option String
  | found _ _ => none
  | waiting _ name | answered _ name _ | dropped _ name => some name

def result? : Inquiry → Option (Except DnsError (List Exchanger))
  | found _ hosts => some (.ok hosts)
  | answered _ _ answer => some answer
  | waiting _ _ | dropped _ _ => none

end Inquiry

inductive CacheEvent where
  | ask (domain : String)
  | answer (i : Nat) (answer : Except DnsError (List Exchanger))
  | drop (i : Nat)
  | purge

namespace CacheEvent

def isAsk : CacheEvent → Bool
  | ask _ => true
  | answer _ _ | drop _ | purge => false

def isPurge : CacheEvent → Bool
  | purge => true
  | ask _ | answer _ _ | drop _ => false

end CacheEvent

structure Storing where
  name : String
  hosts : List Exchanger
  moment : Nat

structure Inquiries where
  cache : ExchangerCache
  calls : List Inquiry
  stored : List Storing

namespace Inquiries

def opening (ttl : Duration) : Inquiries := ⟨.new ttl, [], []⟩

def latest? (s : Inquiries) (name : String) : Option Storing := s.stored.find? (·.name = name)

def questions (s : Inquiries) : List String := s.calls.filterMap Inquiry.question?

/-- What an event makes of the calls; none if it cannot happen. Only a call that waits is answered
or dropped, and it is dropped too if the cache cannot take its answer. -/
def step (s : Inquiries) (now : Nat) : CacheEvent → Option Inquiries
  | .ask domain =>
    match s.cache.lookup domain now with
    | (some hosts, cache) => some { s with cache, calls := s.calls ++ [.found domain hosts] }
    | (none, cache) =>
      some { s with cache, calls := s.calls ++ [.waiting domain (ExchangerCache.key domain)] }
  | .answer i answer =>
    match s.calls[i]? with
    | some (.waiting domain name) =>
      match Attempt.resolved? s.cache now domain answer with
      | some (_, cache) =>
        let storing := answer.toOption.map (⟨ExchangerCache.key domain, ·, now⟩)
        some {
          cache
          calls := s.calls.set i (.answered domain name answer)
          stored := storing.toList ++ s.stored }
      | none => some { s with calls := s.calls.set i (.dropped domain name) }
    | _ => none
  | .drop i =>
    match s.calls[i]? with
    | some (.waiting domain name) => some { s with calls := s.calls.set i (.dropped domain name) }
    | _ => none
  | .purge => some { s with cache := (s.cache.purge now).1 }

def run (s : Inquiries) (events : List (Nat × CacheEvent)) : Option Inquiries :=
  events.foldlM (fun s event => s.step event.1 event.2) s

-- The clock does not go back.
def Timely (events : List (Nat × CacheEvent)) : Prop := (events.map (·.1)).Pairwise (· ≤ ·)

instance (events : List (Nat × CacheEvent)) : Decidable (Timely events) :=
  inferInstanceAs (Decidable (List.Pairwise ..))

inductive Deed (now : Nat) (s : Inquiries) : CacheEvent → Inquiries → Prop where
  | found (domain : String) (hosts : List Exchanger)
      (fresh : s.cache.fresh? domain now = some hosts) :
    Deed now s (.ask domain)
      { s with
        cache := { s.cache with hits := s.cache.hits + 1 }
        calls := s.calls ++ [.found domain hosts] }
  | asked (domain : String) (stale : s.cache.fresh? domain now = none) :
    Deed now s (.ask domain)
      { s with
        cache := { s.cache with misses := s.cache.misses + 1 }
        calls := s.calls ++ [.waiting domain (ExchangerCache.key domain)] }
  | learned {i : Nat} {name : String} (domain : String) (hosts : List Exchanger)
      (placed : s.calls[i]? = some (.waiting domain name)) {cache : ExchangerCache}
      (kept : s.cache.store? domain hosts now = some cache) :
    Deed now s (.answer i (.ok hosts))
      { cache
        calls := s.calls.set i (.answered domain name (.ok hosts))
        stored := ⟨ExchangerCache.key domain, hosts, now⟩ :: s.stored }
  | broken {i : Nat} {domain name : String} (hosts : List Exchanger)
      (placed : s.calls[i]? = some (.waiting domain name)) :
    Deed now s (.answer i (.ok hosts)) { s with calls := s.calls.set i (.dropped domain name) }
  | failed {i : Nat} {domain name : String} (e : DnsError)
      (placed : s.calls[i]? = some (.waiting domain name)) :
    Deed now s (.answer i (.error e))
      { s with calls := s.calls.set i (.answered domain name (.error e)) }
  | dropped {i : Nat} {domain name : String} (placed : s.calls[i]? = some (.waiting domain name)) :
    Deed now s (.drop i) { s with calls := s.calls.set i (.dropped domain name) }
  | purged : Deed now s .purge { s with cache := (s.cache.purge now).1 }

variable {s s' : Inquiries} {now : Nat} {e : CacheEvent}

theorem deed_of_step (stepped : s.step now e = some s') : s.Deed now e s' := by
  cases e with
  | ask domain =>
    rw [step, ExchangerCache.lookup_eq] at stepped
    cases known : s.cache.fresh? domain now with
    | some hosts =>
      simp only [known] at stepped
      cases stepped
      exact .found domain hosts known
    | none =>
      simp only [known] at stepped
      cases stepped
      exact .asked domain known
  | answer i answer =>
    simp only [step] at stepped
    split at stepped
    · next domain name placed =>
      cases answer with
      | error e =>
        cases stepped
        exact .failed e placed
      | ok hosts =>
        simp only [Attempt.resolved?] at stepped
        cases kept : s.cache.store? domain hosts now with
        | none =>
          rw [kept] at stepped
          cases stepped
          exact .broken hosts placed
        | some cache =>
          rw [kept] at stepped
          cases stepped
          exact .learned domain hosts placed kept
    · cases stepped
  | drop i =>
    simp only [step] at stepped
    split at stepped
    · next domain name placed =>
      cases stepped
      exact .dropped placed
    · cases stepped
  | purge =>
    cases stepped
    exact .purged

-- What a call has asked the resolver for does not depend on what became of it.
theorem questions_set {calls : List Inquiry} {i : Nat} {call call' : Inquiry}
    (placed : calls[i]? = some call) (same : call'.question? = call.question?) :
    (calls.set i call').filterMap Inquiry.question? = calls.filterMap Inquiry.question? := by
  induction calls generalizing i with
  | nil => rfl
  | cons first rest ih =>
    cases i with
    | zero =>
      obtain rfl : first = call := by simpa using placed
      rw [List.set_cons_zero, List.filterMap_cons, List.filterMap_cons, same]
    | succ i =>
      rw [List.set_cons_succ, List.filterMap_cons, List.filterMap_cons, ih (by simpa using placed)]

/-- Every lookup is counted, and every question to the resolver is a miss. -/
structure Counted (events : List (Nat × CacheEvent)) (s : Inquiries) : Prop where
  lookups : s.calls.length = events.countP (·.2.isAsk)
  all : s.cache.hits + s.cache.misses = s.calls.length
  misses : s.cache.misses = s.questions.length

namespace Counted

variable {events : List (Nat × CacheEvent)} (counted : s.Counted events)

include counted

theorem settle {i : Nat} {call call' : Inquiry} (placed : s.calls[i]? = some call)
    (same : call'.question? = call.question?) (silent : e.isAsk = false) (stored : List Storing)
    {cache : ExchangerCache} (hits : cache.hits = s.cache.hits)
    (misses : cache.misses = s.cache.misses) :
    Counted (events ++ [(now, e)]) ⟨cache, s.calls.set i call', stored⟩ where
  lookups := by simp [counted.lookups, silent]
  all := by rw [hits, misses, counted.all, List.length_set]
  misses := by
    rw [misses, counted.misses, questions, questions, questions_set placed same]

theorem call (call : Inquiry) (asks : e.isAsk = true) {cache : ExchangerCache}
    (all : cache.hits + cache.misses = s.cache.hits + s.cache.misses + 1)
    (misses : cache.misses = s.cache.misses + call.question?.toList.length) :
    Counted (events ++ [(now, e)]) ⟨cache, s.calls ++ [call], s.stored⟩ where
  lookups := by simp [counted.lookups, asks]
  all := by rw [all, counted.all, List.length_append, List.length_singleton]
  misses := by
    have question : [call].filterMap Inquiry.question? = call.question?.toList := by
      cases asked : call.question? <;> simp [asked]
    rw [misses, counted.misses, questions, questions, List.filterMap_append, List.length_append,
      question]

theorem deed (deed : s.Deed now e s') : s'.Counted (events ++ [(now, e)]) := by
  cases deed with
  | found domain hosts fresh => exact counted.call _ rfl (Nat.succ_add ..) rfl
  | asked domain stale => exact counted.call _ rfl rfl rfl
  | learned domain hosts placed kept =>
    obtain ⟨-, hits, misses⟩ := ExchangerCache.fields_store kept
    apply counted.settle placed _ _ _ hits misses <;> rfl
  | broken hosts placed => apply counted.settle placed <;> rfl
  | failed e placed => apply counted.settle placed <;> rfl
  | dropped placed => apply counted.settle placed <;> rfl
  | purged => exact ⟨by simp [counted.lookups, CacheEvent.isAsk], counted.all, counted.misses⟩

/-- The counters fit into the 64 bits that they have, as long as the number of lookups does. -/
theorem lt_size (few : s.calls.length < UInt64.size) :
    s.cache.hits < UInt64.size ∧ s.cache.misses < UInt64.size := by
  have all := counted.all
  omega

end Counted

/-- From `now` on the cache gives for a domain what was stored last for it, as long as that is
younger than the time to live. -/
structure Remembers (ttl : Duration) (now : Nat) (s : Inquiries) : Prop where
  lasts : s.cache.ttl = ttl
  latest : ∀ later, now ≤ later → ∀ domain, s.cache.fresh? domain later =
    ((s.latest? (ExchangerCache.key domain)).filter (later < ·.moment + ttl.nanos)).map (·.hosts)

theorem Remembers.deed {ttl : Duration} {before : Nat} (remembers : s.Remembers ttl before)
    (passes : before ≤ now) (deed : s.Deed now e s') : s'.Remembers ttl now := by
  obtain ⟨lasts, latest⟩ := remembers
  have onward (later : Nat) (after : now ≤ later) := latest later (Nat.le_trans passes after)
  cases deed with
  | found | asked | broken | failed | dropped => exact ⟨lasts, onward⟩
  | learned domain hosts placed kept =>
    have stays := (ExchangerCache.fields_store kept).1
    refine ⟨stays.trans lasts, fun later after other => ?_⟩
    rw [ExchangerCache.fresh?_store kept, onward later after, lasts]
    by_cases same : ExchangerCache.key other = ExchangerCache.key domain
    · by_cases young : later < now + ttl.nanos
      · simp [latest?, same, young, Option.filter_some]
      · simp [latest?, same, young, Option.filter_some]
    · simp [latest?, same, Ne.symm same]
  | purged =>
    refine ⟨lasts, fun later after domain => ?_⟩
    rw [ExchangerCache.fresh?_purge _ after]
    exact onward later after domain

structure Sourced (events : List (Nat × CacheEvent)) (s : Inquiries) : Prop where
  named : ∀ domain name, .waiting domain name ∈ s.calls → name = ExchangerCache.key domain
  learned : ∀ last ∈ s.stored, ∃ told i domain, (told, .answer i (.ok last.hosts)) ∈ events ∧
    s.calls[i]? = some (.answered domain last.name (.ok last.hosts))
  returned : ∀ call ∈ s.calls, ∀ hosts, call.result? = some (.ok hosts) →
    ∃ last ∈ s.stored, last.name = ExchangerCache.key call.domain ∧ last.hosts = hosts

namespace Sourced

variable {events : List (Nat × CacheEvent)} (sourced : s.Sourced events)

include sourced

-- A new call comes last, so that the others keep their numbers.
theorem call (event : Nat × CacheEvent) (call : Inquiry) (cache : ExchangerCache)
    (named : ∀ domain name, call = .waiting domain name → name = ExchangerCache.key domain)
    (returned : ∀ hosts, call.result? = some (.ok hosts) →
      ∃ last ∈ s.stored, last.name = ExchangerCache.key call.domain ∧ last.hosts = hosts) :
    Sourced (events ++ [event]) ⟨cache, s.calls ++ [call], s.stored⟩ where
  named domain name member := by
    rcases List.mem_append.1 member with old | new
    · exact sourced.named domain name old
    · exact named domain name (List.mem_singleton.1 new).symm
  learned last member := by
    obtain ⟨told, i, domain, heard, placed⟩ := sourced.learned last member
    have within := (List.getElem?_eq_some_iff.1 placed).1
    exact ⟨told, i, domain, List.mem_append_left _ heard,
      (List.getElem?_append_left within).trans placed⟩
  returned other member := by
    rcases List.mem_append.1 member with old | new
    · exact sourced.returned other old
    · rw [List.mem_singleton.1 new]
      exact returned

theorem settle {event : Nat × CacheEvent} {i : Nat} {domain name : String} {call : Inquiry}
    (placed : s.calls[i]? = some (.waiting domain name)) (cache : ExchangerCache)
    (storings : List Storing) (ended : ∀ domain name, call ≠ .waiting domain name)
    (learned : ∀ last ∈ storings, ∃ told domain,
      (told, .answer i (.ok last.hosts)) ∈ events ++ [event] ∧
        call = .answered domain last.name (.ok last.hosts))
    (returned : ∀ hosts, call.result? = some (.ok hosts) →
      ∃ last ∈ storings, last.name = ExchangerCache.key call.domain ∧ last.hosts = hosts) :
    Sourced (events ++ [event]) ⟨cache, s.calls.set i call, storings ++ s.stored⟩ where
  named domain name member := by
    rcases List.mem_or_eq_of_mem_set member with old | new
    · exact sourced.named domain name old
    · exact absurd new.symm (ended domain name)
  learned last member := by
    rcases List.mem_append.1 member with new | old
    · obtain ⟨told, domain, heard, rfl⟩ := learned last new
      have within := (List.getElem?_eq_some_iff.1 placed).1
      exact ⟨told, i, domain, heard, List.getElem?_set_self within⟩
    · obtain ⟨told, j, domain, heard, answered⟩ := sourced.learned last old
      -- That call does not wait, so that it is another one.
      have other : i ≠ j := by
        rintro rfl
        cases placed.symm.trans answered
      exact ⟨told, j, domain, List.mem_append_left _ heard,
        (List.getElem?_set_ne other).trans answered⟩
  returned other member hosts result := by
    rcases List.mem_or_eq_of_mem_set member with old | rfl
    · obtain ⟨last, stored, same⟩ := sourced.returned other old hosts result
      exact ⟨last, List.mem_append_right _ stored, same⟩
    · obtain ⟨last, stored, same⟩ := returned hosts result
      exact ⟨last, List.mem_append_left _ stored, same⟩

theorem deed {ttl : Duration} (remembers : s.Remembers ttl now) (deed : s.Deed now e s') :
    s'.Sourced (events ++ [(now, e)]) := by
  cases deed with
  | found domain hosts fresh =>
    apply sourced.call _ _ _ (by simp)
    intro hosts' returned
    cases returned
    rw [remembers.latest now (Nat.le_refl now)] at fresh
    obtain ⟨last, young, same⟩ := Option.map_eq_some_iff.1 fresh
    obtain ⟨latest, -⟩ := Option.filter_eq_some_iff.1 young
    rw [latest?] at latest
    have named := List.find?_some latest
    exact ⟨last, List.mem_of_find?_eq_some latest, of_decide_eq_true named, same⟩
  | asked domain stale =>
    apply sourced.call
    · intro domain name same
      cases same
      rfl
    · intro hosts returned
      cases returned
  | @learned i name domain hosts placed cache kept =>
    have lower := sourced.named domain name (List.mem_of_getElem? placed)
    apply sourced.settle placed _ [⟨ExchangerCache.key domain, hosts, now⟩] (by simp)
    · intro last member
      rw [List.mem_singleton.1 member, ← lower]
      exact ⟨now, domain, by simp, rfl⟩
    · intro hosts' returned
      cases returned
      exact ⟨_, List.mem_singleton_self _, rfl, rfl⟩
  | broken hosts placed | failed e placed =>
    apply sourced.settle placed _ [] (by simp) nofun
    intro hosts returned
    cases returned
  | dropped placed =>
    apply sourced.settle placed _ [] (by simp) nofun
    intro hosts returned
    cases returned
  | purged =>
    refine ⟨sourced.named, fun last member => ?_, sourced.returned⟩
    obtain ⟨told, i, domain, heard, placed⟩ := sourced.learned last member
    exact ⟨told, i, domain, List.mem_append_left _ heard, placed⟩

end Sourced

/-- What the callers, the resolver and a reader of the counters can see. -/
def seen (s : Inquiries) : List Inquiry × Nat × Nat := (s.calls, s.cache.hits, s.cache.misses)

def withoutPurges (events : List (Nat × CacheEvent)) : List (Nat × CacheEvent) :=
  events.filter (!·.2.isPurge)

structure Indistinct (now : Nat) (s t : Inquiries) : Prop where
  cache : s.cache.Alike now t.cache
  calls : s.calls = t.calls

namespace Indistinct

variable {t : Inquiries} (indistinct : Indistinct now s t)

include indistinct

theorem seen_eq : s.seen = t.seen := by
  rw [seen, seen, indistinct.calls, indistinct.cache.hits, indistinct.cache.misses]

theorem step (e : CacheEvent) (stays : e.isPurge = false) :
    Option.Rel (Indistinct now) (s.step now e) (t.step now e) := by
  obtain ⟨alike, calls⟩ := indistinct
  cases e with
  | ask domain =>
    obtain ⟨same, kept⟩ := alike.lookup domain
    simp only [Inquiries.step]
    generalize s.cache.lookup domain now = first at same kept ⊢
    generalize t.cache.lookup domain now = second at same kept ⊢
    obtain ⟨found, cache⟩ := first
    obtain ⟨found, cache'⟩ := second
    cases same
    cases found with
    | none => exact .some ⟨kept, by rw [calls]⟩
    | some hosts => exact .some ⟨kept, by rw [calls]⟩
  | answer i answer =>
    simp only [Inquiries.step, calls]
    split
    · next domain name placed =>
      have related := alike.resolved domain answer
      generalize Attempt.resolved? s.cache now domain answer = first at related ⊢
      generalize Attempt.resolved? t.cache now domain answer = second at related ⊢
      cases related with
      | none => exact .some ⟨alike, rfl⟩
      | some kept => exact .some ⟨kept, rfl⟩
    · exact .none
  | drop i =>
    simp only [Inquiries.step, calls]
    split
    · exact .some ⟨alike, rfl⟩
    · exact .none
  | purge => cases stays

theorem run {events : List (Nat × CacheEvent)} (timely : Timely events)
    (after : ∀ event ∈ events, now ≤ event.1) :
    (s.run events).map seen = (t.run (withoutPurges events)).map seen := by
  induction events generalizing s t now with
  | nil => exact congrArg some indistinct.seen_eq
  | cons event rest ih =>
    obtain ⟨moment, e⟩ := event
    obtain ⟨least, ordered⟩ := List.pairwise_cons.1 timely
    have onward : ∀ event ∈ rest, moment ≤ event.1 :=
      fun event member => least _ (List.mem_map_of_mem member)
    have passes : now ≤ moment := after _ List.mem_cons_self
    have later : Indistinct moment s t := ⟨indistinct.cache.mono passes, indistinct.calls⟩
    by_cases purges : e.isPurge
    · cases e with
      | purge => exact ih ⟨later.cache.purge, later.calls⟩ ordered onward
      | ask | answer | drop => cases purges
    · have stays : e.isPurge = false := by simpa using purges
      have front : withoutPurges ((moment, e) :: rest) = (moment, e) :: withoutPurges rest := by
        simp [withoutPurges, stays]
      have next := later.step e stays
      rw [front, Inquiries.run, Inquiries.run, List.foldlM_cons, List.foldlM_cons]
      generalize s.step moment e = first at next ⊢
      generalize t.step moment e = second at next ⊢
      cases next with
      | none => rfl
      | some kept => exact ih kept ordered onward

end Indistinct

/-- Two runs that differ only in when expired entries are purged, and how often, look the same: the
callers get the same, the resolver is asked the same, and as many lookups hit and miss. -/
theorem purging_is_invisible {ttl : Duration} {first second : List (Nat × CacheEvent)}
    (timely : Timely first) (timely' : Timely second)
    (same : withoutPurges first = withoutPurges second) :
    ((opening ttl).run first).map seen = ((opening ttl).run second).map seen := by
  have start : Indistinct 0 (opening ttl) (opening ttl) := ⟨.refl 0 _, rfl⟩
  have left := start.run timely fun _ _ => Nat.zero_le _
  have right := start.run timely' fun _ _ => Nat.zero_le _
  rw [left, right, same]

-- The entry is purged in one run and replaced while it stands in the other.
theorem expired_entry_is_asked_for_again :
    let a : Exchanger := ⟨"a", 10⟩
    let first : List (Nat × CacheEvent) :=
      [(0, .ask "x"), (1, .answer 0 (.ok [a])), (11, .purge), (11, .ask "X"), (12, .drop 1)]
    let second : List (Nat × CacheEvent) :=
      [(0, .ask "x"), (1, .answer 0 (.ok [a])), (11, .ask "X"), (12, .drop 1), (12, .purge)]
    let seenAtLast := some ([.answered "x" "x" (.ok [a]), .dropped "X" "x"], 0, 2)
    Timely first ∧ Timely second ∧ withoutPurges first = withoutPurges second ∧
      ((opening (.ofNanos 10)).run first).map seen = seenAtLast ∧
      ((opening (.ofNanos 10)).run second).map seen = seenAtLast := by
  intro a first second seenAtLast
  have timely : Timely first := by decide
  have timely' : Timely second := by decide
  have same : withoutPurges first = withoutPurges second := rfl
  have shown : ((opening (.ofNanos 10)).run first).map seen = seenAtLast := rfl
  exact ⟨timely, timely', same, shown, (purging_is_invisible timely timely' same).symm.trans shown⟩

end Inquiries

end MailRelay
