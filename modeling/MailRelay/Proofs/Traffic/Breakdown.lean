import MailRelay.Proofs.Delivery.ExchangerCache
import MailRelay.Proofs.Traffic.Operation

set_option autoImplicit false

namespace MailRelay

/-- Hosts come at a moment from which the cache cannot keep them for its time to live. -/
def WorkerEvent.Overruns (ttl : Duration) (clock : Clock) : WorkerEvent → Prop
  | resolved (.ok _) => lastMoment < clock.ticks + ttl.nanos
  | _ => False

def Occasion.Overruns (ttl : Duration) (clock : Clock) : Occasion → Prop
  | work _ e => e.Overruns ttl clock
  | _ => False

namespace Worker

def isAborted : Worker → Bool
  | aborted _ _ => true
  | _ => false

variable {s : WorkerSettings} {h h' : Hub} {clock : Clock} {w w' : Worker} {e : WorkerEvent}

theorem isOver_of_isAborted (broken : w.isAborted = true) : w.isOver = true := by
  cases w with
  | aborted => rfl
  | waiting | working | turning | trying | counting | ended => cases broken

theorem ttl_start (cancelled : Bool) (cache : ExchangerCache) (now : Nat) (m : Message) :
    (Attempt.start cancelled cache now m).2.ttl = cache.ttl := by
  unfold Attempt.start
  split
  · rfl
  split
  · rfl
  split
  · rfl
  · next domain readable =>
    rw [ExchangerCache.lookup_eq]
    cases cache.fresh? domain now <;> rfl

theorem cache_book (h : Hub) (s : WorkerSettings) (now : Instant) (m : Message)
    (outcome : Except AttemptError Unit) : (h.book s now m outcome).1.cache = h.cache := by
  rw [Traffic.book_eq]
  rfl

structure Breaks (h : Hub) (clock : Clock) (e : WorkerEvent) (h' : Hub) (w' : Worker) : Prop where
  ttl : h'.cache.ttl = h.cache.ttl
  aborts : w'.isAborted = true ↔ e.Overruns h.cache.ttl clock

theorem Breaks.unless (ttl : h'.cache.ttl = h.cache.ttl) (whole : w'.isAborted = false)
    (calm : ¬ e.Overruns h.cache.ttl clock) : Breaks h clock e h' w' :=
  ⟨ttl, iff_of_false (by simp [whole]) calm⟩

theorem breaks_of_resolved {m : Message} {domain : String} {rest : List Message}
    {answer : Except DnsError (List Exchanger)}
    (stepped : (match Attempt.resolved? h.cache clock.ticks domain answer with
      | some (attempt, cache) => some ({ h with cache }, trying m attempt rest)
      | none => some (h, aborted m rest)) = some (h', w')) :
    Breaks h clock (.resolved answer) h' w' := by
  cases answer with
  | error e =>
    cases stepped
    exact .unless rfl rfl id
  | ok hosts =>
    rw [Attempt.resolved?] at stepped
    cases kept : h.cache.store? domain hosts clock.ticks with
    | none =>
      rw [kept] at stepped
      cases stepped
      exact ⟨rfl, iff_of_true rfl (ExchangerCache.store?_eq_none_iff.1 kept)⟩
    | some cache =>
      rw [kept] at stepped
      cases stepped
      obtain ⟨bounded, -⟩ := ExchangerCache.store?_eq_some_iff.1 kept
      exact ⟨(ExchangerCache.fields_store kept).1,
        iff_of_false Bool.false_ne_true (Nat.not_lt_of_le bounded)⟩

-- One case for each row of the step table; only an answer can break a worker off.
theorem breaks_of_step (stepped : w.step s h clock e = some (h', w')) : Breaks h clock e h' w' := by
  unfold step at stepped
  split at stepped
  · cases stepped
    exact .unless rfl rfl id
  · split at stepped <;> cases stepped
    exact .unless rfl rfl id
  · next batch =>
    cases batch with
    | nil =>
      cases stepped
      exact .unless rfl rfl id
    | cons m rest =>
      rw [begin] at stepped
      split at stepped <;> cases stepped <;> exact .unless rfl rfl id
  · cases stepped
    exact .unless (ttl_start ..) rfl id
  · split at stepped
    · cases stepped
    · exact breaks_of_resolved stepped
  · split at stepped <;> cases stepped
    exact .unless rfl rfl id
  · cases stepped
    exact .unless (congrArg _ (cache_book ..)) rfl id
  · split at stepped <;> cases stepped
    exact .unless rfl rfl id
  · split at stepped <;> cases stepped
    exact .unless rfl rfl id
  · cases stepped
    exact .unless rfl rfl id
  · cases stepped

end Worker

theorem Traffic.ttl_submit (rules : TrafficRules) (t : Traffic) (now : Instant) (m : Message) :
    (t.submit rules now m).hub.cache.ttl = t.hub.cache.ttl := by
  have same : (t.hub.call now (.enqueue m)).1.cache = t.hub.cache := rfl
  rw [submit]
  split
  · rfl
  · split
    all_goals
      next called =>
      rw [called] at same
      exact congrArg (·.ttl) same

namespace Operation

variable {o o' : Operation} {clock : Clock}

def HasAborted (o : Operation) : Prop := ∃ w ∈ o.traffic.workers, w.isAborted = true

structure Breaks (clock : Clock) (occasion : Occasion) (o o' : Operation) : Prop where
  ttl : o'.traffic.hub.cache.ttl = o.traffic.hub.cache.ttl
  aborts : o'.HasAborted ↔ o.HasAborted ∨ occasion.Overruns o.traffic.hub.cache.ttl clock

theorem Breaks.unless {occasion : Occasion}
    (ttl : o'.traffic.hub.cache.ttl = o.traffic.hub.cache.ttl)
    (workers : o'.traffic.workers = o.traffic.workers)
    (calm : ¬ occasion.Overruns o.traffic.hub.cache.ttl clock) : Breaks clock occasion o o' := by
  refine ⟨ttl, ?_⟩
  rw [HasAborted, HasAborted, workers]
  simp [calm]

theorem breaks_of_work {i : Nat} {e : WorkerEvent} (stepped : o.step clock (.work i e) = some o') :
    Breaks clock (.work i e) o o' := by
  obtain ⟨traffic, worked, rfl⟩ := Option.map_eq_some_iff.1 stepped
  obtain ⟨w, placed, rest⟩ := Option.bind_eq_some_iff.1 worked
  obtain ⟨⟨hub, w'⟩, acted, made⟩ := Option.bind_eq_some_iff.1 rest
  cases made
  obtain ⟨ttl, aborts⟩ := Worker.breaks_of_step acted
  refine ⟨ttl, ?_⟩
  rw [Occasion.Overruns, ← aborts]
  constructor
  · rintro ⟨other, working, broken⟩
    rcases List.mem_or_eq_of_mem_set working with old | rfl
    · exact .inl ⟨other, old, broken⟩
    · exact .inr broken
  · have within := (List.getElem?_eq_some_iff.1 placed).1
    rintro (⟨other, working, broken⟩ | broken)
    · obtain ⟨j, there⟩ := List.mem_iff_getElem?.1 working
      -- A worker that has broken off takes no steps, so that another one acts.
      have apart : i ≠ j := by
        rintro rfl
        obtain rfl := Option.some.inj (placed.symm.trans there)
        rw [Worker.step_of_isOver (Worker.isOver_of_isAborted broken)] at acted
        cases acted
      exact ⟨other, List.mem_of_getElem? ((List.getElem?_set_ne apart).trans there), broken⟩
    · exact ⟨w', List.mem_of_getElem? (List.getElem?_set_self within), broken⟩

theorem breaks_of_step (staffed : o.Staffed) {occasion : Occasion}
    (stepped : o.step clock occasion = some o') : Breaks clock occasion o o' := by
  cases occasion with
  | work i e => exact breaks_of_work stepped
  | start =>
    simp only [step, Service.start] at stepped
    split at stepped
    · next begun =>
      split at begun
      · next idle =>
        cases begun
        cases stepped
        have nobody : o.traffic.workers = [] := staffed.idle idle
        refine ⟨rfl, ?_⟩
        simp [HasAborted, adopt, nobody, Occasion.Overruns, Worker.isAborted]
      · cases begun
    · cases stepped
      exact .unless rfl rfl id
  | notice n =>
    cases stepped
    have same : (o.service.notice n).hub.cache.ttl = o.traffic.hub.cache.ttl ∧
        (o.service.notice n).workers = o.traffic.workers := by
      unfold Service.notice
      split
      · split <;> exact ⟨rfl, rfl⟩
      · exact ⟨rfl, rfl⟩
    exact .unless same.1 same.2 id
  | finish =>
    cases stepped
    have same : o.service.finish.hub = o.traffic.hub ∧
        o.service.finish.workers = o.traffic.workers := by
      unfold Service.finish
      split <;> exact ⟨rfl, rfl⟩
    exact .unless (congrArg (·.cache.ttl) same.1) same.2 id
  | submit m =>
    cases stepped
    exact .unless (Traffic.ttl_submit ..) (Traffic.workers_submit ..) id
  | count =>
    obtain ⟨traffic, counted, rfl⟩ := Option.map_eq_some_iff.1 stepped
    simp only [Traffic.step] at counted
    split at counted <;> cases counted
    exact .unless rfl rfl id

theorem hasAborted_of_run {occasions : List (Clock × Occasion)} (staffed : o.Staffed)
    (ran : o.run occasions = some o') :
    o'.HasAborted ↔ o.HasAborted ∨
      ∃ event ∈ occasions, event.2.Overruns o.traffic.hub.cache.ttl event.1 := by
  induction occasions generalizing o with
  | nil =>
    cases ran
    simp
  | cons event rest ih =>
    obtain ⟨next, stepped, later⟩ := Option.bind_eq_some_iff.1 ran
    obtain ⟨ttl, aborts⟩ := breaks_of_step staffed stepped
    rw [ih (staffed.event (event_of_step stepped)) later, ttl, aborts]
    simp [or_assoc]

end Operation

end MailRelay
