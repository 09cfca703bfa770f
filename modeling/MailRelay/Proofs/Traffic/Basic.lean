import MailRelay.Delivery.Worker
import MailRelay.Proofs.Queue.Calls
import Mathlib.Data.List.Induction

set_option autoImplicit false

namespace MailRelay

namespace Worker

def request? (s : WorkerSettings) (h : Hub) : Worker → WorkerEvent → Option QueueCall
  | waiting, .poll => some (.dequeue s.batchSize)
  | working (m :: _), .proceed => if h.cancelled then some (.release m.id) else none
  | trying m (.decided outcome) _, .proceed => some (Hub.booking s m outcome).1
  | _, _ => none

def begins? (h : Hub) : Worker → WorkerEvent → Option Message
  | working (m :: _), .proceed => if h.cancelled then none else some m
  | _, _ => none

def books? : Worker → WorkerEvent → Option (Message × Except AttemptError Unit)
  | trying m (.decided outcome) _, .proceed => some (m, outcome)
  | _, _ => none

def current : Worker → List Message
  | turning m _ | trying m _ _ | aborted m _ => [m]
  | _ => []

def owed : Worker → List Tally
  | counting tally _ => [tally]
  | _ => []

/-- What one step can be. A worker that waits may look into the cache, but it neither takes nor
gives back a message. -/
inductive Deed (s : WorkerSettings) (h : Hub) (now : Instant) :
    Worker → WorkerEvent → Hub → Worker → Prop where
  | poll :
    Deed s h now waiting .poll (h.call now (.dequeue s.batchSize)).1
      (working (h.spool.queue.dequeue s.batchSize now).2)
  | release (m : Message) (rest : List Message) (raised : h.cancelled = true) :
    Deed s h now (working (m :: rest)) .proceed (h.call now (.release m.id)).1 (working rest)
  | begin (m : Message) (rest : List Message) (down : h.cancelled = false) :
    Deed s h now (working (m :: rest)) .proceed h (turning m rest)
  | book (m : Message) (outcome : Except AttemptError Unit) (rest : List Message) :
    Deed s h now (trying m (.decided outcome) rest) .proceed (h.book s now m outcome).1
      (counting (h.book s now m outcome).2 rest)
  | count (tally : Tally) (rest : List Message) :
    Deed s h now (counting tally rest) .proceed
      { h with spool := { h.spool with stats := h.spool.stats.count tally } } (working rest)
  | wait {w w' : Worker} {e : WorkerEvent} (cache : ExchangerCache) (other : e ≠ .poll)
      (held : w'.held = w.held)
      (current : w'.current = w.current) (owed : w'.owed = w.owed)
      (silent : w.request? s h e = none) (begins : w.begins? h e = none)
      (books : w.books? e = none) :
    Deed s h now w e { h with cache } w'

theorem deed_of_step {s : WorkerSettings} {h h' : Hub} {clock : Clock} {w w' : Worker}
    {e : WorkerEvent} (stepped : w.step s h clock e = some (h', w')) :
    Deed s h clock.wall w e h' w' := by
  unfold step at stepped
  -- One case for each pair of a state and an event; the last one is for all pairs that do not fit.
  split at stepped
  · cases stepped
    exact .poll
  · split at stepped <;> cases stepped
    exact .wait h.cache nofun rfl rfl rfl rfl rfl rfl
  · next batch =>
    cases batch with
    | nil =>
      cases stepped
      exact .wait h.cache nofun rfl rfl rfl rfl rfl rfl
    | cons m rest =>
      rw [begin] at stepped
      split at stepped <;> cases stepped
      · exact .release m rest ‹_›
      · exact .begin m rest (by simpa using ‹¬ h.cancelled = true›)
  · cases stepped
    exact .wait _ nofun rfl rfl rfl rfl rfl rfl
  · split at stepped
    · cases stepped
    · split at stepped <;> cases stepped
      · exact .wait _ nofun rfl rfl rfl rfl rfl rfl
      · exact .wait h.cache nofun rfl rfl rfl rfl rfl rfl
  · split at stepped <;> cases stepped
    exact .wait h.cache nofun rfl rfl rfl rfl rfl rfl
  · cases stepped
    exact .book ..
  · split at stepped <;> cases stepped
    exact .wait h.cache nofun rfl rfl rfl rfl rfl rfl
  · split at stepped <;> cases stepped
    exact .wait h.cache nofun rfl rfl rfl rfl rfl rfl
  · cases stepped
    exact .count ..
  · cases stepped

theorem step_of_isOver {w : Worker} (done : w.isOver = true) (s : WorkerSettings) (h : Hub)
    (clock : Clock) (e : WorkerEvent) : w.step s h clock e = none := by
  cases w with
  | ended | aborted => cases e <;> rfl
  | waiting | working | turning | trying | counting => cases done

end Worker

structure TrafficRules where
  limits : Limits
  worker : WorkerSettings

structure Traffic where
  hub : Hub
  workers : List Worker
  -- How many submitters have put a message into the queue and not counted it yet.
  uncounted : Nat
  accepted : List Message
  -- The calls that the workers made, with the replies, the latest first.
  calls : List (QueueCall × QueueReply)
  begun : List String

inductive Move where
  | join
  | work (i : Nat) (e : WorkerEvent)
  | submit (m : Message)
  | count
  | raise

def note (id : String) : Message :=
  { Message.new id "a@example.com" ["b@example.org"] "s" .min with body := "b" }

namespace Traffic

def opening (capacity : Nat) (retryDelay cacheTtl : Duration) : Traffic :=
  ⟨⟨.new capacity retryDelay, .new cacheTtl, false⟩, [], 0, [], [], []⟩

def queue (t : Traffic) : Queue := t.hub.spool.queue

def stats (t : Traffic) : Stats := t.hub.spool.stats

def record? (t : Traffic) (id : String) : Option Message := t.hub.spool.record? id

def ids (t : Traffic) : List String := t.accepted.map (·.id)

def held (t : Traffic) : List Message := t.workers.flatMap Worker.held

def work (rules : TrafficRules) (t : Traffic) (clock : Clock) (i : Nat) (e : WorkerEvent) :
    Option Traffic := do
  let w ← t.workers[i]?
  let (hub, w') ← w.step rules.worker t.hub clock e
  let made := (w.request? rules.worker t.hub e).toList
  return { t with
    hub
    workers := t.workers.set i w'
    calls := made.map (fun c => (c, (t.hub.call clock.wall c).2)) ++ t.calls
    begun := (w.begins? t.hub e).toList.map (·.id) ++ t.begun }

def submit (rules : TrafficRules) (t : Traffic) (now : Instant) (m : Message) : Traffic :=
  match m.validate rules.limits with
  | .error _ => t
  | .ok () =>
    match t.hub.call now (.enqueue m) with
    | (hub, .done) =>
      { t with hub, uncounted := t.uncounted + 1, accepted := t.accepted ++ [m] }
    | (hub, _) => { t with hub }

def count (t : Traffic) : Traffic :=
  { t with
    hub := { t.hub with spool := { t.hub.spool with stats := t.hub.spool.stats.countSent } }
    uncounted := t.uncounted - 1 }

def step (rules : TrafficRules) (t : Traffic) (clock : Clock) : Move → Option Traffic
  | .join => some { t with workers := t.workers ++ [.waiting] }
  | .work i e => t.work rules clock i e
  | .submit m => some (t.submit rules clock.wall m)
  | .count => if t.uncounted = 0 then none else some t.count
  | .raise => some { t with hub := { t.hub with cancelled := true } }

def run (rules : TrafficRules) (t : Traffic) : List (Clock × Move) → Option Traffic
  | [] => some t
  | (clock, move) :: rest => do (← t.step rules clock move).run rules rest

theorem run_append (rules : TrafficRules) (t : Traffic) (first second : List (Clock × Move)) :
    t.run rules (first ++ second) = (t.run rules first).bind (·.run rules second) := by
  induction first generalizing t with
  | nil => rfl
  | cons move rest ih =>
    simp only [List.cons_append, run, Option.bind_eq_bind]
    cases t.step rules move.1 move.2 <;> simp [ih]

theorem run_join (rules : TrafficRules) (t : Traffic) (clock : Clock) (n : Nat) :
    t.run rules (List.replicate n (clock, .join)) =
      some { t with workers := t.workers ++ List.replicate n .waiting } := by
  induction n generalizing t with
  | zero => simp [run]
  | succ n ih => simp [List.replicate_succ, run, step, ih]

theorem run_keeps {rules : TrafficRules} {P : Traffic → Prop} {t t' : Traffic}
    {moves : List (Clock × Move)}
    (keeps : ∀ t move t', move ∈ moves → P t → t.step rules move.1 move.2 = some t' → P t')
    (start : P t) (ran : t.run rules moves = some t') : P t' := by
  induction moves generalizing t with
  | nil =>
    cases ran
    exact start
  | cons move rest ih =>
    obtain ⟨next, stepped, later⟩ := Option.bind_eq_some_iff.1 ran
    exact ih (fun t move t' member => keeps t move t' (List.mem_cons_of_mem _ member))
      (keeps t move next List.mem_cons_self start stepped) later

theorem run_induction {rules : TrafficRules} {P : List (Clock × Move) → Traffic → Prop}
    {start : Traffic} (none : P [] start)
    (next : ∀ {moves t clock move t'}, start.run rules moves = some t → P moves t →
      t.step rules clock move = some t' → P (moves ++ [(clock, move)]) t')
    {moves : List (Clock × Move)} {t : Traffic} (ran : start.run rules moves = some t) :
    P moves t := by
  induction moves using List.reverseRecOn generalizing t with
  | nil =>
    cases ran
    exact none
  | append_singleton before last ih =>
    rw [run_append] at ran
    obtain ⟨t', earlier, rest⟩ := Option.bind_eq_some_iff.1 ran
    obtain ⟨after, stepped, done⟩ := Option.bind_eq_some_iff.1 rest
    cases done
    exact next earlier (ih earlier) stepped

def books? (t : Traffic) : Move → Option (Message × Except AttemptError Unit)
  | .work i e => t.workers[i]?.bind (·.books? e)
  | _ => none

theorem of_work {rules : TrafficRules} {t t' : Traffic} {clock : Clock} {i : Nat} {e : WorkerEvent}
    (worked : t.work rules clock i e = some t') :
    ∃ w w' hub, t.workers[i]? = some w ∧ w.Deed rules.worker t.hub clock.wall e hub w' ∧
      t' = { t with
        hub
        workers := t.workers.set i w'
        calls := (w.request? rules.worker t.hub e).toList.map
          (fun c => (c, (t.hub.call clock.wall c).2)) ++ t.calls
        begun := (w.begins? t.hub e).toList.map (·.id) ++ t.begun } := by
  obtain ⟨w, placed, rest⟩ := Option.bind_eq_some_iff.1 worked
  obtain ⟨⟨hub, w'⟩, stepped, made⟩ := Option.bind_eq_some_iff.1 rest
  exact ⟨w, w', hub, placed, Worker.deed_of_step stepped, (Option.some.inj made).symm⟩

theorem workers_submit (rules : TrafficRules) (t : Traffic) (now : Instant) (m : Message) :
    (t.submit rules now m).workers = t.workers := by
  rw [submit]
  split
  · rfl
  · split <;> rfl

-- Submitting is putting a message into the queue and counting it.
theorem submit_then_count (rules : TrafficRules) (t : Traffic) (now : Instant) (m : Message) :
    (∀ spool, t.hub.spool.submit rules.limits m now = .ok spool →
      (t.submit rules now m).count.hub = { t.hub with spool } ∧
        (t.submit rules now m).count.uncounted = t.uncounted) ∧
      ∀ e, t.hub.spool.submit rules.limits m now = .error e → t.submit rules now m = t := by
  have submitted := t.hub.spool.submitted rules.limits m now
  generalize t.hub.spool.submit rules.limits m now = result at submitted ⊢
  cases submitted with
  | invalid unfit => simp [submit, unfit]
  | refused valid called => simp [submit, valid, Hub.call, called]
  | accepted valid called =>
    simp [submit, valid, Hub.call, called, count, Spool.letIn, Spool.notify]

end Traffic

end MailRelay
