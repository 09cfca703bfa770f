import MailRelay.Delivery.Service
import MailRelay.Proofs.Traffic.Standing

set_option autoImplicit false

namespace MailRelay

structure Operation where
  settings : ServiceSettings
  limits : Limits
  state : ServiceState
  traffic : Traffic

inductive Occasion where
  | start
  | notice (n : Notice)
  | finish
  | work (i : Nat) (e : WorkerEvent)
  | submit (m : Message)
  | count

namespace Operation

def opening (settings : DeliverySettings) (limits : Limits) (capacity : Nat) (retryDelay : Duration) :
    Operation :=
  ⟨.ofDelivery settings, limits, .idle, .opening capacity retryDelay settings.dnsCacheTtl⟩

def rules (o : Operation) : TrafficRules := ⟨o.limits, o.settings.worker⟩

def service (o : Operation) : Service := ⟨o.settings, o.state, o.traffic.hub, o.traffic.workers⟩

def adopt (o : Operation) (s : Service) : Operation :=
  { o with
    settings := s.settings
    state := s.state
    traffic := { o.traffic with hub := s.hub, workers := s.workers } }

/-- What an occasion makes of an operation; none if it cannot happen. A start that is refused changes
nothing. -/
def step (o : Operation) (clock : Clock) : Occasion → Option Operation
  | .start =>
    match o.service.start with
    | .ok s => some (o.adopt s)
    | .error _ => some o
  | .notice n => some (o.adopt (o.service.notice n))
  | .finish => some (o.adopt o.service.finish)
  | .work i e => (o.traffic.step o.rules clock (.work i e)).map ({ o with traffic := · })
  | .submit m => (o.traffic.step o.rules clock (.submit m)).map ({ o with traffic := · })
  | .count => (o.traffic.step o.rules clock .count).map ({ o with traffic := · })

def run (o : Operation) : List (Clock × Occasion) → Option Operation
  | [] => some o
  | (clock, occasion) :: rest => do (← o.step clock occasion).run rest

theorem run_append (o : Operation) (first second : List (Clock × Occasion)) :
    o.run (first ++ second) = (o.run first).bind (·.run second) := by
  induction first generalizing o with
  | nil => rfl
  | cons occasion rest ih =>
    simp only [List.cons_append, run, Option.bind_eq_bind]
    cases o.step occasion.1 occasion.2 <;> simp [ih]

theorem service_opening (settings : DeliverySettings) (limits : Limits) (capacity : Nat)
    (retryDelay : Duration) :
    (opening settings limits capacity retryDelay).service =
      .new settings (.new capacity retryDelay) := rfl

theorem service_work (o : Operation) (clock : Clock) (i : Nat) (e : WorkerEvent) :
    (o.step clock (.work i e)).map service = o.service.work clock i e := by
  simp only [step, Traffic.step, Traffic.work, Service.work, service, rules]
  cases o.traffic.workers[i]? with
  | none => rfl
  | some w =>
    simp only [Option.bind_eq_bind, Option.bind_some]
    cases w.step o.settings.worker o.traffic.hub clock e <;> rfl

/-- Before the start there are no workers, and after the end they are all over. -/
structure Staffed (o : Operation) : Prop where
  idle : o.state = .idle → o.traffic.workers = []
  stopped : o.state = .stopped → ∀ w ∈ o.traffic.workers, w.isOver = true

theorem staffed_opening (settings : DeliverySettings) (limits : Limits) (capacity : Nat)
    (retryDelay : Duration) : (opening settings limits capacity retryDelay).Staffed :=
  ⟨fun _ => rfl, nofun⟩

variable {o o' : Operation} {clock : Clock}

inductive Event (clock : Clock) (o : Operation) : Operation → Prop where
  | none : Event clock o o
  | start (idle : o.state = .idle) :
    Event clock o
      { o with
        state := .running
        traffic := { o.traffic with workers := List.replicate o.settings.workers .waiting } }
  | notice (running : o.state = .running) :
    Event clock o
      { o with
        state := .draining
        traffic := { o.traffic with hub := { o.traffic.hub with cancelled := true } } }
  | stop (done : ∀ w ∈ o.traffic.workers, w.isOver = true) :
    Event clock o { o with state := .stopped }
  | move (move : Move) (traffic : Traffic) (moved : o.traffic.step o.rules clock move = some traffic)
      (known : move ≠ .join) :
    Event clock o { o with traffic }

theorem event_of_step {occasion : Occasion} (stepped : o.step clock occasion = some o') :
    Event clock o o' := by
  cases occasion with
  | start =>
    simp only [step, Service.start] at stepped
    split at stepped
    · next begun =>
      split at begun
      · next idle =>
        cases begun
        cases stepped
        exact .start idle
      · cases begun
    · cases stepped
      exact .none
  | notice n =>
    cases stepped
    simp only [Service.notice]
    split
    · next running =>
      split
      · exact .notice running
      · exact .none
    · exact .none
  | finish =>
    cases stepped
    simp only [Service.finish]
    split
    · next finished =>
      exact .stop (List.all_eq_true.1 (Bool.and_eq_true_iff.1 finished).2)
    · exact .none
  | work i e | submit m | count =>
    simp only [step, Option.map_eq_some_iff] at stepped
    obtain ⟨traffic, moved, rfl⟩ := stepped
    exact .move _ traffic moved nofun

theorem Staffed.event (staffed : o.Staffed) (event : Event clock o o') : o'.Staffed := by
  cases event with
  | none => exact staffed
  | start idle | notice running => exact ⟨nofun, nofun⟩
  | stop done => exact ⟨nofun, fun _ => done⟩
  | move move traffic moved known =>
    cases move with
    | join => exact absurd rfl known
    | raise =>
      cases moved
      exact ⟨staffed.idle, staffed.stopped⟩
    | count =>
      simp only [Traffic.step] at moved
      split at moved <;> cases moved
      exact ⟨staffed.idle, staffed.stopped⟩
    | submit m =>
      cases moved
      refine ⟨fun idle => ?_, fun stopped => ?_⟩
      · rw [Traffic.workers_submit, staffed.idle idle]
      · rw [Traffic.workers_submit]
        exact staffed.stopped stopped
    | work i e =>
      obtain ⟨w, placed, rest⟩ := Option.bind_eq_some_iff.1 moved
      obtain ⟨after, stepped, -⟩ := Option.bind_eq_some_iff.1 rest
      refine ⟨fun idle => ?_, fun stopped => ?_⟩
      · simp [staffed.idle idle] at placed
      · have done := staffed.stopped stopped w (List.mem_of_getElem? placed)
        rw [Worker.step_of_isOver done] at stepped
        cases stepped

theorem moves_of_event (staffed : o.Staffed) (event : Event clock o o') :
    o'.rules = o.rules ∧ ∃ moves : List (Clock × Move),
      moves.map (·.1.wall) ⊆ [clock.wall] ∧ o.traffic.run o.rules moves = some o'.traffic := by
  cases event with
  | none | stop done => exact ⟨rfl, [], List.nil_subset _, rfl⟩
  | start idle =>
    refine ⟨rfl, List.replicate o.settings.workers (clock, .join), ?_, ?_⟩
    · rw [List.map_replicate]
      exact List.replicate_subset_singleton ..
    · rw [Traffic.run_join, staffed.idle idle, List.nil_append]
  | notice running => exact ⟨rfl, [(clock, .raise)], List.Subset.refl _, rfl⟩
  | move move traffic moved known =>
    exact ⟨rfl, [(clock, move)], List.Subset.refl _, by simp [Traffic.run, moved]⟩

theorem moves_of_run {occasions : List (Clock × Occasion)} (staffed : o.Staffed)
    (ran : o.run occasions = some o') :
    o'.Staffed ∧ o'.rules = o.rules ∧ ∃ moves : List (Clock × Move),
      moves.map (·.1.wall) ⊆ occasions.map (·.1.wall) ∧
        o.traffic.run o.rules moves = some o'.traffic := by
  induction occasions generalizing o with
  | nil =>
    cases ran
    exact ⟨staffed, rfl, [], List.nil_subset _, rfl⟩
  | cons occasion rest ih =>
    obtain ⟨next, stepped, later⟩ := Option.bind_eq_some_iff.1 ran
    have event := event_of_step stepped
    obtain ⟨rules, first, clock, began⟩ := moves_of_event staffed event
    obtain ⟨last, same, others, clocks, ended⟩ := ih (staffed.event event) later
    refine ⟨last, same.trans rules, first ++ others, ?_, ?_⟩
    · rw [List.map_append]
      exact List.append_subset.2
        ⟨List.Subset.trans clock (by simp), List.subset_cons_of_subset _ clocks⟩
    · rw [Traffic.run_append, began]
      exact rules ▸ ended

theorem stopped_of_event (event : Event clock o o') (stopped : o.state = .stopped) :
    o'.state = .stopped := by
  cases event with
  | none | stop | move => first | exact stopped | rfl
  | start idle => simp [idle] at stopped
  | notice running => simp [running] at stopped

end Operation

end MailRelay
