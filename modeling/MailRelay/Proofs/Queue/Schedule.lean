import MailRelay.Proofs.Queue.Calls
import MailRelay.Proofs.Queue.Retry

set_option autoImplicit false

namespace MailRelay

def QueueRequest.reschedules (id : String) : QueueRequest → Bool
  | .call (.enqueue m) => m.id == id
  | .call (.markFailed other _ retry) => other == id && retry
  | _ => false

theorem QueueCall.schedule_settle {c : QueueCall} {id : String} (now : Instant) (base : Duration)
    (settled : c.settled? = some id) (stays : c.isFinal = false)
    (calm : (QueueRequest.call c).reschedules id = false) (m : Message) :
    (c.settle now base m).retryCount = m.retryCount ∧
      (c.settle now base m).scheduledAt = m.scheduledAt := by
  cases c with
  | enqueue | dequeue => simp [settled?] at settled
  | markDelivered => simp [isFinal] at stays
  | markFailed other reason retry =>
    obtain rfl : other = id := by simpa [settled?] using settled
    cases retry with
    | true => simp [QueueRequest.reschedules] at calm
    | false => simp [isFinal] at stays
  | release => exact ⟨rfl, rfl⟩

namespace Queue

/-- The message of an identifier, if there is one, was put off `n` times and waits for `gate`. -/
def Gated (q : Queue) (id : String) (n : UInt32) (gate : Instant) : Prop :=
  ∀ m, q.get? id = some m → m.retryCount = n ∧ m.scheduledAt = some gate

variable {q : Queue} (filed : q.Filed) {max : Nat} {now : Instant}

include filed

theorem due_of_handed {m : Message} (handed : m ∈ (q.dequeue max now).2) :
    m.isDue now ∧ ∃ held, q.get? m.id = some held ∧ m = startSending now held := by
  obtain ⟨member, sent⟩ := (mem_dequeue_iff filed max now).1 handed
  obtain ⟨-, held, found, -, due⟩ := of_mem_due member
  rw [found, Option.map_some, Option.some.injEq] at sent
  refine ⟨?_, held, found, sent.symm⟩
  rw [← sent]
  exact due

theorem gate_of_handed {m : Message} {n : UInt32} {gate : Instant} (gated : q.Gated m.id n gate)
    (handed : m ∈ (q.dequeue max now).2) : m.retryCount = n ∧ gate.le now := by
  obtain ⟨due, held, found, same⟩ := due_of_handed filed handed
  obtain ⟨count, scheduled⟩ := gated held found
  have scheduled : m.scheduledAt = some gate := by
    rw [same]
    exact scheduled
  rw [Message.isDue, scheduled] at due
  refine ⟨?_, due⟩
  rw [same]
  exact count

-- Only what is ready takes a place in the batch.
theorem mem_due_iff {front back : List String} {id : String}
    (placed : q.order.values = front ++ id :: back) (ready : q.isReady now id) :
    id ∈ q.due now max ↔ (front.filter (q.isReady now)).length < max := by
  have distinct := filed.nodup_values
  rw [placed] at distinct
  have absent : id ∉ (front.filter (q.isReady now)).take max := by
    intro member
    have ahead := List.mem_of_mem_filter (List.mem_of_mem_take member)
    exact (List.nodup_append.1 distinct).2.2 id ahead id List.mem_cons_self rfl
  rw [due, placed, List.filter_append, List.filter_cons_of_pos ready, List.take_append,
    List.mem_append, or_iff_right absent]
  cases left : max - (front.filter (q.isReady now)).length with
  | zero =>
    simp only [List.take_zero, List.not_mem_nil, false_iff]
    omega
  | succ places =>
    simp only [List.take_succ_cons, List.mem_cons, true_or, true_iff]
    omega

theorem handed_iff {front back : List String} {id : String} {m : Message}
    (placed : q.order.values = front ++ id :: back) (held : q.get? id = some m)
    (queued : m.status = .queued) (due : m.isDue now) :
    startSending now m ∈ (q.dequeue max now).2 ↔
      (front.filter (q.isReady now)).length < max := by
  obtain rfl : m.id = id := filed.id_of_get? held
  have ready : q.isReady now m.id := by simp [isReady, held, queued, due]
  have named : (startSending now m).id = m.id := rfl
  rw [mem_dequeue_iff filed, named, held, mem_due_iff filed placed ready]
  simp

end Queue

namespace Spool

def Undisturbed (id : String) : Spool → List (Instant × QueueRequest) → Prop
  | _, [] => True
  | s, (now, request) :: rest =>
    (request.reschedules id → (s.ask now request).2 ≠ .reply .done) ∧
      Undisturbed id (s.ask now request).1 rest

instance decidableUndisturbed (id : String) :
    (s : Spool) → (requests : List (Instant × QueueRequest)) → Decidable (s.Undisturbed id requests)
  | _, [] => .isTrue trivial
  | s, (now, request) :: rest =>
    have := decidableUndisturbed id (s.ask now request).1 rest
    inferInstanceAs (Decidable ((request.reschedules id → (s.ask now request).2 ≠ .reply .done) ∧
      Undisturbed id (s.ask now request).1 rest))

theorem serve_append (s : Spool) (first second : List (Instant × QueueRequest)) :
    (s.serve (first ++ second)).1 = ((s.serve first).1.serve second).1 := by
  induction first generalizing s with
  | nil => rfl
  | cons entry rest ih => exact ih (s.ask entry.1 entry.2).1

section

variable {s : Spool} {now : Instant} (filed : s.queue.Filed)

include filed

theorem filed_ask (request : QueueRequest) : (s.ask now request).1.queue.Filed := by
  cases request with
  | call c => exact filed_call now filed c
  | size | get => exact filed

theorem retryDelay_ask (request : QueueRequest) :
    (s.ask now request).1.queue.retryDelay = s.queue.retryDelay := by
  have settled {c : QueueCall} {id : String} (settled : c.settled? = some id) :
      (s.call now c).1.queue.retryDelay = s.queue.retryDelay := by
    rcases settles_or_misses now filed settled with ⟨-, missed⟩ | ⟨_, after, -, -, called, settles⟩
    · rw [missed]
    · rw [called]
      exact settles.retryDelay
  cases request with
  | size | get => rfl
  | call c =>
    show (s.call now c).1.queue.retryDelay = s.queue.retryDelay
    cases c with
    | enqueue m =>
      rw [call_enqueue]
      split <;> rfl
    | dequeue max =>
      rw [queue_call_dequeue]
      exact (Queue.send_keeps ..).2.1
    | markDelivered | markFailed | release => exact settled rfl

theorem filed_serve (requests : List (Instant × QueueRequest)) :
    (s.serve requests).1.queue.Filed := by
  induction requests generalizing s with
  | nil => exact filed
  | cons entry rest ih => exact ih (filed_ask filed entry.2)

theorem retryDelay_serve (requests : List (Instant × QueueRequest)) :
    (s.serve requests).1.queue.retryDelay = s.queue.retryDelay := by
  induction requests generalizing s with
  | nil => rfl
  | cons entry rest ih => exact (ih (filed_ask filed entry.2)).trans (retryDelay_ask filed entry.2)

variable {id : String} {n : UInt32} {gate : Instant}

theorem gated_settled {c : QueueCall} {other : String} (settled : c.settled? = some other)
    (gated : s.queue.Gated id n gate)
    (calm : (QueueRequest.call c).reschedules id → (s.call now c).2 ≠ .done) :
    (s.call now c).1.queue.Gated id n gate := by
  rcases settles_or_misses now filed settled with
    ⟨-, missed⟩ | ⟨entry, after, rfl, found, called, settles⟩
  · rw [missed]
    exact gated
  · rw [called] at calm ⊢
    intro m held
    rw [settles.get?] at held
    by_cases same : id = entry.message.id
    · subst same
      rw [if_pos rfl] at held
      split at held
      · cases held
      · next stays =>
        cases held
        have kept := QueueCall.schedule_settle now s.queue.retryDelay settled (by simpa using stays)
          (by simpa using calm) entry.message
        rw [kept.1, kept.2]
        exact gated _ (Queue.get?_eq_some_iff.2 ⟨entry, found, rfl⟩)
    · rw [if_neg same] at held
      exact gated m held

theorem gated_ask {request : QueueRequest} (gated : s.queue.Gated id n gate)
    (calm : request.reschedules id → (s.ask now request).2 ≠ .reply .done) :
    (s.ask now request).1.queue.Gated id n gate := by
  cases request with
  | size | get => exact gated
  | call c =>
    have calm : (QueueRequest.call c).reschedules id → (s.call now c).2 ≠ .done :=
      fun reschedules done => calm reschedules (congrArg QueueAnswer.reply done)
    show (s.call now c).1.queue.Gated id n gate
    cases c with
    | enqueue m =>
      rw [call_enqueue] at calm ⊢
      split at calm
      · next full =>
        rw [if_pos full]
        exact gated
      · next room =>
        have other : id ≠ m.id := by
          rintro rfl
          exact calm (by simp [QueueRequest.reschedules]) rfl
        rw [if_neg room]
        intro held found
        rw [get?_letIn, if_neg other] at found
        exact gated held found
    | dequeue max =>
      intro m held
      rw [queue_call_dequeue, Queue.get?_dequeue] at held
      split at held
      · obtain ⟨old, found, rfl⟩ := Option.map_eq_some_iff.1 held
        exact gated old found
      · exact gated m held
    | markDelivered | markFailed | release => exact gated_settled filed rfl gated calm

-- Whatever else is asked for meanwhile, and whoever has the message.
theorem gated_serve {requests : List (Instant × QueueRequest)} (gated : s.queue.Gated id n gate)
    (calm : s.Undisturbed id requests) : (s.serve requests).1.queue.Gated id n gate := by
  induction requests generalizing s with
  | nil => exact gated
  | cons entry rest ih =>
    obtain ⟨now, request⟩ := entry
    exact ih (filed_ask filed request) (gated_ask filed gated calm.1) calm.2

theorem gated_of_failure {reason : String}
    (granted : (s.ask now (.call (.markFailed id reason true))).2 = .reply .done) :
    ∃ old, s.queue.get? id = some old ∧
      (s.ask now (.call (.markFailed id reason true))).1.queue.Gated id (old.retryCount + 1)
        (nextAttemptAt now (old.retryCount + 1) s.queue.retryDelay) := by
  have settled : (QueueCall.markFailed id reason true).settled? = some id := rfl
  simp only [ask] at granted ⊢
  rcases settles_or_misses now filed settled with
    ⟨-, missed⟩ | ⟨entry, after, rfl, found, called, settles⟩
  · rw [missed] at granted
    cases granted
  · refine ⟨entry.message, Queue.get?_eq_some_iff.2 ⟨entry, found, rfl⟩, ?_⟩
    rw [called]
    intro m held
    rw [settles.get?, if_pos rfl] at held
    cases held
    exact ⟨rfl, rfl⟩

end

/-- After any requests, a batch holds no message before its time. A message that a failure has put
off is not in it before the base delay times the number of its failures is over, unless its time was
changed since. A message whose time has come is in it if the batch has more places than messages
ahead of it are ready; those whose time has not come do not count. -/
theorem nothing_is_handed_out_early (capacity : Nat) (retryDelay : Duration)
    (requests : List (Instant × QueueRequest)) (now : Instant) (max : Nat) (batch : List Message) :
    let s := ((new capacity retryDelay).serve requests).1
    (s.ask now (.call (.dequeue max))).2 = .reply (.batch batch) →
    (∀ m ∈ batch, ∀ gate, m.scheduledAt = some gate → gate.le now) ∧
    (∀ before t id reason between,
      requests = before ++ (t, .call (.markFailed id reason true)) :: between →
      let failing := ((new capacity retryDelay).serve before).1
      (failing.ask t (.call (.markFailed id reason true))).2 = .reply .done →
      (failing.ask t (.call (.markFailed id reason true))).1.Undisturbed id between →
      ∃ old, failing.queue.get? id = some old ∧
        ∀ m ∈ batch, m.id = id → m.retryCount = old.retryCount + 1 ∧
          (nextAttemptAt t m.retryCount retryDelay).le now ∧
          (t.isLeap = false →
            min (t.total + retryDelay.nanos * m.retryCount.toNat) Instant.max.total ≤ now.total)) ∧
    (∀ front id back m, s.queue.order.values = front ++ id :: back → s.queue.get? id = some m →
      m.status = .queued → m.isDue now →
      (Queue.startSending now m ∈ batch ↔ (front.filter (s.queue.isReady now)).length < max)) := by
  intro s answer
  have start : (new capacity retryDelay).queue.Filed := Queue.filed_new capacity retryDelay
  obtain rfl : (s.queue.dequeue max now).2 = batch := by
    simpa [ask] using answer
  have filed : s.queue.Filed := filed_serve start requests
  refine ⟨?_, ?_, ?_⟩
  · intro m handed gate scheduled
    have due := (Queue.due_of_handed filed handed).1
    rwa [Message.isDue, scheduled] at due
  · intro before t id reason between split failing granted calm
    have filed_before : failing.queue.Filed := filed_serve start before
    have delay : failing.queue.retryDelay = retryDelay := retryDelay_serve start before
    obtain ⟨old, held, gated⟩ := gated_of_failure filed_before granted
    have reached :
        s = ((failing.ask t (.call (.markFailed id reason true))).1.serve between).1 := by
      simp only [s, split, serve_append]
      rfl
    refine ⟨old, held, fun m handed named => ?_⟩
    have lasting := gated_serve (filed_ask filed_before _) gated calm
    rw [← reached, ← named, delay] at lasting
    obtain ⟨count, passed⟩ := Queue.gate_of_handed filed lasting handed
    rw [← count] at passed
    refine ⟨count, passed, fun plain => ?_⟩
    rw [← total_nextAttemptAt plain]
    exact Instant.total_le_of_le (isLeap_nextAttemptAt plain _ _) passed
  · intro front id back m placed held queued due
    exact Queue.handed_iff filed placed held queued due

-- The message that failed is given back, which does not shorten its wait, and the one behind it
-- goes first.
theorem failed_message_waits_out_its_delay :
    let m := Message.new "m" "a@example.com" ["b@example.org"] "s" .min
    let n := { m with id := "n" }
    let early : Instant := ⟨Instant.minSeconds, 9, by decide, by decide, by decide⟩
    let late : Instant := ⟨Instant.minSeconds, 10, by decide, by decide, by decide⟩
    let before := [(.min, .call (.enqueue m)), (.min, .call (.enqueue n)),
      (.min, .call (.dequeue 1))]
    let between := [(early, .call (.release "m")), (early, .call (.dequeue 1))]
    let served := (new 2 (.ofNanos 10)).serve
      (before ++ (.min, .call (.markFailed "m" "refused" true)) :: between)
    served.2.getLast? = some (.reply (.batch [{ n with status := .sending, updatedAt := early }])) ∧
      ∃ last, (served.1.ask late (.call (.dequeue 1))).2 = .reply (.batch [last]) ∧ last.id = "m" ∧
        last.retryCount = 1 ∧ Instant.min.total + 10 ≤ late.total := by
  intro m n early late before between served
  have passed : served.2.getLast? =
      some (.reply (.batch [{ n with status := .sending, updatedAt := early }])) := by decide
  have answer : (served.1.ask late (.call (.dequeue 1))).2 = .reply (.batch
      [{ m with
        status := .sending, retryCount := 1, lastError := some "refused", updatedAt := late
        scheduledAt := some late }]) := by decide
  have gate := (nothing_is_handed_out_early 2 (.ofNanos 10) _ late 1 _ answer).2.1
  obtain ⟨old, -, waited⟩ := gate before .min "m" "refused" between rfl (by decide) (by decide)
  obtain ⟨-, -, elapsed⟩ := waited _ (List.mem_singleton_self _) rfl
  exact ⟨passed, _, answer, rfl, rfl, elapsed rfl⟩

end Spool

end MailRelay
