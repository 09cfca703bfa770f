import MailRelay.Proofs.Queue.Alteration
import MailRelay.Proofs.Queue.Schedule

set_option autoImplicit false

namespace MailRelay

theorem Backlog.without_without (id : String) (ms : List Message) :
    without id (without id ms) = without id ms := by
  rw [without, without, List.filter_filter]
  simp only [Bool.and_self]

theorem Backlog.without_alter {id : String} {change : Message → Message}
    (keeps : ∀ m, (change m).id = m.id) (ms : List Message) :
    without id (alter id change ms) = without id ms := by
  induction ms with
  | nil => rfl
  | cons m rest ih =>
    simp only [without, alter, List.map_cons] at ih ⊢
    by_cases same : m.id = id
    · simp [same, keeps, ih]
    · simp [same, ih]

namespace Queue

variable {q : Queue} {a b : String} {c d : QueueCall} {t u : Instant}

theorem get?_order_vacated (q : Queue) (id : String) (ticket : UInt64) :
    (q.vacated id).get? ticket =
      if (q.entries.get? id).map (·.ticket) = some ticket then none else q.order.get? ticket := by
  unfold vacated
  cases found : q.entries.get? id with
  | none => simp
  | some entry => simp [SortedMap.get?_erase, eq_comm]

theorem without_comm (apart : a ≠ b) : (q.without a).without b = (q.without b).without a := by
  -- Each of them gives up the place under its own ticket, which the other one leaves alone.
  have order : (q.without a).vacated b = (q.without b).vacated a := by
    refine SortedMap.ext_of_get? fun ticket => ?_
    rw [get?_order_vacated, get?_order_vacated, entry?_without, entry?_without, if_neg apart,
      if_neg apart.symm]
    show (if _ then _ else (q.vacated a).get? ticket) = if _ then _ else (q.vacated b).get? ticket
    rw [get?_order_vacated, get?_order_vacated]
    split <;> split <;> rfl
  refine eq_of_entry? ?_ fun other => ?_
  · exact congrArg (fun order => { q with order, entries := ((q.without b).without a).entries }) order
  · simp only [entry?_without]
    split <;> split <;> rfl

theorem settled_of_missing (missing : q.get? a = none) : q.settled t c a = q := by
  have absent : q.entries.get? a = none := Option.map_eq_none_iff.1 missing
  unfold settled
  split
  · refine eq_of_entry? ?_ fun other => ?_
    · simp only [without, vacated, absent]
    · rw [entry?_without]
      by_cases same : other = a
      · rw [if_pos same, same, absent]
      · rw [if_neg same]
  · refine altered_of_spared fun id m found => if_neg ?_
    rintro rfl
    rw [missing] at found
    cases found

theorem settled_leaving (leaves : c.isFinal = true) : q.settled t c a = q.without a :=
  if_pos leaves

theorem settled_staying (stays : c.isFinal = false) :
    q.settled t c a = q.altered (only a (c.settle t q.retryDelay)) :=
  if_neg (Bool.eq_false_iff.1 stays)

theorem settled_comm_of_staying (apart : a ≠ b) (stays : d.isFinal = false) :
    (q.settled t c a).settled u d b = (q.settled u d b).settled t c a := by
  rw [settled_staying stays, settled_staying stays, retryDelay_settled,
    settled_altered fun m => if_neg apart]

theorem settled_comm (apart : a ≠ b) :
    (q.settled t c a).settled u d b = (q.settled u d b).settled t c a := by
  cases first : c.isFinal with
  | false => exact (settled_comm_of_staying apart.symm first).symm
  | true =>
    cases second : d.isFinal with
    | false => exact settled_comm_of_staying apart second
    | true =>
      simp only [settled_leaving first, settled_leaving second]
      exact without_comm apart

theorem Consistent.others_settled (consistent : q.Consistent) (now : Instant) (c : QueueCall)
    (id : String) :
    Backlog.without id (q.settled now c id).messages = Backlog.without id q.messages := by
  unfold settled
  split
  · rw [consistent.messages_without, Backlog.without_without]
  · rw [← update_eq_altered, consistent.messages_update]
    exact Backlog.without_alter (c.id_settle now q.retryDelay) q.messages

end Queue

namespace Tracker

variable (tracker : Tracker)

theorem observe_comm {m n : Message} (apart : m.id ≠ n.id) :
    (tracker.observe m).observe n = (tracker.observe n).observe m := by
  refine congrArg Tracker.mk (SortedMap.ext_of_get? fun id => ?_)
  simp only [observe, SortedMap.get?_insert]
  by_cases first : id = m.id
  · simp [first, apart]
  · simp [first]

def shown (snapshot : Option Message) : Tracker := snapshot.elim tracker tracker.observe

theorem shown_comm {first second : Option Message}
    (apart : ∀ m ∈ first, ∀ n ∈ second, m.id ≠ n.id) :
    (tracker.shown first).shown second = (tracker.shown second).shown first := by
  cases first with
  | none => rfl
  | some m =>
    cases second with
    | none => rfl
    | some n => exact tracker.observe_comm (apart m rfl n rfl)

end Tracker

namespace Spool

/-- Nothing that others can see of a message changes, unless it is the one named. -/
structure LeavesOthers (before : Spool) (id : String) (after : Spool) : Prop where
  entries : ∀ other, other ≠ id →
    after.queue.entries.get? other = before.queue.entries.get? other
  records : ∀ other, other ≠ id → after.tracker.get? other = before.tracker.get? other

section Settled

variable {s : Spool} {id : String} {c : QueueCall} (now : Instant) (settled : c.settled? = some id)

include settled

theorem reply_call_settled :
    (s.call now c).2 = if (s.queue.get? id).isSome then .done else .refused (.notFound id) := by
  cases held : s.queue.get? id with
  | none => rw [call_missing held now settled]; rfl
  | some m => rw [call_found held now settled]; rfl

theorem queue_call_settled : (s.call now c).1.queue = s.queue.settled now c id := by
  cases held : s.queue.get? id with
  | none => rw [call_missing held now settled, Queue.settled_of_missing held]
  | some m => rw [call_found held now settled]; rfl

theorem tracker_call_settled :
    (s.call now c).1.tracker =
      s.tracker.shown ((s.queue.get? id).map (c.settle now s.queue.retryDelay)) := by
  cases held : s.queue.get? id with
  | none => rw [call_missing held now settled]; rfl
  | some m => rw [call_found held now settled]; rfl

theorem leavesOthers_call (filed : s.queue.Filed) : s.LeavesOthers id (s.call now c).1 := by
  constructor
  · intro other differs
    exact (call_elsewhere now filed settled differs).1
  · intro other differs
    rw [tracker_call_settled now settled]
    cases held : s.queue.get? id with
    | none => rfl
    | some m =>
      have named : (c.settle now s.queue.retryDelay m).id = id :=
        (c.id_settle now s.queue.retryDelay m).trans (filed.id_of_get? held)
      exact SortedMap.get?_insert_of_ne _ (named ▸ differs) _

end Settled

theorem run_settled (s : Spool) {a b : String} (apart : a ≠ b) {c d : QueueCall}
    (first : c.settled? = some a) (second : d.settled? = some b) (t u : Instant) :
    (s.run [(t, c), (u, d)]).2 =
        [if (s.queue.get? a).isSome then .done else .refused (.notFound a),
          if (s.queue.get? b).isSome then .done else .refused (.notFound b)] ∧
      (s.run [(t, c), (u, d)]).1.queue = (s.queue.settled t c a).settled u d b ∧
      (s.run [(t, c), (u, d)]).1.tracker =
        (s.tracker.shown ((s.queue.get? a).map (c.settle t s.queue.retryDelay))).shown
          ((s.queue.get? b).map (d.settle u s.queue.retryDelay)) := by
  have after : (s.call t c).1.queue = s.queue.settled t c a := queue_call_settled t first
  have seen : (s.call t c).1.queue.get? b = s.queue.get? b := by
    rw [after, Queue.get?_settled t c apart.symm]
  refine ⟨?_, ?_, ?_⟩
  · show [(s.call t c).2, ((s.call t c).1.call u d).2] = _
    rw [reply_call_settled t first, reply_call_settled u second, seen]
  · show ((s.call t c).1.call u d).1.queue = _
    rw [queue_call_settled u second, after]
  · show ((s.call t c).1.call u d).1.tracker = _
    rw [tracker_call_settled u second, tracker_call_settled t first, seen, after,
      Queue.retryDelay_settled]

/-- Two different messages may be settled in either order: each call has the same answer, and the
queue and the tracker end up the same. Neither call changes anything about another message, nor, as
long as no ticket is given out twice, the order in which the others are listed. The tracker may hold
whatever it has been left with. -/
theorem settling_commutes (capacity : Nat) (retryDelay : Duration)
    (requests : List (Instant × QueueRequest)) (s : Spool)
    (reached : s.queue = ((new capacity retryDelay).serve requests).1.queue) {a b : String}
    (apart : a ≠ b) {c d : QueueCall} (first : c.settled? = some a) (second : d.settled? = some b)
    (t u : Instant) :
    (s.run [(t, c), (u, d)]).2 = (s.run [(u, d), (t, c)]).2.reverse ∧
    (s.run [(t, c), (u, d)]).1.queue = (s.run [(u, d), (t, c)]).1.queue ∧
    (s.run [(t, c), (u, d)]).1.tracker = (s.run [(u, d), (t, c)]).1.tracker ∧
    s.LeavesOthers a (s.call t c).1 ∧ s.LeavesOthers b (s.call u d).1 ∧
    (countEnqueues requests < UInt64.size →
      Backlog.without a (s.call t c).1.queue.messages = Backlog.without a s.queue.messages ∧
      Backlog.without b (s.call u d).1.queue.messages = Backlog.without b s.queue.messages) := by
  have filed : s.queue.Filed := reached ▸ filed_serve (Queue.filed_new capacity retryDelay) requests
  obtain ⟨replies, queue, tracker⟩ := s.run_settled apart first second t u
  obtain ⟨replies', queue', tracker'⟩ := s.run_settled apart.symm second first u t
  refine ⟨?_, ?_, ?_, leavesOthers_call t first filed, leavesOthers_call u second filed, ?_⟩
  · rw [replies, replies']
    rfl
  · rw [queue, queue', Queue.settled_comm apart]
  · rw [tracker, tracker']
    refine s.tracker.shown_comm fun m settled_a n settled_b => ?_
    obtain ⟨old_a, held_a, rfl⟩ := Option.map_eq_some_iff.1 settled_a
    obtain ⟨old_b, held_b, rfl⟩ := Option.map_eq_some_iff.1 settled_b
    rw [c.id_settle, d.id_settle, filed.id_of_get? held_a, filed.id_of_get? held_b]
    exact apart
  · intro few
    have consistent : s.queue.Consistent := by
      rw [reached]
      exact (serve_refines requests (s := new capacity retryDelay)
        (Queue.consistent_new capacity retryDelay) (by simpa [new, Queue.new] using few)).consistent
    rw [queue_call_settled t first, queue_call_settled u second]
    exact ⟨consistent.others_settled t c a, consistent.others_settled u d b⟩

-- One message is put off, one is delivered, and the one between them is still being sent.
theorem failure_and_delivery_commute :
    let m := Message.new "m" "a@example.com" ["b@example.org"] "s" .min
    let early : Instant := ⟨Instant.minSeconds, 9, by decide, by decide, by decide⟩
    let late : Instant := ⟨Instant.minSeconds, 10, by decide, by decide, by decide⟩
    let gate : Instant := ⟨Instant.minSeconds, 16, by decide, by decide, by decide⟩
    let requests := [(.min, .call (.enqueue m)), (.min, .call (.enqueue { m with id := "n" })),
      (.min, .call (.enqueue { m with id := "o" })), (.min, .call (.dequeue 3))]
    let s := ((new 3 (.ofNanos 7)).serve requests).1
    let failure := QueueCall.markFailed "m" "refused" true
    let delivery := QueueCall.markDelivered "o"
    "m" ≠ "o" ∧ failure.settled? = some "m" ∧ delivery.settled? = some "o" ∧
      (s.run [(early, failure), (late, delivery)]).2 = [.done, .done] ∧
      (s.run [(early, failure), (late, delivery)]).1.queue =
        (s.run [(late, delivery), (early, failure)]).1.queue ∧
      (s.run [(early, failure), (late, delivery)]).1.tracker =
        (s.run [(late, delivery), (early, failure)]).1.tracker ∧
      (s.run [(early, failure), (late, delivery)]).1.queue.messages =
        [{ m with
            retryCount := 1, lastError := some "refused", updatedAt := early
            status := .queued, scheduledAt := some gate },
          { m with id := "n", status := .sending }] := by
  intro m early late gate requests s failure delivery
  have apart : "m" ≠ "o" := by decide
  obtain ⟨-, queues, trackers, -⟩ :=
    settling_commutes 3 (.ofNanos 7) requests s rfl apart (c := failure) (d := delivery) rfl rfl
      early late
  refine ⟨apart, rfl, rfl, ?_, queues, trackers, ?_⟩ <;> decide

end Spool

end MailRelay
