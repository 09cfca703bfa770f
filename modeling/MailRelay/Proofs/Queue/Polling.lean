import MailRelay.Proofs.Queue.Schedule
import Mathlib.Algebra.GroupWithZero.Nat

set_option autoImplicit false

namespace MailRelay

theorem filter_not_mem_take {A : Type} [DecidableEq A] {xs : List A} (distinct : xs.Nodup) (n : Nat) :
    xs.filter (fun x => decide (x ∉ xs.take n)) = xs.drop n := by
  have apart := List.disjoint_take_drop distinct (Nat.le_refl n)
  have gone : (xs.take n).filter (fun x => decide (x ∉ xs.take n)) = [] :=
    List.filter_eq_nil_iff.2 fun x member => by simpa using member
  have kept : (xs.drop n).filter (fun x => decide (x ∉ xs.take n)) = xs.drop n :=
    List.filter_eq_self.2 fun x member => decide_eq_true fun earlier => apart earlier member
  calc xs.filter (fun x => decide (x ∉ xs.take n))
    _ = (xs.take n ++ xs.drop n).filter (fun x => decide (x ∉ xs.take n)) := by
      rw [List.take_append_drop]
    _ = xs.drop n := by rw [List.filter_append, gone, kept, List.nil_append]

theorem existsUnique_piece {A : Type} {pieces : List (List A)} (distinct : pieces.flatten.Nodup)
    {x : A} (member : x ∈ pieces.flatten) :
    ∃! i : Nat, ∃ piece, pieces[i]? = some piece ∧ x ∈ piece := by
  induction pieces with
  | nil => cases member
  | cons first rest ih =>
    rw [List.flatten_cons] at distinct member
    obtain ⟨-, later, apart⟩ := List.nodup_append.1 distinct
    have elsewhere {i : Nat} {piece : List A} (placed : rest[i]? = some piece) (inside : x ∈ piece) :
        x ∈ rest.flatten :=
      List.mem_flatten.2 ⟨piece, List.mem_of_getElem? placed, inside⟩
    by_cases front : x ∈ first
    · refine ⟨0, ⟨first, rfl, front⟩, ?_⟩
      rintro (_ | i) ⟨piece, placed, inside⟩
      · rfl
      · exact absurd rfl (apart x front x (elsewhere placed inside))
    · obtain ⟨i, there, only⟩ := ih later ((List.mem_append.1 member).resolve_left front)
      refine ⟨i + 1, there, ?_⟩
      rintro (_ | j) ⟨piece, placed, inside⟩
      · cases placed
        exact absurd inside front
      · exact congrArg (· + 1) (only j ⟨piece, placed, inside⟩)

namespace Queue

variable {q : Queue} {now : Instant}

theorem send_append (first second : List String) (q : Queue) :
    send now (first ++ second) q =
      ((send now second (send now first q).1).1,
        (send now first q).2 ++ (send now second (send now first q).1).2) := by
  induction first generalizing q with
  | nil => rfl
  | cons id rest ih => rw [List.cons_append, send_cons, ih, send_cons, List.append_assoc]

theorem isReady_dequeue (max : Nat) (id : String) :
    (q.dequeue max now).1.isReady now id =
      (decide (id ∉ q.due now max) && q.isReady now id) := by
  rw [isReady, isReady, get?_dequeue]
  by_cases taken : id ∈ q.due now max
  · -- A message that was handed out is being sent, so that it is not ready any more.
    cases held : q.get? id <;> simp [taken, startSending]
  · simp [taken]

-- What a batch leaves for the next one is what stands behind it.
theorem due_dequeue (filed : q.Filed) (first second : Nat) :
    (q.dequeue first now).1.due now second =
      ((q.order.values.filter (q.isReady now)).drop first).take second := by
  have order : (q.dequeue first now).1.order = q.order := order_send ..
  have ready : (q.dequeue first now).1.isReady now =
      fun id => decide (id ∉ q.due now first) && q.isReady now id :=
    funext (isReady_dequeue first)
  rw [due, order, ready, ← List.filter_filter]
  exact congrArg _ (filter_not_mem_take (filed.nodup_values.filter _) first)

theorem dequeue_add (filed : q.Filed) (first second : Nat) :
    q.dequeue (first + second) now =
      (((q.dequeue first now).1.dequeue second now).1,
        (q.dequeue first now).2 ++ ((q.dequeue first now).1.dequeue second now).2) := by
  have ids : q.due now (first + second) =
      q.due now first ++ (q.dequeue first now).1.due now second := by
    rw [due_dequeue filed, due, List.take_add]
    rfl
  show send now (q.due now (first + second)) q = _
  rw [ids, send_append]
  rfl

end Queue

namespace Spool

theorem foldl_notify_with (batch : List Message) (s : Spool) (queue : Queue) :
    { batch.foldl notify s with queue } = batch.foldl notify { s with queue } := by
  induction batch generalizing s with
  | nil => rfl
  | cons m rest ih => exact ih (s.notify m)

-- Nobody who watches the queue can tell the two batches from one.
theorem call_dequeue_add {s : Spool} (filed : s.queue.Filed) (now : Instant) (first second : Nat) :
    s.call now (.dequeue (first + second)) =
      (((s.call now (.dequeue first)).1.call now (.dequeue second)).1,
        .batch ((s.queue.dequeue first now).2 ++
          ((s.queue.dequeue first now).1.dequeue second now).2)) := by
  have called (s : Spool) (max : Nat) : s.call now (.dequeue max) =
      ((s.queue.dequeue max now).2.foldl notify { s with queue := (s.queue.dequeue max now).1 },
        .batch (s.queue.dequeue max now).2) := rfl
  have queue : (s.call now (.dequeue first)).1.queue = (s.queue.dequeue first now).1 :=
    queue_call_dequeue ..
  rw [called, called (s.call now (.dequeue first)).1, queue, Queue.dequeue_add filed,
    List.foldl_append]
  congr 2
  exact (foldl_notify_with _ { s with queue := (s.queue.dequeue first now).1 } _).symm

def polls (now : Instant) (sizes : List Nat) : List (Instant × QueueCall) :=
  sizes.map fun size => (now, .dequeue size)

theorem run_polls {s : Spool} (filed : s.queue.Filed) (now : Instant) (sizes : List Nat) :
    ∃ batches : List (List Message), (s.run (polls now sizes)).2 = batches.map .batch ∧
      s.call now (.dequeue sizes.sum) = ((s.run (polls now sizes)).1, .batch batches.flatten) := by
  induction sizes generalizing s with
  | nil => exact ⟨[], rfl, rfl⟩
  | cons size rest ih =>
    have filed_next := filed_call now filed (.dequeue size)
    obtain ⟨batches, replies, together⟩ := ih filed_next
    have next : (s.call now (.dequeue size)).1.queue = (s.queue.dequeue size now).1 :=
      queue_call_dequeue ..
    have later : ((s.queue.dequeue size now).1.dequeue rest.sum now).2 = batches.flatten := by
      have answer := congrArg Prod.snd together
      rw [reply_call_dequeue, next] at answer
      exact QueueReply.batch.inj answer
    refine ⟨(s.queue.dequeue size now).2 :: batches, ?_, ?_⟩
    · exact congrArg (List.cons _) replies
    · rw [List.sum_cons, call_dequeue_add filed, together, later]
      rfl

/-- However the places are shared out among those who ask for batches at one instant, and in whatever
order they ask, they get together, one behind the other, what a single request for all the places
would get, and leave the same queue and the same journal. Each message that is handed out goes to
exactly one of them. The messages stand in the order in which they came in, as long as no ticket is
given out twice. -/
theorem polls_share_one_batch (capacity : Nat) (retryDelay : Duration)
    (requests : List (Instant × QueueRequest)) (now : Instant) (sizes : List Nat) :
    let s := ((new capacity retryDelay).serve requests).1
    let listed := ((Backlog.new capacity retryDelay).serve requests).1.messages
    ∃ batches : List (List Message),
      (s.run (polls now sizes)).2 = batches.map .batch ∧
      s.call now (.dequeue sizes.sum) = ((s.run (polls now sizes)).1, .batch batches.flatten) ∧
      batches.flatten.map (·.id) = s.queue.due now sizes.sum ∧
      (batches.flatten.map (·.id)).Nodup ∧
      (∀ id ∈ s.queue.due now sizes.sum,
        ∃! i : Nat, ∃ batch, batches[i]? = some batch ∧ id ∈ batch.map (·.id)) ∧
      (countEnqueues requests < UInt64.size →
        batches.flatten =
          ((listed.filter (Backlog.isReady now)).take sizes.sum).map (Backlog.sent now)) := by
  intro s listed
  have filed : s.queue.Filed := filed_serve (Queue.filed_new capacity retryDelay) requests
  obtain ⟨batches, replies, together⟩ := run_polls filed now sizes
  have whole : (s.queue.dequeue sizes.sum now).2 = batches.flatten :=
    QueueReply.batch.inj (congrArg Prod.snd together)
  have ids : batches.flatten.map (·.id) = s.queue.due now sizes.sum := by
    rw [← whole, Queue.map_id_dequeue filed]
  have distinct : (batches.flatten.map (·.id)).Nodup := ids ▸ Queue.nodup_due filed sizes.sum now
  refine ⟨batches, replies, together, ids, distinct, ?_, ?_⟩
  · intro id member
    rw [← ids] at member
    rw [List.map_flatten] at member distinct
    have once := existsUnique_piece distinct member
    simpa using once
  · intro few
    have refines := serve_refines requests (s := new capacity retryDelay)
      (Queue.consistent_new capacity retryDelay) (by simpa [new, Queue.new] using few)
    have backlog : listed = s.queue.messages := congrArg Backlog.messages refines.backlog
    have handed := refines.consistent.dequeue_eq sizes.sum now
    rw [Backlog.handOut_eq now sizes.sum refines.consistent.nodup_ids] at handed
    rw [← whole, backlog]
    exact congrArg Prod.fst handed

-- Between the two messages that are ready, one is being sent and one waits for its time.
theorem polls_pass_over_messages_that_are_not_ready :
    let m := Message.new "a" "a@example.com" ["b@example.org"] "s" .min
    let late : Instant := ⟨Instant.minSeconds, 9, by decide, by decide, by decide⟩
    let requests := [(.min, .call (.enqueue m)), (.min, .call (.enqueue { m with id := "b" })),
      (.min, .call (.enqueue { m with id := "c", scheduledAt := some late })),
      (.min, .call (.enqueue { m with id := "d" })), (.min, .call (.enqueue { m with id := "e" })),
      (.min, .call (.dequeue 2)), (.min, .call (.release "a"))]
    let s := ((new 9 .zero).serve requests).1
    let first := { m with status := .sending }
    let second := { m with id := "d", status := .sending }
    countEnqueues requests < UInt64.size ∧
      (s.run (polls .min [1, 0, 1])).2 = [.batch [first], .batch [], .batch [second]] ∧
      s.call .min (.dequeue 2) =
        ((s.run (polls .min [1, 0, 1])).1, .batch [first, second]) ∧
      [first, second] = ((((Backlog.new 9 .zero).serve requests).1.messages.filter
        (Backlog.isReady .min)).take 2).map (Backlog.sent .min) := by
  intro m late requests s first second
  have few : countEnqueues requests < UInt64.size := by decide
  have answers : (s.run (polls .min [1, 0, 1])).2 =
      [.batch [first], .batch [], .batch [second]] := by decide
  obtain ⟨batches, replies, together, -, -, -, listed⟩ :=
    polls_share_one_batch 9 .zero requests .min [1, 0, 1]
  have pieces : batches = [[first], [], [second]] :=
    List.map_injective_iff.2 (fun _ _ => QueueReply.batch.inj) (replies.symm.trans answers)
  rw [pieces] at together listed
  exact ⟨few, answers, together, listed few⟩

end Spool

end MailRelay
