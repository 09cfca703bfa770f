import MailRelay.Proofs.Queue.Batch

set_option autoImplicit false

namespace MailRelay

def Queue.toBacklog (q : Queue) : Backlog := ⟨q.capacity, q.retryDelay, q.messages⟩

theorem Queue.modify_eq (q : Queue) (id : String) (change : Message → Message) :
    q.modify id change =
      match q.get? id with
      | some m => .ok ((q.update id change).1, change m)
      | none => .error (.notFound id) := by
  cases found : q.entries.get? id with
  | none => simp [modify, get?, update_none change found, found]
  | some entry => simp [modify, get?, update_some change found, found]

namespace Spool

/-- The step from one spool to another is a step of the list, with the same answer and the same
snapshots; it takes at most a number of new tickets. -/
structure Refines {A : Type} (before after : Spool) (tickets : Nat) (answer : A)
    (listed : Backlog × A × List Message) : Prop where
  consistent : after.queue.Consistent
  tickets : after.queue.nextTicket.toNat ≤ before.queue.nextTicket.toNat + tickets
  backlog : listed.1 = after.queue.toBacklog
  answer : listed.2.1 = answer
  shown : after.journal = listed.2.2.reverse ++ before.journal

variable {s : Spool} (consistent : s.queue.Consistent)

include consistent

theorem modify_refines (id : String) {change : Message → Message}
    (keeps : ∀ m, (change m).id = m.id) :
    Refines s (s.settle (s.queue.modify id change)).1 0 (s.settle (s.queue.modify id change)).2
      (s.queue.toBacklog.modify id change) := by
  have search : Backlog.find? id s.queue.toBacklog.messages = s.queue.get? id :=
    consistent.find?_messages id
  rw [Queue.modify_eq, Backlog.modify, search]
  cases held : s.queue.get? id with
  | none => exact ⟨consistent, Nat.le_refl _, rfl, rfl, rfl⟩
  | some m =>
    obtain ⟨entry, found, -⟩ := Queue.get?_eq_some_iff.1 held
    refine ⟨consistent.update id keeps, ?_, ?_, rfl, rfl⟩
    · simp [settle, notify, Queue.update_some change found]
    · simp only [settle, notify, Queue.toBacklog, consistent.messages_update]
      simp [Queue.update_some change found]

theorem remove_refines (id : String) (change : Message → Message) :
    Refines s (s.settle (s.queue.remove id change)).1 0 (s.settle (s.queue.remove id change)).2
      (s.queue.toBacklog.remove id change) := by
  have search : Backlog.find? id s.queue.toBacklog.messages = s.queue.get? id :=
    consistent.find?_messages id
  rw [Queue.remove_eq, Backlog.remove, search]
  cases held : s.queue.get? id with
  | none => exact ⟨consistent, Nat.le_refl _, rfl, rfl, rfl⟩
  | some m =>
    refine ⟨consistent.without id, Nat.le_refl _, ?_, rfl, rfl⟩
    simp only [settle, notify, Queue.toBacklog, consistent.messages_without]
    rfl

theorem enqueue_refines (m : Message) (now : Instant)
    (room : s.queue.nextTicket.toNat + 1 < UInt64.size) :
    Refines s (s.call now (.enqueue m)).1 1 (s.call now (.enqueue m)).2
      (s.queue.toBacklog.call now (.enqueue m)) := by
  have search : Backlog.find? m.id s.queue.toBacklog.messages = s.queue.get? m.id :=
    consistent.find?_messages m.id
  have length : s.queue.toBacklog.messages.length = s.queue.size := consistent.length_messages
  have capacity : s.queue.toBacklog.capacity = s.queue.capacity := rfl
  rw [call, Queue.enqueue_eq, Backlog.call, search, length, capacity]
  by_cases full : s.queue.get? m.id = none ∧ s.queue.capacity ≤ s.queue.size
  · rw [if_pos full, if_pos full]
    exact ⟨consistent, Nat.le_succ _, rfl, rfl, rfl⟩
  · rw [if_neg full, if_neg full]
    refine ⟨consistent.append _ room, ?_, ?_, rfl, rfl⟩
    · simp only [settle, notify, Queue.append, UInt64.toNat_add, UInt64.reduceToNat]
      omega
    · simp only [settle, notify, Queue.toBacklog, consistent.messages_append]
      rfl

omit consistent in
theorem foldl_notify (batch : List Message) (s : Spool) :
    (batch.foldl notify s).queue = s.queue ∧
      (batch.foldl notify s).journal = batch.reverse ++ s.journal := by
  induction batch generalizing s with
  | nil => exact ⟨rfl, rfl⟩
  | cons m rest ih =>
    obtain ⟨queue, journal⟩ := ih (s.notify m)
    rw [List.foldl_cons, queue, journal]
    simp [notify]

theorem dequeue_refines (max : Nat) (now : Instant) :
    Refines s (s.call now (.dequeue max)).1 0 (s.call now (.dequeue max)).2
      (s.queue.toBacklog.call now (.dequeue max)) := by
  have handed : Backlog.handOut now max s.queue.toBacklog.messages =
      ((s.queue.dequeue max now).2, (s.queue.dequeue max now).1.messages) :=
    (consistent.dequeue_eq max now).symm
  obtain ⟨queue, journal⟩ := foldl_notify (s.queue.dequeue max now).2
    { s with queue := (s.queue.dequeue max now).1 }
  obtain ⟨capacity, retryDelay, nextTicket⟩ := Queue.send_keeps now
    ((s.queue.order.values.filter (s.queue.isReady now)).take max) s.queue
  rw [call, Backlog.call, handed]
  refine ⟨?_, ?_, ?_, rfl, journal⟩
  · rw [queue]
    exact Queue.send_consistent now _ consistent
  · rw [queue]
    exact Nat.le_of_eq (congrArg UInt64.toNat nextTicket)
  · simp only [queue, Queue.toBacklog]
    rw [Queue.dequeue, capacity, retryDelay]

theorem call_refines (now : Instant) (c : QueueCall)
    (room : s.queue.nextTicket.toNat + countEnqueues [(now, .call c)] < UInt64.size) :
    Refines s (s.call now c).1 (countEnqueues [(now, .call c)]) (s.call now c).2
      (s.queue.toBacklog.call now c) := by
  cases c with
  | enqueue m => exact enqueue_refines consistent m now room
  | dequeue max => exact dequeue_refines consistent max now
  | markDelivered id => exact remove_refines consistent id _
  | markFailed id reason retry =>
    cases retry with
    | true => exact modify_refines consistent id fun _ => rfl
    | false => exact remove_refines consistent id (Backlog.failed now reason)
  | release id => exact modify_refines consistent id fun _ => rfl

theorem ask_refines (now : Instant) (request : QueueRequest)
    (room : s.queue.nextTicket.toNat + countEnqueues [(now, request)] < UInt64.size) :
    Refines s (s.ask now request).1 (countEnqueues [(now, request)]) (s.ask now request).2
      (s.queue.toBacklog.ask now request) := by
  cases request with
  | call c =>
    have step := call_refines consistent now c room
    exact ⟨step.consistent, step.tickets, step.backlog,
      congrArg QueueAnswer.reply step.answer, step.shown⟩
  | size =>
    have length : s.queue.toBacklog.messages.length = s.queue.size := consistent.length_messages
    exact ⟨consistent, Nat.le_refl _, rfl, congrArg QueueAnswer.size length, rfl⟩
  | get id =>
    have search : Backlog.find? id s.queue.toBacklog.messages = s.queue.get? id :=
      consistent.find?_messages id
    exact ⟨consistent, Nat.le_refl _, rfl, congrArg QueueAnswer.message search, rfl⟩

omit consistent in
-- The tickets are counted along the run, so that none is given out twice.
theorem serve_refines (requests : List (Instant × QueueRequest)) {s : Spool}
    (consistent : s.queue.Consistent)
    (room : s.queue.nextTicket.toNat + countEnqueues requests < UInt64.size) :
    Refines s (s.serve requests).1 (countEnqueues requests) (s.serve requests).2
      (s.queue.toBacklog.serve requests) := by
  induction requests generalizing s with
  | nil => exact ⟨consistent, Nat.le_refl _, rfl, rfl, rfl⟩
  | cons first rest ih =>
    obtain ⟨now, request⟩ := first
    have split : countEnqueues ((now, request) :: rest) =
        countEnqueues [(now, request)] + countEnqueues rest := by
      simp only [countEnqueues, List.countP_cons, List.countP_nil]
      omega
    rw [split] at room ⊢
    have step := ask_refines consistent now request (by omega)
    have tickets := step.tickets
    have run := ih step.consistent (by omega)
    rw [Backlog.serve_cons, step.backlog]
    refine ⟨run.consistent, ?_, run.backlog, ?_, ?_⟩
    · have later := run.tickets
      simp only [serve]
      omega
    · exact congrArg₂ List.cons step.answer run.answer
    · simp [serve, run.shown, step.shown]

end Spool

theorem queue_refines_backlog (capacity : Nat) (retryDelay : Duration)
    (requests : List (Instant × QueueRequest)) (few : countEnqueues requests < UInt64.size) :
    let run := (Spool.new capacity retryDelay).serve requests
    let listed := (Backlog.new capacity retryDelay).serve requests
    run.2 = listed.2.1 ∧ run.1.journal = listed.2.2.reverse ∧
      run.1.queue.toBacklog = listed.1 ∧
      (∀ ticket id, (run.1.queue.entries.get? id).map (·.ticket) = some ticket ↔
        run.1.queue.order.get? ticket = some id) ∧
      (∀ id m, run.1.queue.get? id = some m → m.status = .queued ∨ m.status = .sending) ∧
      run.1.queue.size ≤ capacity := by
  intro run listed
  have refines : Spool.Refines (Spool.new capacity retryDelay) run.1 (countEnqueues requests)
      run.2 listed :=
    Spool.serve_refines requests (Queue.consistent_new capacity retryDelay)
      (by simpa [Spool.new, Queue.new] using few)
  have sound : listed.1.Sound capacity :=
    Backlog.serve_sound requests (Backlog.sound_new capacity retryDelay)
  refine ⟨refines.answer.symm, by simpa [Spool.new] using refines.shown, refines.backlog.symm,
    refines.consistent.ticket_iff, ?_, ?_⟩
  · intro id m held
    have named := refines.consistent.id_of_get? held
    refine sound.active m ?_
    rw [refines.backlog]
    exact refines.consistent.mem_messages_iff.2 (named ▸ held)
  · rw [← refines.consistent.length_messages]
    have bounded := sound.bounded
    rwa [refines.backlog] at bounded

-- A queue with room for one message, which comes in twice before it is handed out.
theorem queue_refines_backlog_reused_id :
    let m := Message.new "m" "a@example.com" ["b@example.org"] "s" .min
    let requests := [(.min, .call (.enqueue m)), (.min, .call (.enqueue m)),
      (.min, .call (.enqueue { m with id := "n" })), (.min, .size), (.min, .call (.dequeue 9)),
      (.min, .call (.markFailed "m" "late" true)), (.min, .call (.release "n")), (.min, .get "n")]
    countEnqueues requests < UInt64.size ∧
      ((Spool.new 1 .zero).serve requests).2 =
        [.reply .done, .reply .done, .reply (.refused (.full 1)), .size 1,
          .reply (.batch [{ m with status := .sending }]), .reply .done,
          .reply (.refused (.notFound "n")), .message none] := by
  intro m requests
  have few : countEnqueues requests < UInt64.size := by decide
  exact ⟨few, (queue_refines_backlog 1 .zero requests few).1.trans (by decide)⟩

end MailRelay
