import MailRelay.Proofs.Queue.Calls

set_option autoImplicit false

namespace MailRelay.Spool

def history (s : Spool) (id : String) : List Message := s.journal.filter (·.id == id)

theorem record?_eq_head? (s : Spool) (id : String) : s.record? id = (s.history id).head? := by
  rw [history, List.head?_filter, record?]

theorem history_notify (s : Spool) (m : Message) (id : String) :
    (s.notify m).history id = if m.id = id then m :: s.history id else s.history id := by
  by_cases same : m.id = id <;> simp [history, notify, same]

theorem history_letIn (s : Spool) (now : Instant) (m : Message) (id : String) :
    (s.letIn now m).history id =
      if m.id = id then { m with status := .queued, updatedAt := now } :: s.history id
      else s.history id :=
  history_notify ..

theorem journal_call_dequeue (s : Spool) (now : Instant) (max : Nat) :
    (s.call now (.dequeue max)).1.journal = (s.queue.dequeue max now).2.reverse ++ s.journal :=
  (foldl_notify ..).2

theorem history_call_dequeue (s : Spool) (now : Instant) {max : Nat} {id : String}
    (filed : s.queue.Filed) (undue : id ∉ s.queue.due now max) :
    (s.call now (.dequeue max)).1.history id = s.history id := by
  have others : (s.queue.dequeue max now).2.reverse.filter (·.id == id) = [] := by
    refine List.filter_eq_nil_iff.2 fun m taken same => undue ?_
    rw [← Queue.map_id_dequeue filed max now, ← beq_iff_eq.1 same]
    exact List.mem_map_of_mem (List.mem_reverse.1 taken)
  rw [history, journal_call_dequeue, List.filter_append, others, List.nil_append, history]

theorem history_call_dequeue_of_due (s : Spool) (now : Instant) {max : Nat} {id : String}
    {m : Message} (filed : s.queue.Filed) (due : id ∈ s.queue.due now max)
    (found : s.queue.get? id = some m) :
    (s.call now (.dequeue max)).1.history id = Queue.startSending now m :: s.history id := by
  have handed := Queue.filter_dequeue filed max now due found
  simp only [← beq_eq_decide] at handed
  rw [history, journal_call_dequeue, List.filter_append, List.filter_reverse, handed]
  rfl

namespace Settles

variable {before after : Spool} {now : Instant} {c : QueueCall} {entry : QueueEntry}
  (settles : before.Settles now c entry after)

include settles

theorem history (other : String) : after.history other =
    if other = entry.message.id then
      c.settle now before.queue.retryDelay entry.message :: before.history other
    else before.history other := by
  have named := c.id_settle now before.queue.retryDelay entry.message
  rw [Spool.history, settles.journal]
  by_cases same : other = entry.message.id
  · simp [same, named, Spool.history]
  · simp [named, same, Ne.symm same, Spool.history]

end Settles

end MailRelay.Spool
