import MailRelay.Proofs.Queue.Calls

set_option autoImplicit false

namespace MailRelay

namespace QueueCall

-- Handing out a batch is about none.
def subject? : QueueCall → Option String
  | enqueue m => some m.id
  | dequeue _ => none
  | markDelivered id | markFailed id _ _ | release id => some id

theorem enqueue_or_settled {c : QueueCall} {id : String} (about : c.subject? = some id) :
    (∃ m, c = .enqueue m ∧ m.id = id) ∨ c.settled? = some id := by
  cases c with
  | enqueue m => exact .inl ⟨m, rfl, Option.some.inj about⟩
  | dequeue => cases about
  | markDelivered | markFailed | release => exact .inr about

end QueueCall

namespace Queue

variable {q : Queue}

def altered (q : Queue) (change : String → Message → Message) : Queue :=
  { q with entries := q.entries.mapValues fun id => QueueEntry.alter (change id) }

def only (id : String) (change : Message → Message) (other : String) (m : Message) : Message :=
  if other = id then change m else m

theorem entry?_altered (change : String → Message → Message) (id : String) :
    (q.altered change).entries.get? id = (q.entries.get? id).map (·.alter (change id)) :=
  SortedMap.get?_mapValues ..

theorem get?_altered (change : String → Message → Message) (id : String) :
    (q.altered change).get? id = (q.get? id).map (change id) := by
  simp [get?, entry?_altered, Function.comp_def, QueueEntry.alter]

theorem get?_altered_of_spared {change : String → Message → Message} {id : String}
    (spared : ∀ m, change id m = m) : (q.altered change).get? id = q.get? id := by
  rw [get?_altered, show change id = fun m => m from funext spared, Option.map_id']

@[simp] theorem size_altered (change : String → Message → Message) :
    (q.altered change).size = q.size :=
  SortedMap.size_mapValues ..

theorem eq_of_entry? {q p : Queue} (frame : { q with entries := p.entries } = p)
    (same : ∀ id, q.entries.get? id = p.entries.get? id) : q = p := by
  rw [← frame, ← SortedMap.ext_of_get? same]

theorem altered_congr {change change' : String → Message → Message}
    (same : ∀ id m, q.get? id = some m → change id m = change' id m) :
    q.altered change = q.altered change' := by
  refine eq_of_entry? rfl fun id => ?_
  rw [entry?_altered, entry?_altered]
  refine Option.map_congr fun entry found => ?_
  have alike := same id entry.message (get?_eq_some_iff.2 ⟨entry, found, rfl⟩)
  rw [QueueEntry.alter, alike, QueueEntry.alter]

theorem altered_altered (change later : String → Message → Message) :
    (q.altered change).altered later = q.altered fun id m => later id (change id m) := by
  refine eq_of_entry? rfl fun id => ?_
  rw [entry?_altered, entry?_altered, entry?_altered, Option.map_map]
  rfl

theorem update_eq_altered (id : String) (change : Message → Message) :
    (q.update id change).1 = q.altered (only id change) := by
  refine eq_of_entry? ?_ fun other => ?_
  · unfold update
    split <;> rfl
  · rw [entry?_update, entry?_altered]
    by_cases same : other = id
    · simp [same, only, QueueEntry.alter]
    · simp [same, only, QueueEntry.alter]

theorem altered_of_spared {change : String → Message → Message}
    (spared : ∀ id m, q.get? id = some m → change id m = m) : q.altered change = q := by
  have unchanged : q.altered change = q.altered fun _ m => m := altered_congr spared
  rw [unchanged]
  refine eq_of_entry? rfl fun id => ?_
  rw [entry?_altered]
  exact Option.map_id' ..

theorem send_eq_altered (now : Instant) (ids : List String) (q : Queue) :
    (send now ids q).1 = q.altered fun id m => if id ∈ ids then startSending now m else m := by
  induction ids generalizing q with
  | nil => exact (altered_of_spared fun _ _ _ => if_neg List.not_mem_nil).symm
  | cons first rest ih =>
    rw [send_cons, ih, update_eq_altered, altered_altered]
    refine altered_congr fun id m _ => ?_
    by_cases front : id = first <;> by_cases later : id ∈ rest <;>
      simp [only, front, later, startSending_twice]

theorem dequeue_eq_altered (max : Nat) (now : Instant) :
    (q.dequeue max now).1 =
      q.altered fun id m => if id ∈ q.due now max then startSending now m else m :=
  send_eq_altered now (q.due now max) q

theorem vacated_altered (change : String → Message → Message) (id : String) :
    (q.altered change).vacated id = q.vacated id := by
  rw [vacated, entry?_altered, vacated]
  cases q.entries.get? id <;> rfl

theorem entry?_without (q : Queue) (id other : String) :
    (q.without id).entries.get? other = if other = id then none else q.entries.get? other :=
  SortedMap.get?_erase ..

theorem without_altered (change : String → Message → Message) (id : String) :
    (q.altered change).without id = (q.without id).altered change := by
  refine eq_of_entry? ?_ fun other => ?_
  · rw [without, vacated_altered]
    rfl
  · rw [entry?_without, entry?_altered, entry?_altered, entry?_without]
    split <;> rfl

theorem append_altered {change : String → Message → Message} {m : Message}
    (spared : change m.id m = m) : (q.altered change).append m = (q.append m).altered change := by
  refine eq_of_entry? ?_ fun other => ?_
  · rw [append, vacated_altered]
    rfl
  · rw [entry?_append, entry?_altered, entry?_altered, entry?_append]
    by_cases same : other = m.id
    · simp [same, QueueEntry.alter, spared]
      rfl
    · simp [same]

def settled (q : Queue) (now : Instant) (c : QueueCall) (id : String) : Queue :=
  if c.isFinal then q.without id else q.altered (only id (c.settle now q.retryDelay))

theorem get?_settled (now : Instant) (c : QueueCall) {id other : String} (differs : other ≠ id) :
    (q.settled now c id).get? other = q.get? other := by
  rw [settled]
  split
  · rw [get?_without, if_neg differs]
  · rw [get?_altered_of_spared fun m => if_neg differs]

theorem retryDelay_settled (now : Instant) (c : QueueCall) (id : String) :
    (q.settled now c id).retryDelay = q.retryDelay := by
  rw [settled]
  split <;> rfl

-- Changes of different messages do not meet.
theorem settled_altered {change : String → Message → Message} {id : String}
    (spared : ∀ m, change id m = m) (now : Instant) (c : QueueCall) :
    (q.altered change).settled now c id = (q.settled now c id).altered change := by
  unfold settled
  split
  · exact without_altered change id
  · rw [altered_altered, altered_altered]
    refine altered_congr fun other m _ => ?_
    by_cases same : other = id
    · subst same
      simp [only, spared, altered]
    · simp [only, same]

end Queue

namespace Spool

variable {s : Spool} {id : String}

theorem call_found {m : Message} (found : s.queue.get? id = some m) (now : Instant) {c : QueueCall}
    (settled : c.settled? = some id) :
    s.call now c = ({ s with queue := s.queue.settled now c id }.notify
      (c.settle now s.queue.retryDelay m), .done) := by
  cases c with
  | enqueue | dequeue => simp [QueueCall.settled?] at settled
  | markDelivered other | release other =>
    obtain rfl := Option.some.inj settled
    simp only [call, Queue.markDelivered, Queue.release, Queue.remove_eq, Queue.modify_eq, found,
      Queue.update_eq_altered]
    rfl
  | markFailed other reason retry =>
    obtain rfl := Option.some.inj settled
    cases retry <;>
      simp only [call, Queue.markFailed, Queue.remove_eq, Queue.modify_eq, found,
        Queue.update_eq_altered] <;> rfl

-- Whoever asks about a message that stays as it is cannot tell whether others were changed.
theorem call_altered {s' : Spool} {change : String → Message → Message}
    (altered : s'.queue = s.queue.altered change) (spared : ∀ m, change id m = m) (now : Instant)
    {c : QueueCall} (about : c.subject? = some id) :
    (s'.call now c).1.queue = (s.call now c).1.queue.altered change ∧
      (s'.call now c).2 = (s.call now c).2 := by
  have seen : s'.queue.get? id = s.queue.get? id := by
    rw [altered, Queue.get?_altered_of_spared spared]
  rcases QueueCall.enqueue_or_settled about with ⟨m, rfl, rfl⟩ | settled
  · have capacity : s'.queue.capacity = s.queue.capacity := by
      rw [altered]
      rfl
    have size : s'.queue.size = s.queue.size := by rw [altered, Queue.size_altered]
    rw [call_enqueue, call_enqueue, seen, capacity, size]
    split
    · exact ⟨altered, rfl⟩
    · refine ⟨?_, rfl⟩
      simp only [letIn, notify]
      rw [altered]
      exact Queue.append_altered (spared _)
  · cases held : s.queue.get? id with
    | none =>
      rw [call_missing held now settled, call_missing (seen.trans held) now settled]
      exact ⟨altered, rfl⟩
    | some m =>
      rw [call_found held now settled, call_found (seen.trans held) now settled]
      refine ⟨?_, rfl⟩
      simp only [notify]
      rw [altered, Queue.settled_altered spared]

end Spool

end MailRelay
