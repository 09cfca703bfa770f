import MailRelay.Proofs.Queue.Refinement

set_option autoImplicit false

namespace MailRelay

def QueueEntry.alter (change : Message → Message) (e : QueueEntry) : QueueEntry :=
  { e with message := change e.message }

namespace QueueCall

def settled? : QueueCall → Option String
  | markDelivered id | markFailed id _ _ | release id => some id
  | enqueue _ | dequeue _ => none

def isFinal : QueueCall → Bool
  | markDelivered _ | markFailed _ _ false => true
  | _ => false

def settle (now : Instant) (base : Duration) : QueueCall → Message → Message
  | markDelivered _ => Backlog.delivered now
  | markFailed _ reason true => Backlog.putOff now reason base
  | markFailed _ reason false => Backlog.failed now reason
  | release _ => Backlog.released now
  | _ => id

theorem id_settle (now : Instant) (base : Duration) (c : QueueCall) (m : Message) :
    (c.settle now base m).id = m.id := by
  cases c with
  | markFailed id reason retry => cases retry <;> rfl
  | _ => rfl

theorem updatedAt_settle (now : Instant) (base : Duration) {c : QueueCall} {id : String}
    (settled : c.settled? = some id) (m : Message) : (c.settle now base m).updatedAt = now := by
  cases c with
  | enqueue | dequeue => simp [settled?] at settled
  | markFailed id reason retry => cases retry <;> rfl
  | markDelivered | release => rfl

theorem queued_of_settle {c : QueueCall} {id : String} (now : Instant) (base : Duration)
    (m : Message) (settles : c.settled? = some id) (stays : c.isFinal = false) :
    (c.settle now base m).status = .queued := by
  cases c with
  | enqueue | dequeue => simp [settled?] at settles
  | markDelivered => simp [isFinal] at stays
  | markFailed id reason retry =>
    cases retry with
    | true => rfl
    | false => simp [isFinal] at stays
  | release => rfl

theorem ended_of_settle {c : QueueCall} (now : Instant) (base : Duration) (m : Message)
    (leaves : c.isFinal = true) :
    (c.settle now base m).status = .delivered ∨ (c.settle now base m).status = .failed := by
  cases c with
  | enqueue | dequeue | release => simp [isFinal] at leaves
  | markDelivered => exact .inl rfl
  | markFailed id reason retry =>
    cases retry with
    | true => simp [isFinal] at leaves
    | false => exact .inr rfl

end QueueCall

namespace Queue

theorem entry?_update (q : Queue) (id other : String) (change : Message → Message) :
    (q.update id change).1.entries.get? other =
      if other = id then (q.entries.get? id).map (·.alter change) else q.entries.get? other := by
  cases found : q.entries.get? id with
  | none =>
    rw [update_none change found]
    by_cases same : other = id <;> simp [same, found]
  | some entry =>
    rw [update_some change found, SortedMap.get?_insert]
    by_cases same : other = id <;> simp [same, QueueEntry.alter]

theorem entry?_append (q : Queue) (m : Message) (other : String) :
    (q.append m).entries.get? other =
      if other = m.id then some ⟨q.nextTicket, m⟩ else q.entries.get? other :=
  SortedMap.get?_insert ..

theorem vacated_sublist (q : Queue) (id : String) :
    (q.vacated id).values.Sublist q.order.values := by
  unfold vacated
  split
  · exact List.Sublist.map _ List.filter_sublist
  · exact List.Sublist.refl _

def due (q : Queue) (now : Instant) (max : Nat) : List String :=
  (q.order.values.filter (q.isReady now)).take max

theorem entry?_send (now : Instant) (ids : List String) (q : Queue) (id : String) :
    (send now ids q).1.entries.get? id =
      if id ∈ ids then (q.entries.get? id).map (·.alter (startSending now))
      else q.entries.get? id := by
  induction ids generalizing q with
  | nil => rfl
  | cons first rest ih =>
    rw [send_cons, ih, entry?_update]
    by_cases same : id = first
    · subst same
      -- Marking a message twice is marking it once.
      have twice : (fun e => QueueEntry.alter (startSending now) e) ∘
          (fun e => QueueEntry.alter (startSending now) e) =
            fun e => QueueEntry.alter (startSending now) e := rfl
      by_cases again : id ∈ rest <;> simp [again, twice]
    · simp [same]

theorem entry?_dequeue (q : Queue) (max : Nat) (now : Instant) (id : String) :
    (q.dequeue max now).1.entries.get? id =
      if id ∈ q.due now max then (q.entries.get? id).map (·.alter (startSending now))
      else q.entries.get? id :=
  entry?_send now _ q id

theorem get?_dequeue (q : Queue) (max : Nat) (now : Instant) (id : String) :
    (q.dequeue max now).1.get? id =
      if id ∈ q.due now max then (q.get? id).map (startSending now) else q.get? id := by
  rw [get?, entry?_dequeue]
  split
  · simp [get?, Function.comp_def, QueueEntry.alter]
  · rfl

theorem order_send (now : Instant) (ids : List String) (q : Queue) :
    (send now ids q).1.order = q.order := by
  induction ids generalizing q with
  | nil => rfl
  | cons id rest ih => rw [send_cons, ih, update_order]

theorem filed_send (now : Instant) (ids : List String) {q : Queue} (filed : q.Filed) :
    (send now ids q).1.Filed := by
  induction ids generalizing q with
  | nil => exact filed
  | cons id rest ih => exact ih (filed.update id fun _ => rfl)

theorem of_mem_due {q : Queue} {now : Instant} {max : Nat} {id : String}
    (member : id ∈ q.due now max) :
    id ∈ q.order.values ∧ ∃ m, q.get? id = some m ∧ m.status = .queued ∧ m.isDue now := by
  obtain ⟨listed, ready⟩ := List.mem_filter.1 (List.mem_of_mem_take member)
  refine ⟨listed, ?_⟩
  rw [isReady] at ready
  cases held : q.get? id with
  | none => simp [held] at ready
  | some m =>
    simp only [held, Bool.and_eq_true, beq_iff_eq] at ready
    exact ⟨m, rfl, ready⟩

theorem length_filter_id (batch : List Message) (id : String) :
    (batch.filter (·.id = id)).length = (batch.map (·.id)).count id := by
  rw [List.count, List.countP_map, List.countP_eq_length_filter]
  simp only [Function.comp_def, beq_eq_decide]

section Batch

variable {q : Queue} (filed : q.Filed) (max : Nat) (now : Instant)

include filed

theorem nodup_due : (q.due now max).Nodup :=
  (filed.nodup_values.filter _).sublist (List.take_sublist ..)

theorem map_id_dequeue : (q.dequeue max now).2.map (·.id) = q.due now max := by
  rw [dequeue, send_answer]
  refine map_id_filterMap fun id member => ?_
  obtain ⟨-, m, found, -⟩ := of_mem_due member
  have named : m.id = id := filed.id_of_get? found
  exact ⟨startSending now m, by rw [found]; rfl, named⟩

theorem mem_dequeue_iff {m : Message} :
    m ∈ (q.dequeue max now).2 ↔
      m.id ∈ q.due now max ∧ (q.get? m.id).map (startSending now) = some m := by
  rw [dequeue, send_answer, List.mem_filterMap]
  constructor
  · rintro ⟨id, member, sent⟩
    obtain ⟨old, found, rfl⟩ := Option.map_eq_some_iff.1 sent
    obtain rfl : old.id = id := filed.id_of_get? found
    exact ⟨member, sent⟩
  · rintro ⟨member, sent⟩
    exact ⟨m.id, member, sent⟩

-- No identifier is handed out twice, so that the batch has one message for each of them.
theorem filter_dequeue {id : String} {m : Message} (member : id ∈ q.due now max)
    (found : q.get? id = some m) :
    (q.dequeue max now).2.filter (·.id = id) = [startSending now m] := by
  have named : m.id = id := filed.id_of_get? found
  have taken : startSending now m ∈ (q.dequeue max now).2.filter (·.id = id) := by
    refine List.mem_filter.2 ⟨(mem_dequeue_iff filed max now).2 ?_, decide_eq_true named⟩
    simp [startSending, named, member, found]
  have once : ((q.dequeue max now).2.filter (·.id = id)).length ≤ 1 := by
    rw [length_filter_id, map_id_dequeue filed]
    exact List.nodup_iff_count_le_one.1 (nodup_due filed max now) id
  cases batch : (q.dequeue max now).2.filter (·.id = id) with
  | nil => simp [batch] at taken
  | cons first rest =>
    rw [batch] at taken once
    obtain rfl : rest = [] := List.length_eq_zero_iff.1 (by simpa using once)
    rw [List.mem_singleton.1 taken]

end Batch

end Queue

namespace Spool

def record? (s : Spool) (id : String) : Option Message := s.journal.find? (·.id == id)

theorem id_of_record? {s : Spool} {id : String} {m : Message} (shown : s.record? id = some m) :
    m.id = id :=
  beq_iff_eq.1 (List.find?_some (p := fun n : Message => n.id == id) shown)

theorem record?_notify (s : Spool) (m : Message) (id : String) :
    (s.notify m).record? id = if m.id = id then some m else s.record? id := by
  by_cases same : m.id = id <;> simp [record?, notify, same]

def Tracked (s : Spool) : Prop := ∀ id, s.tracker.get? id = s.record? id

theorem tracked_new (capacity : Nat) (retryDelay : Duration) : (new capacity retryDelay).Tracked :=
  fun _ => rfl

namespace Tracked

variable {s : Spool} (tracked : s.Tracked)

include tracked

theorem notify (m : Message) : (s.notify m).Tracked := by
  intro id
  rw [record?_notify, ← tracked id]
  simp only [Spool.notify, Tracker.observe, Tracker.get?, SortedMap.get?_insert]
  simp only [eq_comm]

theorem settle (outcome : Except QueueError (Queue × Message)) : (s.settle outcome).1.Tracked := by
  cases outcome with
  | error e => exact tracked
  | ok changed => exact notify (s := { s with queue := changed.1 }) tracked changed.2

theorem call (now : Instant) (c : QueueCall) : (s.call now c).1.Tracked := by
  cases c with
  | dequeue max =>
    have all (batch : List Message) (s : Spool) (tracked : s.Tracked) :
        (batch.foldl Spool.notify s).Tracked := by
      induction batch generalizing s with
      | nil => exact tracked
      | cons m rest ih => exact ih _ (tracked.notify m)
    exact all _ _ tracked
  | _ => exact tracked.settle _

end Tracked

theorem stats_foldl_notify (batch : List Message) (s : Spool) :
    (batch.foldl notify s).stats = s.stats := by
  induction batch generalizing s with
  | nil => rfl
  | cons m rest ih => exact ih (s.notify m)

section Dequeue

variable (s : Spool) (now : Instant) (max : Nat)

@[simp] theorem queue_call_dequeue :
    (s.call now (.dequeue max)).1.queue = (s.queue.dequeue max now).1 :=
  (foldl_notify ..).1

@[simp] theorem reply_call_dequeue :
    (s.call now (.dequeue max)).2 = .batch (s.queue.dequeue max now).2 := rfl

theorem record?_call_dequeue {s : Spool} (filed : s.queue.Filed) (id : String) :
    (s.call now (.dequeue max)).1.record? id =
      if id ∈ s.queue.due now max then (s.queue.dequeue max now).1.get? id else s.record? id := by
  have shown : (s.call now (.dequeue max)).1.journal =
      (s.queue.dequeue max now).2.reverse ++ s.journal := (foldl_notify ..).2
  have ids := Queue.map_id_dequeue filed max now
  have distinct : ((s.queue.dequeue max now).2.reverse.map (·.id)).Nodup := by
    rw [List.map_reverse, ids, List.nodup_reverse]
    exact Queue.nodup_due filed max now
  rw [record?, shown, List.find?_append]
  by_cases member : id ∈ s.queue.due now max
  · rw [if_pos member]
    obtain ⟨-, m, found, -⟩ := Queue.of_mem_due member
    have named : m.id = id := filed.id_of_get? found
    have handed : Queue.startSending now m ∈ (s.queue.dequeue max now).2 := by
      rw [Queue.mem_dequeue_iff filed]
      simp [Queue.startSending, named, member, found]
    have first : (s.queue.dequeue max now).2.reverse.find? (·.id == id) =
        some (Queue.startSending now m) :=
      (Backlog.find?_eq_some_iff distinct).2 ⟨List.mem_reverse.2 handed, named⟩
    rw [first, Queue.get?_dequeue, if_pos member, found]
    rfl
  · rw [if_neg member]
    have absent : (s.queue.dequeue max now).2.reverse.find? (·.id == id) = none := by
      refine List.find?_eq_none.2 fun m handed => ?_
      have among : m.id ∈ s.queue.due now max := by
        rw [← ids]
        exact List.mem_map_of_mem (List.mem_reverse.1 handed)
      simp only [beq_iff_eq]
      rintro rfl
      exact member among
    rw [absent, Option.none_or, record?]

end Dequeue

def letIn (s : Spool) (now : Instant) (m : Message) : Spool :=
  let waiting := { m with status := .queued, updatedAt := now }
  { s with queue := s.queue.append waiting }.notify waiting

theorem call_enqueue (s : Spool) (now : Instant) (m : Message) :
    s.call now (.enqueue m) =
      if s.queue.get? m.id = none ∧ s.queue.capacity ≤ s.queue.size then
        (s, .refused (.full s.queue.capacity))
      else (s.letIn now m, .done) := by
  rw [call, Queue.enqueue_eq]
  split <;> rfl

inductive Submitted (s : Spool) (limits : Limits) (m : Message) (now : Instant) :
    Except SubmitError Spool → Prop where
  | invalid {e : ValidationError} (unfit : m.validate limits = .error e) :
    Submitted s limits m now (.error (.invalid e))
  | refused {e : QueueError} (valid : m.validate limits = .ok ())
      (called : s.call now (.enqueue m) = (s, .refused e)) :
    Submitted s limits m now (.error (.queue e))
  | accepted (valid : m.validate limits = .ok ())
      (called : s.call now (.enqueue m) = (s.letIn now m, .done)) :
    Submitted s limits m now (.ok { s.letIn now m with stats := s.stats.countSent })

theorem submitted (s : Spool) (limits : Limits) (m : Message) (now : Instant) :
    Submitted s limits m now (s.submit limits m now) := by
  cases valid : m.validate limits with
  | error e =>
    simp only [submit, valid, Except.mapError, bind, Except.bind]
    exact .invalid valid
  | ok =>
    have called := s.call_enqueue now m
    have placed := s.queue.enqueue_eq m now
    simp only [submit, valid, Except.mapError, bind, Except.bind]
    split at called
    · next full =>
      rw [placed, if_pos full]
      exact .refused valid called
    · next room =>
      rw [placed, if_neg room]
      exact .accepted valid called

theorem get?_letIn (s : Spool) (now : Instant) (m : Message) (id : String) :
    (s.letIn now m).queue.get? id =
      if id = m.id then some { m with status := .queued, updatedAt := now }
      else s.queue.get? id :=
  Queue.get?_append ..

theorem record?_letIn (s : Spool) (now : Instant) (m : Message) (id : String) :
    (s.letIn now m).record? id =
      if m.id = id then some { m with status := .queued, updatedAt := now } else s.record? id :=
  record?_notify ..

structure Settles (before : Spool) (now : Instant) (c : QueueCall) (entry : QueueEntry)
    (after : Spool) : Prop where
  entries : ∀ other, after.queue.entries.get? other =
    if other = entry.message.id then
      if c.isFinal then none else some (entry.alter (c.settle now before.queue.retryDelay))
    else before.queue.entries.get? other
  order : after.queue.order.values.Sublist before.queue.order.values
  retryDelay : after.queue.retryDelay = before.queue.retryDelay
  journal : after.journal = c.settle now before.queue.retryDelay entry.message :: before.journal
  stats : after.stats = before.stats

namespace Settles

variable {before after : Spool} {now : Instant} {c : QueueCall} {entry : QueueEntry}
  (settles : before.Settles now c entry after)

include settles

theorem get? (other : String) : after.queue.get? other =
    if other = entry.message.id then
      if c.isFinal then none else some (c.settle now before.queue.retryDelay entry.message)
    else before.queue.get? other := by
  rw [Queue.get?, settles.entries]
  split
  · split <;> rfl
  · rfl

theorem record? (other : String) : after.record? other =
    if other = entry.message.id then some (c.settle now before.queue.retryDelay entry.message)
    else before.record? other := by
  have named := c.id_settle now before.queue.retryDelay entry.message
  rw [Spool.record?, settles.journal]
  by_cases same : other = entry.message.id
  · simp [same, named]
  · simp [named, same, Ne.symm same, Spool.record?]

end Settles

section Settle

variable {s : Spool} {entry : QueueEntry}
  (found : s.queue.entries.get? entry.message.id = some entry)

include found

theorem settle_modify (now : Instant) {c : QueueCall} (stays : c.isFinal = false) :
    ∃ after, s.settle (s.queue.modify entry.message.id (c.settle now s.queue.retryDelay)) =
      (after, .done) ∧ s.Settles now c entry after := by
  simp only [Queue.modify, Queue.update_some _ found, settle]
  refine ⟨_, rfl, ⟨fun other => ?_, List.Sublist.refl _, rfl, rfl, rfl⟩⟩
  rw [stays]
  exact SortedMap.get?_insert ..

theorem settle_remove (now : Instant) {c : QueueCall} (leaves : c.isFinal = true) :
    ∃ after, s.settle (s.queue.remove entry.message.id (c.settle now s.queue.retryDelay)) =
      (after, .done) ∧ s.Settles now c entry after := by
  simp only [Queue.remove, found, settle]
  refine ⟨_, rfl, ⟨fun other => ?_, ?_, rfl, rfl, rfl⟩⟩
  · rw [leaves]
    exact SortedMap.get?_erase ..
  · exact List.Sublist.map _ List.filter_sublist

theorem call_settles (now : Instant) {c : QueueCall}
    (settles : c.settled? = some entry.message.id) :
    ∃ after, s.call now c = (after, .done) ∧ s.Settles now c entry after := by
  cases c with
  | enqueue m => simp [QueueCall.settled?] at settles
  | dequeue max => simp [QueueCall.settled?] at settles
  | markDelivered id =>
    obtain rfl : id = entry.message.id := by simpa [QueueCall.settled?] using settles
    exact settle_remove (c := .markDelivered _) found now rfl
  | markFailed id reason retry =>
    obtain rfl : id = entry.message.id := by simpa [QueueCall.settled?] using settles
    cases retry with
    | true => exact settle_modify (c := .markFailed _ reason true) found now rfl
    | false => exact settle_remove (c := .markFailed _ reason false) found now rfl
  | release id =>
    obtain rfl : id = entry.message.id := by simpa [QueueCall.settled?] using settles
    exact settle_modify (c := .release _) found now rfl

end Settle

theorem call_missing {s : Spool} {id : String} (missing : s.queue.get? id = none) (now : Instant)
    {c : QueueCall} (settles : c.settled? = some id) :
    s.call now c = (s, .refused (.notFound id)) := by
  cases c with
  | enqueue | dequeue => simp [QueueCall.settled?] at settles
  | markDelivered | release =>
    obtain rfl := Option.some.inj settles
    simp [call, Queue.markDelivered, Queue.release, Queue.remove_eq, Queue.modify_eq, missing,
      settle]
  | markFailed other reason retry =>
    obtain rfl := Option.some.inj settles
    cases retry <;>
      simp [call, Queue.markFailed, Queue.remove_eq, Queue.modify_eq, missing, settle]

section Any

variable {s : Spool} (now : Instant)

theorem stats_settle (s : Spool) (outcome : Except QueueError (Queue × Message)) :
    (s.settle outcome).1.stats = s.stats := by
  cases outcome <;> rfl

-- The counters are nobody's business but that of those who call.
theorem stats_call (c : QueueCall) : (s.call now c).1.stats = s.stats := by
  cases c with
  | dequeue max => exact stats_foldl_notify ..
  | _ => exact stats_settle ..

theorem reply_call_ne_batch {c : QueueCall} {id : String} (settled : c.settled? = some id)
    (batch : List Message) : (s.call now c).2 ≠ .batch batch := by
  have settle (outcome : Except QueueError (Queue × Message)) :
      (s.settle outcome).2 ≠ .batch batch := by
    cases outcome <;> simp [Spool.settle]
  cases c with
  | dequeue => simp [QueueCall.settled?] at settled
  | _ => exact settle _

variable (filed : s.queue.Filed)

include filed

theorem filed_call (c : QueueCall) : (s.call now c).1.queue.Filed := by
  have modify (id : String) {change : Message → Message} (keeps : ∀ m, (change m).id = m.id) :
      (s.settle (s.queue.modify id change)).1.queue.Filed := by
    rw [Queue.modify_eq]
    split
    · exact filed.update id keeps
    · exact filed
  have remove (id : String) (change : Message → Message) :
      (s.settle (s.queue.remove id change)).1.queue.Filed := by
    rw [Queue.remove_eq]
    split
    · exact filed.without id
    · exact filed
  cases c with
  | enqueue m =>
    rw [call_enqueue]
    split
    · exact filed
    · exact filed.append _
  | dequeue max =>
    rw [queue_call_dequeue]
    exact Queue.filed_send now _ filed
  | markDelivered id => exact remove id _
  | markFailed id reason retry =>
    cases retry with
    | true => exact modify id fun _ => rfl
    | false => exact remove id (Backlog.failed now reason)
  | release id => exact modify id fun _ => rfl

variable {c : QueueCall} {id : String} (settled : c.settled? = some id)

include settled

theorem settles_or_misses :
    (s.queue.get? id = none ∧ s.call now c = (s, .refused (.notFound id))) ∨
      ∃ entry after, entry.message.id = id ∧ s.queue.entries.get? id = some entry ∧
        s.call now c = (after, .done) ∧ s.Settles now c entry after := by
  cases found : s.queue.entries.get? id with
  | none =>
    have missing : s.queue.get? id = none := by rw [Queue.get?, found]; rfl
    exact .inl ⟨missing, call_missing missing now settled⟩
  | some entry =>
    obtain rfl := filed.named found
    obtain ⟨after, called, settles⟩ := call_settles found now settled
    exact .inr ⟨entry, after, rfl, rfl, called, settles⟩

theorem call_elsewhere {other : String} (elsewhere : other ≠ id) :
    (s.call now c).1.queue.entries.get? other = s.queue.entries.get? other ∧
      (s.call now c).1.record? other = s.record? other := by
  rcases settles_or_misses now filed settled with
    ⟨-, missed⟩ | ⟨entry, after, rfl, -, called, settles⟩
  · rw [missed]
    exact ⟨rfl, rfl⟩
  · rw [called, settles.entries, settles.record?, if_neg elsewhere, if_neg elsewhere]
    exact ⟨rfl, rfl⟩

theorem order_call_settled :
    (s.call now c).1.queue.order.values.Sublist s.queue.order.values := by
  rcases settles_or_misses now filed settled with ⟨-, missed⟩ | ⟨_, after, -, -, called, settles⟩
  · rw [missed]
  · rw [called]
    exact settles.order

-- Whatever a settling call changes waits from then on, at its old place.
theorem entry_of_call {other : String} {last : QueueEntry}
    (stored : (s.call now c).1.queue.entries.get? other = some last) :
    ∃ entry, s.queue.entries.get? other = some entry ∧ last.ticket = entry.ticket ∧
      (last = entry ∧ other ≠ id ∨
        last.message.status = .queued ∧ last.message.updatedAt = now) := by
  by_cases same : other = id
  · subst same
    rcases settles_or_misses now filed settled with ⟨missing, missed⟩ |
      ⟨entry, after, rfl, found, called, settles⟩
    · rw [missed] at stored
      simp [Queue.get?, stored] at missing
    · rw [called, settles.entries, if_pos rfl] at stored
      split at stored
      · cases stored
      · next stays =>
        obtain rfl := Option.some.inj stored
        refine ⟨entry, found, rfl, .inr ⟨?_, QueueCall.updatedAt_settle now _ settled _⟩⟩
        exact QueueCall.queued_of_settle now _ _ settled (by simpa using stays)
  · rw [(call_elsewhere now filed settled same).1] at stored
    exact ⟨last, stored, rfl, .inl ⟨rfl, same⟩⟩

end Any

end Spool

end MailRelay
