import MailRelay.Proofs.Queue.Changes

set_option autoImplicit false

namespace MailRelay.Queue

theorem startSending_twice (now : Instant) (m : Message) :
    startSending now (startSending now m) = startSending now m := rfl

theorem send_cons (now : Instant) (id : String) (rest : List String) (q : Queue) :
    send now (id :: rest) q =
      ((send now rest (q.update id (startSending now)).1).1,
        (q.update id (startSending now)).2.toList ++
          (send now rest (q.update id (startSending now)).1).2) := rfl

theorem send_answer (now : Instant) (ids : List String) (q : Queue) :
    (send now ids q).2 = ids.filterMap fun id => (q.get? id).map (startSending now) := by
  induction ids generalizing q with
  | nil => rfl
  | cons id rest ih =>
    have later : (fun other => ((q.update id (startSending now)).1.get? other).map
        (startSending now)) = fun other => (q.get? other).map (startSending now) := by
      funext other
      rw [get?_update]
      by_cases same : other = id
      · rw [if_pos same, same, Option.map_map]
        rfl
      · rw [if_neg same]
    rw [send_cons, ih, update_answer, later]
    cases found : q.get? id <;> simp [found]

theorem send_consistent (now : Instant) (ids : List String) {q : Queue}
    (consistent : q.Consistent) : (send now ids q).1.Consistent := by
  induction ids generalizing q with
  | nil => exact consistent
  | cons id rest ih => exact ih (consistent.update id fun _ => rfl)

theorem send_messages (now : Instant) (ids : List String) {q : Queue}
    (consistent : q.Consistent) :
    (send now ids q).1.messages =
      q.messages.map fun m => if m.id ∈ ids then startSending now m else m := by
  induction ids generalizing q with
  | nil => simp [send]
  | cons id rest ih =>
    have updated : (q.update id (startSending now)).1.Consistent :=
      consistent.update id fun _ => rfl
    rw [send_cons, ih updated, consistent.messages_update, Backlog.alter, List.map_map]
    refine List.map_congr_left fun m _ => ?_
    have kept : (startSending now m).id = m.id := rfl
    by_cases first : m.id = id <;> by_cases later : m.id ∈ rest <;>
      simp_all [startSending_twice]

theorem send_keeps (now : Instant) (ids : List String) (q : Queue) :
    (send now ids q).1.capacity = q.capacity ∧ (send now ids q).1.retryDelay = q.retryDelay ∧
      (send now ids q).1.nextTicket = q.nextTicket := by
  induction ids generalizing q with
  | nil => exact ⟨rfl, rfl, rfl⟩
  | cons id rest ih =>
    obtain ⟨capacity, retryDelay, nextTicket⟩ := ih (q.update id (startSending now)).1
    rw [send_cons, capacity, retryDelay, nextTicket]
    cases found : q.entries.get? id with
    | none => simp [update_none _ found]
    | some entry => simp [update_some _ found]

namespace Consistent

variable {q : Queue} (consistent : q.Consistent)

include consistent

theorem filter_isReady (now : Instant) :
    q.order.values.filter (q.isReady now) =
      (q.messages.filter (Backlog.isReady now)).map (·.id) := by
  rw [← consistent.map_id_messages, List.filter_map]
  congr 1
  refine List.filter_congr fun m member => ?_
  simp [isReady, Backlog.isReady, consistent.mem_messages_iff.1 member]

theorem dequeue_eq (max : Nat) (now : Instant) :
    ((q.dequeue max now).2, (q.dequeue max now).1.messages) =
      Backlog.handOut now max q.messages := by
  have ids : (q.order.values.filter (q.isReady now)).take max =
      (Backlog.due now max q.messages).map (·.id) := by
    rw [consistent.filter_isReady, Backlog.due, List.map_take]
  rw [Backlog.handOut_eq now max consistent.nodup_ids, dequeue, ids,
    send_messages now _ consistent, send_answer, List.filterMap_map]
  congr 1
  -- Every message that is due is found again under its identifier.
  have held : ∀ m ∈ Backlog.due now max q.messages, q.get? m.id = some m := fun m member =>
    consistent.mem_messages_iff.1
      (List.mem_of_mem_filter ((List.take_sublist ..).subset member))
  rw [← List.filterMap_eq_map]
  refine List.filterMap_congr fun m member => ?_
  simp [held m member]
  rfl

end Consistent

end MailRelay.Queue
