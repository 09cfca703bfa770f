import MailRelay.Proofs.Traffic.Standing

set_option autoImplicit false

namespace MailRelay

namespace Standing

variable {w : WorkerSettings} {now : Instant} {s s' : Standing}
  {booked : Option (Message × Except AttemptError Unit)}

def Answered (id : String) (s : Standing) : Prop :=
  ∀ call ∈ s.calls, call.2 ≠ .refused (.notFound id)

namespace Answered

variable {id : String} (answered : s.Answered id) (sound : s.Sound) (custody : s.Custody id)

include answered sound custody

theorem settle {m : Message} {c : QueueCall} (holds : m ∈ s.held)
    (settled : c.settled? = some m.id) : (s.call now c).Answered id := by
  refine List.forall_mem_cons.2 ⟨fun missed => ?_, answered⟩
  rcases Spool.settles_or_misses now sound.filed settled with
    ⟨missing, refused⟩ | ⟨_, _, _, _, called, _⟩
  · -- The call missed its own message, which the worker does not hold then.
    simp only [refused, QueueReply.refused.injEq, QueueError.notFound.injEq] at missed
    subst missed
    obtain ⟨stored, -⟩ := custody.of_mem holds
    simp [stored] at missing
  · simp [called] at missed

theorem turn (turn : s.Turn w now booked s') : s'.Answered id := by
  cases turn with
  | rest | accept | count | begin | tally => exact answered
  | poll => exact List.forall_mem_cons.2 ⟨nofun, answered⟩
  | release m held holds =>
    exact answered.settle sound custody (holds ▸ Multiset.mem_cons_self m held) rfl
  | book m outcome held current holds busy =>
    exact answered.settle sound custody (holds ▸ Multiset.mem_cons_self m held)
      (settled?_booking ..)

end Answered

/-- The queue keeps its messages in the order in which they were let in. -/
structure InOrder (s : Standing) : Prop where
  consistent : s.spool.queue.Consistent
  tickets : s.spool.queue.nextTicket.toNat ≤ s.accepted.length
  listed : s.spool.queue.order.values.Sublist s.ids

namespace InOrder

variable (inOrder : s.InOrder)

include inOrder

-- Calls other than new messages take no ticket.
theorem call {c : QueueCall} (none : countEnqueues [(now, .call c)] = 0)
    (part : (s.spool.call now c).1.queue.order.values.Sublist s.spool.queue.order.values)
    (held current : Multiset Message) (owed : Multiset Tally) :
    { s.call now c with held, current, owed : Standing }.InOrder := by
  have refines := Spool.call_refines inOrder.consistent now c (by
    rw [none]
    exact s.spool.queue.nextTicket.toNat_lt)
  rw [none] at refines
  exact ⟨refines.consistent, refines.tickets.trans inOrder.tickets, part.trans inOrder.listed⟩

theorem turn (turn : s.Turn w now booked s') (few : s'.accepted.length < UInt64.size) :
    s'.InOrder := by
  have filed := inOrder.consistent.toFiled
  cases turn with
  | rest => exact inOrder
  | count | begin | tally => exact ⟨inOrder.consistent, inOrder.tickets, inOrder.listed⟩
  | accept m called =>
    have room : s.spool.queue.nextTicket.toNat + 1 < UInt64.size := by
      rw [List.length_append] at few
      exact Nat.lt_of_le_of_lt (Nat.add_le_add_right inOrder.tickets 1) few
    have refines := Spool.enqueue_refines inOrder.consistent m now room
    rw [called] at refines
    refine ⟨refines.consistent, ?_, ?_⟩
    · rw [List.length_append]
      exact refines.tickets.trans (Nat.add_le_add_right inOrder.tickets 1)
    · simp only [Spool.letIn, Spool.notify, ids, List.map_append, inOrder.consistent.values_append]
      exact ((s.spool.queue.vacated_sublist _).trans inOrder.listed).append (.refl _)
  | poll =>
    refine inOrder.call rfl ?_ _ s.current s.owed
    rw [Spool.queue_call_dequeue, Queue.dequeue, Queue.order_send]
  | release m held holds =>
    exact inOrder.call rfl (Spool.order_call_settled now filed rfl) held s.current s.owed
  | book m outcome held current holds busy =>
    refine inOrder.call ?_ (Spool.order_call_settled now filed (settled?_booking ..)) held current _
    cases outcome <;> rfl

-- Both lists have the same members, and one is a part of the other.
theorem ids_messages (fresh : s.ids.Nodup) :
    s.spool.queue.messages.map (·.id) =
      s.ids.filter fun id => (s.spool.queue.get? id).isSome := by
  have stored {id : String} : id ∈ s.spool.queue.order.values ↔
      (s.spool.queue.get? id).isSome = true := by
    rw [inOrder.consistent.mem_values_iff, Option.isSome_iff_exists]
  have part : s.spool.queue.order.values.Sublist
      (s.ids.filter fun id => (s.spool.queue.get? id).isSome) := by
    have kept := inOrder.listed.filter fun id => (s.spool.queue.get? id).isSome
    rwa [List.filter_eq_self.2 fun id member => stored.1 member] at kept
  have whole : (s.ids.filter fun id => (s.spool.queue.get? id).isSome) ⊆
      s.spool.queue.order.values :=
    fun id member => stored.2 (List.mem_filter.1 member).2
  rw [inOrder.consistent.map_id_messages]
  exact part.eq_of_length_le
    ((List.subperm_of_subset (fresh.filter _) whole).length_le)

end InOrder

end Standing

namespace Traffic

variable {rules : TrafficRules} {capacity : Nat} {retryDelay cacheTtl : Duration}
  {moves : List (Clock × Move)} {t : Traffic}

theorem inOrder_of_run (ran : (opening capacity retryDelay cacheTtl).run rules moves = some t)
    (few : t.accepted.length < UInt64.size) : t.standing.InOrder := by
  refine standing_of_run (P := fun s => s.accepted.length < UInt64.size → s.InOrder) ran
    (fun _ => ?_) (fun _ inOrder turn few => ?_) few
  · exact ⟨Queue.consistent_new capacity retryDelay, Nat.le_of_eq UInt64.toNat_zero, .refl _⟩
  · have fewer := (Standing.sublist_ids_of_turn turn).length_le
    rw [Standing.ids, Standing.ids, List.length_map, List.length_map] at fewer
    exact (inOrder (Nat.lt_of_le_of_lt fewer few)).turn turn few

theorem answered_of_run (ran : (opening capacity retryDelay cacheTtl).run rules moves = some t)
    {id : String} (once : t.ids.count id ≤ 1) :
    ∀ call ∈ t.calls, call.2 ≠ .refused (.notFound id) :=
  standing_of_run_once (P := Standing.Answered id) ran once (List.forall_mem_nil _)
    fun sound custody answered turn _ => answered.turn sound custody turn

theorem sending_messages_are_held_once
    (ran : (opening capacity retryDelay cacheTtl).run rules moves = some t) (fresh : t.ids.Nodup) :
    (∀ id, (∃ m, t.queue.get? id = some m ∧ m.status = .sending) ↔ ∃ m ∈ t.held, m.id = id) ∧
      (t.held.map (·.id)).Nodup ∧
      (∀ m ∈ t.held, t.queue.get? m.id = some m) ∧
      (∀ c reply, (c, reply) ∈ t.calls → ∀ id, reply ≠ .refused (.notFound id)) ∧
      -- No message is lost: it is in the queue, at its place, or it has ended.
      (∀ m ∈ t.accepted,
        (∃ stored, t.queue.get? m.id = some stored ∧
          (stored.status = .queued ∨ stored.status = .sending)) ∨
        ∃ r, t.record? m.id = some r ∧ (r.status = .delivered ∨ r.status = .failed)) ∧
      (t.accepted.length < UInt64.size →
        t.queue.messages.map (·.id) = t.ids.filter fun id => (t.queue.get? id).isSome) := by
  have once := List.nodup_iff_count_le_one.1 fresh
  have sound := sound_of_run ran
  have custody (id : String) := custody_of_run ran (once id)
  refine ⟨fun id => (custody id).holds_iff.symm, Custody.nodup_held custody, fun m member => ?_,
    fun c reply called id => ?_, fun m member => ?_,
    fun few => (inOrder_of_run ran few).ids_messages fresh⟩
  · exact ((custody m.id).of_mem member).1
  · exact answered_of_run ran (once id) _ called
  · cases found : t.queue.get? m.id with
    | some stored => exact .inl ⟨stored, rfl, (sound.stored found).active⟩
    | none => exact .inr (sound.ended m.id (List.mem_map_of_mem member) found)

-- Each of two workers holds a message; then the flag goes up, and the first gives its message back.
theorem sending_messages_are_held_once_by_two_workers :
    let now : Clock := ⟨.min, 0⟩
    let moves := [(now, .join), (now, .join), (now, .submit (note "m")), (now, .submit (note "n")),
      (now, .work 0 .poll), (now, .work 1 .poll), (now, .raise), (now, .work 0 .proceed)]
    ∃ t, (opening 2 .zero .zero).run ⟨.default, ⟨1, 3⟩⟩ moves = some t ∧ t.ids.Nodup ∧
      (∃ m, t.queue.get? "n" = some m ∧ m.status = .sending) ∧
      ¬ ∃ m, t.queue.get? "m" = some m ∧ m.status = .sending := by
  intro now moves
  have facts : ((opening 2 .zero .zero).run ⟨.default, ⟨1, 3⟩⟩ moves).map
      (fun t => (t.ids, t.held.map (·.id))) = some (["m", "n"], ["n"]) := by decide
  obtain ⟨t, ran, facts⟩ := Option.map_eq_some_iff.1 facts
  obtain ⟨ids, held⟩ := Prod.mk.inj facts
  have fresh : t.ids.Nodup := by
    rw [ids]
    decide
  have sending := (sending_messages_are_held_once ran fresh).1
  refine ⟨t, ran, fresh, (sending "n").2 ?_, fun found => ?_⟩
  · exact List.mem_map.1 (held ▸ List.mem_singleton_self _)
  · have member := List.mem_map.2 ((sending "m").1 found)
    simp [held] at member

end Traffic

end MailRelay
