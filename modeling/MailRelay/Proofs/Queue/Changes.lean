import MailRelay.Proofs.Queue.Index

set_option autoImplicit false

namespace MailRelay.Queue

variable {q : Queue}

def vacated (q : Queue) (id : String) : SortedMap UInt64 String :=
  match q.entries.get? id with
  | some entry => q.order.erase entry.ticket
  | none => q.order

theorem update_some {id : String} {entry : QueueEntry} (change : Message → Message)
    (found : q.entries.get? id = some entry) :
    q.update id change =
      ({ q with entries := q.entries.insert id ⟨entry.ticket, change entry.message⟩ },
        some (change entry.message)) := by
  simp [update, found]

theorem update_none {id : String} (change : Message → Message)
    (missing : q.entries.get? id = none) : q.update id change = (q, none) := by
  simp [update, missing]

@[simp] theorem update_order (q : Queue) (id : String) (change : Message → Message) :
    (q.update id change).1.order = q.order := by
  unfold update
  split <;> rfl

theorem update_answer (q : Queue) (id : String) (change : Message → Message) :
    (q.update id change).2 = (q.get? id).map change := by
  cases found : q.entries.get? id with
  | none => simp [update_none change found, get?, found]
  | some entry => simp [update_some change found, get?, found]

theorem get?_update (q : Queue) (id other : String) (change : Message → Message) :
    (q.update id change).1.get? other =
      if other = id then (q.get? id).map change else q.get? other := by
  cases found : q.entries.get? id with
  | none =>
    rw [update_none change found]
    by_cases same : other = id <;> simp [same, get?, found]
  | some entry =>
    rw [update_some change found]
    simp only [get?, SortedMap.get?_insert]
    by_cases same : other = id <;> simp [same, found]

def without (q : Queue) (id : String) : Queue :=
  { q with order := q.vacated id, entries := q.entries.erase id }

theorem remove_eq (q : Queue) (id : String) (change : Message → Message) :
    q.remove id change =
      match q.get? id with
      | some m => .ok (q.without id, change m)
      | none => .error (.notFound id) := by
  cases found : q.entries.get? id <;> simp [remove, get?, without, vacated, found]

theorem get?_without (q : Queue) (id other : String) :
    (q.without id).get? other = if other = id then none else q.get? other := by
  by_cases same : other = id <;> simp [get?, without, SortedMap.get?_erase, same]

def append (q : Queue) (m : Message) : Queue :=
  { q with
    nextTicket := q.nextTicket + 1
    order := (q.vacated m.id).insert q.nextTicket m.id
    entries := q.entries.insert m.id ⟨q.nextTicket, m⟩ }

theorem enqueue_eq (q : Queue) (m : Message) (now : Instant) :
    q.enqueue m now =
      if q.get? m.id = none ∧ q.capacity ≤ q.size then .error (.full q.capacity)
      else
        .ok (q.append { m with status := .queued, updatedAt := now },
          { m with status := .queued, updatedAt := now }) := by
  cases found : q.entries.get? m.id <;> simp [enqueue, get?, append, vacated, found]

theorem get?_append (q : Queue) (m : Message) (other : String) :
    (q.append m).get? other = if other = m.id then some m else q.get? other := by
  by_cases same : other = m.id <;> simp [get?, append, SortedMap.get?_insert, same]

namespace Filed

variable (filed : q.Filed)

include filed

theorem update (id : String) {change : Message → Message} (keeps : ∀ m, (change m).id = m.id) :
    (q.update id change).1.Filed := by
  cases found : q.entries.get? id with
  | none => rwa [update_none change found]
  | some entry =>
    rw [update_some change found]
    -- The changed entry has the ticket of the old one, so that the order stays right.
    constructor
    · intro ticket other ordered
      obtain ⟨old, old_held, rfl⟩ := filed.ticketed ordered
      by_cases same : other = id
      · subst same
        rw [found, Option.some.injEq] at old_held
        subst old_held
        exact ⟨_, SortedMap.get?_insert_self .., rfl⟩
      · exact ⟨old, (SortedMap.get?_insert_of_ne _ same _).trans old_held, rfl⟩
    · intro other e held
      rw [SortedMap.get?_insert] at held
      by_cases same : other = id
      · rw [if_pos same, Option.some.injEq] at held
        rw [← held, keeps, filed.named found, same]
      · rw [if_neg same] at held
        exact filed.named held

theorem of_get?_vacated {id other : String} {ticket : UInt64}
    (ordered : (q.vacated id).get? ticket = some other) :
    q.order.get? ticket = some other ∧ other ≠ id := by
  unfold vacated at ordered
  cases found : q.entries.get? id with
  | none =>
    simp only [found] at ordered
    refine ⟨ordered, ?_⟩
    rintro rfl
    obtain ⟨entry, held, -⟩ := filed.ticketed ordered
    simp [found] at held
  | some entry =>
    simp only [found, SortedMap.get?_erase] at ordered
    by_cases same : ticket = entry.ticket
    · simp [same] at ordered
    · rw [if_neg same] at ordered
      refine ⟨ordered, ?_⟩
      rintro rfl
      obtain ⟨held, other_found, ticketed⟩ := filed.ticketed ordered
      rw [found, Option.some.injEq] at other_found
      exact same (other_found ▸ ticketed).symm

theorem without (id : String) : (q.without id).Filed := by
  constructor
  · intro ticket other ordered
    obtain ⟨ordered, named⟩ := filed.of_get?_vacated ordered
    obtain ⟨entry, held, same⟩ := filed.ticketed ordered
    exact ⟨entry, (SortedMap.get?_erase_of_ne _ named).trans held, same⟩
  · intro other entry held
    simp only [Queue.without, SortedMap.get?_erase] at held
    by_cases same : other = id
    · simp [same] at held
    · rw [if_neg same] at held
      exact filed.named held

theorem append (m : Message) : (q.append m).Filed := by
  constructor
  · intro ticket other ordered
    simp only [Queue.append, SortedMap.get?_insert] at ordered ⊢
    by_cases newest : ticket = q.nextTicket
    · simp only [newest, if_true, Option.some.injEq] at ordered
      simp [← ordered, newest]
    · rw [if_neg newest] at ordered
      obtain ⟨ordered, named⟩ := filed.of_get?_vacated ordered
      obtain ⟨entry, held, same⟩ := filed.ticketed ordered
      exact ⟨entry, by rw [if_neg named, held], same⟩
  · intro other entry held
    simp only [Queue.append, SortedMap.get?_insert] at held
    by_cases same : other = m.id
    · simp only [same, if_true, Option.some.injEq] at held
      simp [← held, same]
    · rw [if_neg same] at held
      exact filed.named held

end Filed

namespace Consistent

variable (consistent : q.Consistent)

include consistent

theorem messages_update (id : String) (change : Message → Message) :
    (q.update id change).1.messages = Backlog.alter id change q.messages := by
  rw [messages, messages, update_order, Backlog.alter, List.map_filterMap]
  refine List.filterMap_congr fun other _ => ?_
  rw [get?_update]
  cases found : q.get? other with
  | none => by_cases same : other = id <;> simp_all
  | some m =>
    have named := consistent.id_of_get? found
    by_cases same : other = id
    · subst same
      simp [found, named]
    · simp [same, named]

theorem update (id : String) {change : Message → Message}
    (keeps : ∀ m, (change m).id = m.id) :
    (q.update id change).1.Consistent := by
  refine ⟨consistent.toFiled.update id keeps, ?_, ?_⟩
  · intro other e held
    rw [update_order]
    cases found : q.entries.get? id with
    | none =>
      rw [update_none change found] at held
      exact consistent.placed held
    | some entry =>
      rw [update_some change found, SortedMap.get?_insert] at held
      by_cases same : other = id
      · rw [if_pos same, Option.some.injEq] at held
        have placed : q.order.get? entry.ticket = some id := consistent.placed found
        rw [← held, same, placed]
      · rw [if_neg same] at held
        exact consistent.placed held
  · intro ticket other ordered
    rw [update_order] at ordered
    cases found : q.entries.get? id with
    | none => simpa [update_none change found] using consistent.issued ordered
    | some entry => simpa [update_some change found] using consistent.issued ordered

-- Of the places in the order, exactly that of the identifier has its ticket.
theorem ticket_eq_iff {id other : String} {ticket : UInt64} {entry : QueueEntry}
    (found : q.entries.get? id = some entry) (ordered : q.order.get? ticket = some other) :
    entry.ticket = ticket ↔ other = id := by
  constructor
  · intro same
    rw [← same, consistent.placed found, Option.some.injEq] at ordered
    exact ordered.symm
  · intro same
    obtain ⟨held, other_found, rfl⟩ := consistent.ticketed ordered
    rw [same, found, Option.some.injEq] at other_found
    rw [other_found]

theorem values_vacated (id : String) :
    (q.vacated id).values = q.order.values.filter (· != id) := by
  unfold vacated
  cases found : q.entries.get? id with
  | none =>
    refine (List.filter_eq_self.2 fun other member => ?_).symm
    obtain ⟨m, held⟩ := consistent.mem_values_iff.1 member
    have other_held : other ≠ id := by
      rintro rfl
      simp [get?, found] at held
    simpa using other_held
  | some entry =>
    simp only [SortedMap.values, SortedMap.erase, SortedMap.filter, List.filter_map]
    congr 1
    refine List.filter_congr fun place member => ?_
    have same := consistent.ticket_eq_iff found (SortedMap.get?_eq_some_iff.2 member)
    simp [bne, same]

theorem get?_vacated {id other : String} {ticket : UInt64} :
    (q.vacated id).get? ticket = some other ↔ q.order.get? ticket = some other ∧ other ≠ id := by
  refine ⟨consistent.of_get?_vacated, fun ⟨ordered, named⟩ => ?_⟩
  unfold vacated
  cases found : q.entries.get? id with
  | none => exact ordered
  | some entry =>
    simp only [SortedMap.get?_erase]
    rw [if_neg fun same => named ((consistent.ticket_eq_iff found ordered).1 same.symm), ordered]

theorem filterMap_without (id : String) (ids : List String) :
    (ids.filter (· != id)).filterMap q.get? = Backlog.without id (ids.filterMap q.get?) := by
  induction ids with
  | nil => rfl
  | cons first rest ih =>
    cases found : q.get? first with
    | none => by_cases same : first = id <;> simp_all
    | some m =>
      have named := consistent.id_of_get? found
      by_cases same : first = id <;> simp_all [Backlog.without]

-- Both taking a message out and replacing it leave the other messages as they are.
theorem filterMap_vacated {id : String} {lookup : String → Option Message}
    (others : ∀ other, other ≠ id → lookup other = q.get? other) :
    (q.vacated id).values.filterMap lookup = Backlog.without id q.messages := by
  rw [consistent.values_vacated, messages, ← consistent.filterMap_without]
  refine List.filterMap_congr fun other member => others other ?_
  simpa using (List.mem_filter.1 member).2

theorem messages_without (id : String) :
    (q.without id).messages = Backlog.without id q.messages :=
  consistent.filterMap_vacated fun other named => by rw [get?_without, if_neg named]

theorem without (id : String) : (q.without id).Consistent := by
  refine ⟨consistent.toFiled.without id, ?_, ?_⟩
  · intro other entry held
    simp only [Queue.without, SortedMap.get?_erase] at held
    by_cases same : other = id
    · simp [same] at held
    · rw [if_neg same] at held
      exact consistent.get?_vacated.2 ⟨consistent.placed held, same⟩
  · intro ticket other ordered
    exact consistent.issued (consistent.of_get?_vacated ordered).1

theorem vacated_below {id other : String} {ticket : UInt64}
    (ordered : (q.vacated id).get? ticket = some other) : ticket < q.nextTicket :=
  consistent.issued (consistent.get?_vacated.1 ordered).1

theorem values_append (m : Message) :
    (q.append m).order.values = (q.vacated m.id).values ++ [m.id] := by
  refine SortedMap.values_insert_above _ _ _ fun ticket member => ?_
  obtain ⟨other, ordered⟩ := SortedMap.mem_keys_iff.1 member
  exact Std.compare_eq_lt.2 (consistent.vacated_below ordered)

theorem messages_append (m : Message) :
    (q.append m).messages = Backlog.without m.id q.messages ++ [m] := by
  have others : (q.vacated m.id).values.filterMap (q.append m).get? =
      Backlog.without m.id q.messages :=
    consistent.filterMap_vacated fun other named => by rw [get?_append, if_neg named]
  rw [messages, consistent.values_append, List.filterMap_append, others]
  simp [get?_append]

theorem append (m : Message) (room : q.nextTicket.toNat + 1 < UInt64.size) :
    (q.append m).Consistent := by
  have fresh {other : String} {ticket : UInt64}
      (ordered : (q.vacated m.id).get? ticket = some other) : ticket ≠ q.nextTicket := by
    rintro rfl
    exact absurd (consistent.vacated_below ordered) (by simp)
  refine ⟨consistent.toFiled.append m, ?_, ?_⟩
  · intro other entry held
    simp only [Queue.append, SortedMap.get?_insert] at held ⊢
    by_cases same : other = m.id
    · simp only [same, if_true, Option.some.injEq] at held
      simp [← held, same]
    · rw [if_neg same] at held
      have ordered := consistent.get?_vacated.2 ⟨consistent.placed held, same⟩
      rw [if_neg (fresh ordered), ordered]
  · intro ticket other ordered
    have next : (q.nextTicket + 1).toNat = q.nextTicket.toNat + 1 :=
      (UInt64.toNat_add _ _).trans (Nat.mod_eq_of_lt room)
    simp only [Queue.append, SortedMap.get?_insert, UInt64.lt_iff_toNat_lt, next] at ordered ⊢
    by_cases newest : ticket = q.nextTicket
    · rw [newest]
      omega
    · rw [if_neg newest] at ordered
      have below := UInt64.lt_iff_toNat_lt.1 (consistent.vacated_below ordered)
      omega

end Consistent

end MailRelay.Queue
