import MailRelay.Proofs.Queue.Backlog
import MailRelay.Proofs.SortedMap
import Mathlib.Data.List.Perm.Basic

set_option autoImplicit false

namespace MailRelay.Queue

def messages (q : Queue) : List Message :=
  q.order.values.filterMap q.get?

/-- Every place in the order is the place of a stored message. This holds even if tickets come
again. -/
structure Filed (q : Queue) : Prop where
  ticketed : ∀ {ticket id}, q.order.get? ticket = some id →
    ∃ entry, q.entries.get? id = some entry ∧ entry.ticket = ticket
  named : ∀ {id entry}, q.entries.get? id = some entry → entry.message.id = id

structure Consistent (q : Queue) : Prop extends Filed q where
  placed : ∀ {id entry}, q.entries.get? id = some entry → q.order.get? entry.ticket = some id
  issued : ∀ {ticket id}, q.order.get? ticket = some id → ticket < q.nextTicket

theorem filed_new (capacity : Nat) (retryDelay : Duration) : (new capacity retryDelay).Filed := by
  constructor <;> simp [new]

theorem consistent_new (capacity : Nat) (retryDelay : Duration) :
    (new capacity retryDelay).Consistent := by
  refine ⟨filed_new capacity retryDelay, ?_, ?_⟩ <;> simp [new]

theorem map_id_filterMap {look : String → Option Message} {ids : List String}
    (held : ∀ id ∈ ids, ∃ m, look id = some m ∧ m.id = id) :
    (ids.filterMap look).map (·.id) = ids := by
  induction ids with
  | nil => rfl
  | cons id rest ih =>
    obtain ⟨m, found, named⟩ := held id List.mem_cons_self
    rw [List.filterMap_cons_some found, List.map_cons, named,
      ih fun other member => held other (List.mem_cons_of_mem _ member)]

theorem get?_eq_some_iff {q : Queue} {id : String} {m : Message} :
    q.get? id = some m ↔ ∃ entry, q.entries.get? id = some entry ∧ entry.message = m := by
  simp [get?]

namespace Filed

variable {q : Queue} (filed : q.Filed)

include filed

theorem id_of_get? {id : String} {m : Message} (found : q.get? id = some m) : m.id = id := by
  obtain ⟨entry, stored, rfl⟩ := get?_eq_some_iff.1 found
  exact filed.named stored

-- Two places with one identifier would both be the place of its only ticket.
theorem nodup_values : q.order.values.Nodup := by
  refine List.pairwise_map.2 (List.Pairwise.imp_of_mem ?_ q.order.sorted)
  intro a b aIn bIn smaller same
  obtain ⟨entry, found, ofFirst⟩ :=
    filed.ticketed (SortedMap.get?_eq_some_iff.2 (show (a.1, a.2) ∈ _ from aIn))
  obtain ⟨entry', found', ofSecond⟩ :=
    filed.ticketed (SortedMap.get?_eq_some_iff.2 (show (b.1, b.2) ∈ _ from bIn))
  have one : entry = entry' := by
    rw [same] at found
    exact Option.some.inj (found.symm.trans found')
  rw [← ofFirst, ← ofSecond, one] at smaller
  simp at smaller

end Filed

namespace Consistent

variable {q : Queue} (consistent : q.Consistent)

include consistent

theorem ticket_iff (ticket : UInt64) (id : String) :
    (q.entries.get? id).map (·.ticket) = some ticket ↔ q.order.get? ticket = some id := by
  constructor
  · intro held
    obtain ⟨entry, found, rfl⟩ := Option.map_eq_some_iff.1 held
    exact consistent.placed found
  · intro ordered
    obtain ⟨entry, found, same⟩ := consistent.ticketed ordered
    simp [found, same]

theorem mem_values_iff {id : String} : id ∈ q.order.values ↔ ∃ m, q.get? id = some m := by
  simp only [SortedMap.values, List.mem_map, Prod.exists, exists_eq_right]
  constructor
  · rintro ⟨ticket, ordered⟩
    obtain ⟨entry, found, -⟩ := consistent.ticketed (SortedMap.get?_eq_some_iff.2 ordered)
    exact ⟨entry.message, get?_eq_some_iff.2 ⟨entry, found, rfl⟩⟩
  · rintro ⟨m, found⟩
    obtain ⟨entry, stored, -⟩ := get?_eq_some_iff.1 found
    exact ⟨entry.ticket, SortedMap.get?_eq_some_iff.1 (consistent.placed stored)⟩

theorem map_id_messages : q.messages.map (·.id) = q.order.values := by
  refine map_id_filterMap fun id member => ?_
  obtain ⟨m, found⟩ := consistent.mem_values_iff.1 member
  exact ⟨m, found, consistent.id_of_get? found⟩

theorem nodup_ids : (q.messages.map (·.id)).Nodup := by
  rw [consistent.map_id_messages]
  exact consistent.nodup_values

theorem mem_messages_iff {m : Message} : m ∈ q.messages ↔ q.get? m.id = some m := by
  simp only [messages, List.mem_filterMap]
  constructor
  · rintro ⟨id, -, found⟩
    rwa [consistent.id_of_get? found]
  · intro found
    exact ⟨m.id, consistent.mem_values_iff.2 ⟨m, found⟩, found⟩

theorem find?_messages (id : String) : Backlog.find? id q.messages = q.get? id := by
  ext m
  rw [Backlog.find?_eq_some_iff consistent.nodup_ids, consistent.mem_messages_iff]
  constructor
  · rintro ⟨found, rfl⟩
    exact found
  · intro found
    have same := consistent.id_of_get? found
    rw [same]
    exact ⟨found, rfl⟩

-- Both indices hold every identifier exactly once.
theorem length_messages : q.messages.length = q.size := by
  have ids : q.order.values.Perm q.entries.keys := by
    refine (List.perm_ext_iff_of_nodup consistent.nodup_values q.entries.nodup_keys).2 ?_
    intro id
    rw [consistent.mem_values_iff, SortedMap.mem_keys_iff]
    simp [get?]
  calc q.messages.length
    _ = q.order.values.length := by rw [← consistent.map_id_messages, List.length_map]
    _ = q.entries.keys.length := ids.length_eq
    _ = q.size := by simp [size, SortedMap.size, SortedMap.keys]

end Consistent

end MailRelay.Queue
