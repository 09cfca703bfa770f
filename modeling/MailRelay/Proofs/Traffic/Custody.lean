import MailRelay.Proofs.Traffic.Basic
import Mathlib.Data.Multiset.AddSub
import Mathlib.Data.Multiset.Bind
import Mathlib.Data.Multiset.Filter

set_option autoImplicit false

namespace MailRelay

structure Stored (ids : List String) (s : Spool) (id : String) (m : Message) : Prop where
  entered : id ∈ ids
  shown : s.record? id = some m
  active : m.status = .queued ∨ m.status = .sending

structure Sound (ids : List String) (s : Spool) : Prop where
  filed : s.queue.Filed
  stored : ∀ {id m}, s.queue.get? id = some m → Stored ids s id m
  ended : ∀ id ∈ ids, s.queue.get? id = none →
    ∃ r, s.record? id = some r ∧ (r.status = .delivered ∨ r.status = .failed)

namespace Sound

variable {ids : List String} {s : Spool}

theorem opening (capacity : Nat) (retryDelay : Duration) : Sound [] (.new capacity retryDelay) where
  filed := Queue.filed_new capacity retryDelay
  stored found := by cases found
  ended := List.forall_mem_nil _

variable (sound : Sound ids s)

include sound

-- Only the queue and what was shown matter.
theorem congr {s' : Spool} (queue : s'.queue = s.queue) (journal : s'.journal = s.journal) :
    Sound ids s' where
  filed := queue ▸ sound.filed
  stored found := by
    obtain ⟨entered, shown, active⟩ := sound.stored (queue ▸ found)
    exact ⟨entered, by rw [Spool.record?, journal, ← Spool.record?, shown], active⟩
  ended id member left := by
    obtain ⟨r, shown, ended⟩ := sound.ended id member (queue ▸ left)
    exact ⟨r, by rw [Spool.record?, journal, ← Spool.record?, shown], ended⟩

theorem recount (stats : Stats) : Sound ids { s with stats } := sound.congr rfl rfl

theorem shown {id : String} (entered : id ∈ ids) : ∃ r, s.record? id = some r := by
  cases found : s.queue.get? id with
  | some m => exact ⟨m, (sound.stored found).shown⟩
  | none =>
    obtain ⟨r, shown, -⟩ := sound.ended id entered found
    exact ⟨r, shown⟩

variable (now : Instant)

theorem letIn (m : Message) : Sound (ids ++ [m.id]) (s.letIn now m) where
  filed := sound.filed.append _
  stored {id stored} found := by
    rw [Spool.get?_letIn] at found
    by_cases same : id = m.id
    · rw [if_pos same] at found
      obtain rfl := Option.some.inj found
      exact ⟨by simp [same], by rw [Spool.record?_letIn, if_pos same.symm], .inl rfl⟩
    · rw [if_neg same] at found
      obtain ⟨entered, shown, active⟩ := sound.stored found
      refine ⟨List.mem_append_left _ entered, ?_, active⟩
      rw [Spool.record?_letIn, if_neg (Ne.symm same), shown]
  ended id member left := by
    rw [Spool.get?_letIn] at left
    by_cases same : id = m.id
    · simp [same] at left
    · rw [if_neg same] at left
      rw [Spool.record?_letIn, if_neg (Ne.symm same)]
      exact sound.ended id (by simpa [same] using member) left

theorem poll (max : Nat) : Sound ids (s.call now (.dequeue max)).1 where
  filed := Spool.filed_call now sound.filed _
  stored {id m} found := by
    have record := Spool.record?_call_dequeue now max sound.filed id
    rw [Spool.queue_call_dequeue, Queue.get?_dequeue] at found
    rw [Queue.get?_dequeue] at record
    by_cases due : id ∈ s.queue.due now max
    · rw [if_pos due] at found
      rw [if_pos due, if_pos due, found] at record
      obtain ⟨old, before, rfl⟩ := Option.map_eq_some_iff.1 found
      exact ⟨(sound.stored before).entered, record, .inr rfl⟩
    · rw [if_neg due] at found record
      obtain ⟨entered, shown, active⟩ := sound.stored found
      exact ⟨entered, record.trans shown, active⟩
  ended id member left := by
    have record := Spool.record?_call_dequeue now max sound.filed id
    rw [Spool.queue_call_dequeue, Queue.get?_dequeue] at left
    -- What has left cannot be handed out again.
    have undue : id ∉ s.queue.due now max := by
      intro due
      obtain ⟨-, m, found, -⟩ := Queue.of_mem_due due
      simp [due, found] at left
    rw [if_neg undue] at left record
    rw [record]
    exact sound.ended id member left

theorem settle {c : QueueCall} {about : String} (settled : c.settled? = some about) :
    Sound ids (s.call now c).1 := by
  rcases Spool.settles_or_misses now sound.filed settled with
    ⟨-, missed⟩ | ⟨entry, after, named, found, called, settles⟩
  · rw [missed]
    exact sound
  -- The settled message is shown as it has become, whether it stays or leaves.
  subst named
  have filed := Spool.filed_call now sound.filed c
  have before : Stored ids s entry.message.id entry.message :=
    sound.stored (Queue.get?_eq_some_iff.2 ⟨entry, found, rfl⟩)
  rw [called] at filed ⊢
  refine ⟨filed, fun {id m} stored => ?_, fun id member left => ?_⟩
  · have record := settles.record? id
    rw [settles.get?] at stored
    by_cases same : id = entry.message.id
    · rw [if_pos same] at stored record
      split at stored
      · cases stored
      · next stays =>
        obtain rfl := Option.some.inj stored
        exact ⟨same ▸ before.entered, record,
          .inl (c.queued_of_settle now _ _ settled (by simpa using stays))⟩
    · rw [if_neg same] at stored record
      obtain ⟨entered, shown, active⟩ := sound.stored stored
      exact ⟨entered, record.trans shown, active⟩
  · have record := settles.record? id
    rw [settles.get?] at left
    by_cases same : id = entry.message.id
    · rw [if_pos same] at left record
      split at left
      · next leaves => exact ⟨_, record, c.ended_of_settle now _ _ leaves⟩
      · cases left
    · rw [if_neg same] at left record
      rw [record]
      exact sound.ended id member left

end Sound

def Queue.sending? (q : Queue) (id : String) : Option Message :=
  (q.get? id).filter (·.status == .sending)

/-- Whoever is to send the message of an identifier holds it as it is stored, and nobody else
does. -/
def Custody (held : Multiset Message) (q : Queue) (id : String) : Prop :=
  held.filter (·.id = id) = (q.sending? id).toList

namespace Custody

variable {held : Multiset Message} {q : Queue} {id : String}

theorem sending?_eq_some_iff {m : Message} :
    q.sending? id = some m ↔ q.get? id = some m ∧ m.status = .sending := by
  simp [Queue.sending?, Option.filter_eq_some_iff]

theorem sending?_eq_none {m : Message} (found : q.get? id = some m) (queued : m.status = .queued) :
    q.sending? id = none := by
  simp [Queue.sending?, found, queued]

-- Custody depends on what is stored, and on nothing else about the queue.
theorem congr {held' : Multiset Message} {q' : Queue} (custody : Custody held q id)
    (holds : held'.filter (·.id = id) = held.filter (·.id = id)) (stored : q'.get? id = q.get? id) :
    Custody held' q' id := by
  rw [Custody, holds, custody, Queue.sending?, Queue.sending?, stored]

theorem of_mem {m : Message} (custody : Custody held q m.id) (holds : m ∈ held) :
    q.get? m.id = some m ∧ m.status = .sending := by
  have member : m ∈ held.filter (·.id = m.id) := Multiset.mem_filter.2 ⟨holds, rfl⟩
  rw [custody, Multiset.mem_coe, Option.mem_toList] at member
  exact sending?_eq_some_iff.1 member

theorem holds_iff (custody : Custody held q id) :
    (∃ m ∈ held, m.id = id) ↔ ∃ m, q.get? id = some m ∧ m.status = .sending := by
  have same (m : Message) : (m ∈ held ∧ m.id = id) ↔ q.get? id = some m ∧ m.status = .sending := by
    rw [← Multiset.mem_filter (p := fun m : Message => m.id = id), custody, Multiset.mem_coe,
      Option.mem_toList, ← sending?_eq_some_iff]
  exact exists_congr same

theorem free {m : Message} (custody : Custody (m ::ₘ held) q m.id) :
    held.filter (·.id = m.id) = 0 := by
  have sent := sending?_eq_some_iff.2 (custody.of_mem (Multiset.mem_cons_self m held))
  have mine : (m ::ₘ held).filter (·.id = m.id) = {m} := by
    rw [custody, sent]
    rfl
  rw [Multiset.filter_cons_of_pos (p := fun n : Message => n.id = m.id) _ rfl] at mine
  exact (Multiset.cons_inj_right m).1 mine

theorem nodup_held {held : List Message} (custody : ∀ id, Custody held q id) :
    (held.map (·.id)).Nodup := by
  refine List.nodup_iff_count_le_one.2 fun id => ?_
  rw [← Queue.length_filter_id, ← Multiset.coe_card, ← Multiset.filter_coe, custody,
    Multiset.coe_card]
  -- At most one message is stored for each identifier.
  cases q.sending? id <;> simp

theorem letIn {s : Spool} (custody : Custody held s.queue id) (now : Instant) {m : Message}
    (new : id = m.id → s.queue.get? id = none) : Custody held (s.letIn now m).queue id := by
  by_cases same : id = m.id
  · have missing := new same
    have stored := Spool.get?_letIn s now m id
    rw [if_pos same] at stored
    rw [Custody, custody, sending?_eq_none stored rfl, Queue.sending?, missing]
    rfl
  · refine custody.congr rfl ?_
    rw [Spool.get?_letIn, if_neg same]

theorem poll (custody : Custody held q id) (filed : q.Filed) (now : Instant) (max : Nat) :
    Custody (↑(q.dequeue max now).2 + held) (q.dequeue max now).1 id := by
  have stored := Queue.get?_dequeue q max now id
  by_cases due : id ∈ q.due now max
  · -- A message that is due waits, so that nobody holds it yet.
    obtain ⟨-, m, found, queued, -⟩ := Queue.of_mem_due due
    rw [if_pos due, found] at stored
    have sent : (q.dequeue max now).1.sending? id = some (Queue.startSending now m) :=
      sending?_eq_some_iff.2 ⟨stored, rfl⟩
    rw [Custody, Multiset.filter_add, Multiset.filter_coe,
      Queue.filter_dequeue filed max now due found, custody, sending?_eq_none found queued, sent]
    rfl
  · rw [if_neg due] at stored
    have others : (q.dequeue max now).2.filter (·.id = id) = [] := by
      refine List.filter_eq_nil_iff.2 fun m taken same => due ?_
      rw [← Queue.map_id_dequeue filed max now, ← of_decide_eq_true same]
      exact List.mem_map_of_mem taken
    refine custody.congr ?_ stored
    rw [Multiset.filter_add, Multiset.filter_coe, others, Multiset.coe_nil, zero_add]

section

variable {m : Message} {c : QueueCall} (settled : c.settled? = some m.id) (now : Instant)
  {s : Spool}

include settled

theorem call_settles (custody : Custody held s.queue m.id) (holds : m ∈ held) :
    ∃ entry after, entry.message = m ∧ s.call now c = (after, .done) ∧
      s.Settles now c entry after := by
  obtain ⟨stored, -⟩ := custody.of_mem holds
  obtain ⟨entry, found, rfl⟩ := Queue.get?_eq_some_iff.1 stored
  obtain ⟨after, called, settles⟩ := Spool.call_settles found now settled
  exact ⟨entry, after, rfl, called, settles⟩

theorem call_answered (custody : Custody held s.queue m.id) (holds : m ∈ held) :
    (s.call now c).2 = .done ∧
      (s.call now c).1.record? m.id = some (c.settle now s.queue.retryDelay m) := by
  obtain ⟨entry, after, rfl, called, settles⟩ := call_settles settled now custody holds
  rw [called]
  exact ⟨rfl, (settles.record? _).trans (if_pos rfl)⟩

theorem settle (custody : Custody (m ::ₘ held) s.queue id) (filed : s.queue.Filed) :
    Custody held (s.call now c).1.queue id := by
  by_cases same : m.id = id
  · subst same
    -- Whoever settles the message was the only one to hold it, and it is not being sent any more.
    have free := custody.free
    have holds := Multiset.mem_cons_self m held
    obtain ⟨entry, after, rfl, called, settles⟩ := call_settles settled now custody holds
    have stored := settles.get? entry.message.id
    rw [if_pos rfl] at stored
    have unsent : after.queue.sending? entry.message.id = none := by
      cases final : c.isFinal with
      | true => rw [Queue.sending?, stored, if_pos final, Option.filter_none]
      | false =>
        rw [final, if_neg Bool.false_ne_true] at stored
        exact sending?_eq_none stored (c.queued_of_settle _ _ _ settled final)
    rw [Custody, free, called, unsent]
    rfl
  · obtain ⟨entries, -⟩ := Spool.call_elsewhere now filed settled (Ne.symm same)
    refine custody.congr ?_ ?_
    · rw [Multiset.filter_cons_of_neg (p := fun n : Message => n.id = id) _ same]
    · rw [Queue.get?, entries, Queue.get?]

end

end Custody

end MailRelay
