import MailRelay.Queue.Spool

set_option autoImplicit false

namespace MailRelay

structure Backlog where
  capacity : Nat
  retryDelay : Duration
  messages : List Message
  deriving DecidableEq

inductive QueueRequest where
  | call (c : QueueCall)
  | size
  | get (id : String)
  deriving DecidableEq

inductive QueueAnswer where
  | reply (r : QueueReply)
  | size (n : Nat)
  | message (m : Option Message)
  deriving DecidableEq

namespace Backlog

def new (capacity : Nat) (retryDelay : Duration) : Backlog := ⟨capacity, retryDelay, []⟩

def find? (id : String) (ms : List Message) : Option Message :=
  ms.find? (·.id == id)

def without (id : String) (ms : List Message) : List Message :=
  ms.filter (·.id != id)

def alter (id : String) (change : Message → Message) (ms : List Message) : List Message :=
  ms.map fun m => if m.id = id then change m else m

def isReady (now : Instant) (m : Message) : Bool :=
  m.status == .queued && m.isDue now

def sent (now : Instant) (m : Message) : Message :=
  { m with status := .sending, updatedAt := now }

def handOut (now : Instant) : Nat → List Message → List Message × List Message
  | 0, ms => ([], ms)
  | _ + 1, [] => ([], [])
  | n + 1, m :: rest =>
    if isReady now m then
      let (batch, rest) := handOut now n rest
      (sent now m :: batch, sent now m :: rest)
    else
      let (batch, rest) := handOut now (n + 1) rest
      (batch, m :: rest)

def due (now : Instant) (max : Nat) (ms : List Message) : List Message :=
  (ms.filter (isReady now)).take max

theorem handOut_eq (now : Instant) (max : Nat) {ms : List Message}
    (distinct : (ms.map (·.id)).Nodup) :
    handOut now max ms =
      ((due now max ms).map (sent now),
        ms.map fun m => if m.id ∈ (due now max ms).map (·.id) then sent now m else m) := by
  induction ms generalizing max with
  | nil => cases max <;> simp [handOut, due]
  | cons m rest ih =>
    obtain ⟨fresh, tail⟩ := List.nodup_cons.1 distinct
    cases max with
    | zero => simp [handOut, due]
    | succ n =>
      -- A message that is not handed out must not share its identifier with one that is.
      have absent (k : Nat) : m.id ∉ (due now k rest).map (·.id) := by
        intro member
        refine fresh ((List.Sublist.map _ ?_).subset member)
        exact (List.take_sublist ..).trans List.filter_sublist
      by_cases ready : isReady now m
      · have first : due now (n + 1) (m :: rest) = m :: due now n rest := by simp [due, ready]
        rw [handOut, if_pos ready, ih n tail, first]
        simp only [List.map_cons, List.mem_cons, true_or, if_true, Prod.mk.injEq, true_and,
          List.cons.injEq]
        refine List.map_congr_left fun other member => ?_
        have other_id : other.id ≠ m.id := by
          intro same
          exact fresh (List.mem_map.2 ⟨other, member, same⟩)
        simp [other_id]
      · have later : due now (n + 1) (m :: rest) = due now (n + 1) rest := by simp [due, ready]
        rw [handOut, if_neg ready, ih (n + 1) tail, later, List.map_cons, if_neg (absent (n + 1))]

theorem find?_eq_some_iff {id : String} {m : Message} {ms : List Message}
    (distinct : (ms.map (·.id)).Nodup) : find? id ms = some m ↔ m ∈ ms ∧ m.id = id := by
  induction ms with
  | nil => simp [find?]
  | cons first rest ih =>
    obtain ⟨fresh, tail⟩ := List.nodup_cons.1 distinct
    by_cases same : first.id = id
    · have absent (member : m ∈ rest) (named : m.id = id) : False :=
        fresh (List.mem_map.2 ⟨m, member, named.trans same.symm⟩)
      simp only [find?, List.find?_cons, same, beq_self_eq_true, List.mem_cons, Option.some.injEq]
      constructor
      · rintro rfl
        exact ⟨.inl rfl, same⟩
      · rintro ⟨rfl | member, named⟩
        · rfl
        · exact (absent member named).elim
    · have skip : find? id (first :: rest) = find? id rest := by simp [find?, same]
      rw [skip, ih tail, List.mem_cons]
      constructor
      · rintro ⟨member, named⟩
        exact ⟨.inr member, named⟩
      · rintro ⟨rfl | member, named⟩
        · exact absurd named same
        · exact ⟨member, named⟩

def remove (b : Backlog) (id : String) (change : Message → Message) :
    Backlog × QueueReply × List Message :=
  match find? id b.messages with
  | some m => ({ b with messages := without id b.messages }, .done, [change m])
  | none => (b, .refused (.notFound id), [])

def modify (b : Backlog) (id : String) (change : Message → Message) :
    Backlog × QueueReply × List Message :=
  match find? id b.messages with
  | some m => ({ b with messages := alter id change b.messages }, .done, [change m])
  | none => (b, .refused (.notFound id), [])

def delivered (now : Instant) (m : Message) : Message :=
  { m with status := .delivered, deliveredAt := some now, updatedAt := now }

def failed (now : Instant) (reason : String) (m : Message) : Message :=
  { m with status := .failed, lastError := some reason, updatedAt := now }

def released (now : Instant) (m : Message) : Message :=
  { m with status := .queued, updatedAt := now }

def putOff (now : Instant) (reason : String) (base : Duration) (m : Message) : Message :=
  { m with
    retryCount := m.retryCount + 1
    status := .queued
    lastError := some reason
    updatedAt := now
    scheduledAt := some (nextAttemptAt now (m.retryCount + 1) base) }

/-- The list after a call, the reply, and the snapshots that are shown, the first one first. -/
def call (b : Backlog) (now : Instant) : QueueCall → Backlog × QueueReply × List Message
  | .enqueue m =>
    if find? m.id b.messages = none ∧ b.capacity ≤ b.messages.length then
      (b, .refused (.full b.capacity), [])
    else
      let m := { m with status := .queued, updatedAt := now }
      ({ b with messages := without m.id b.messages ++ [m] }, .done, [m])
  | .dequeue max =>
    let (batch, messages) := handOut now max b.messages
    ({ b with messages }, .batch batch, batch)
  | .markDelivered id => b.remove id (delivered now)
  | .markFailed id reason true => b.modify id (putOff now reason b.retryDelay)
  | .markFailed id reason false => b.remove id (failed now reason)
  | .release id => b.modify id (released now)

def ask (b : Backlog) (now : Instant) : QueueRequest → Backlog × QueueAnswer × List Message
  | .call c =>
    let (b, reply, shown) := b.call now c
    (b, .reply reply, shown)
  | .size => (b, .size b.messages.length, [])
  | .get id => (b, .message (find? id b.messages), [])

def serve (b : Backlog) : List (Instant × QueueRequest) →
    Backlog × List QueueAnswer × List Message
  | [] => (b, [], [])
  | (now, request) :: rest =>
    let (b, answer, shown) := b.ask now request
    let (b, answers, later) := b.serve rest
    (b, answer :: answers, shown ++ later)

structure Sound (room : Nat) (b : Backlog) : Prop where
  capacity : b.capacity = room
  active : ∀ m ∈ b.messages, m.status = .queued ∨ m.status = .sending
  bounded : b.messages.length ≤ room

theorem sound_new (capacity : Nat) (retryDelay : Duration) :
    (new capacity retryDelay).Sound capacity := by
  constructor <;> simp [new]

theorem handOut_sound (now : Instant) (max : Nat) {ms : List Message}
    (active : ∀ m ∈ ms, m.status = .queued ∨ m.status = .sending) :
    (∀ m ∈ (handOut now max ms).2, m.status = .queued ∨ m.status = .sending) ∧
      (handOut now max ms).2.length = ms.length := by
  induction ms generalizing max with
  | nil => cases max <;> simp [handOut]
  | cons m rest ih =>
    have tail : ∀ m ∈ rest, m.status = .queued ∨ m.status = .sending := fun m member =>
      active m (List.mem_cons_of_mem _ member)
    cases max with
    | zero => exact ⟨active, rfl⟩
    | succ n =>
      by_cases ready : isReady now m
      · obtain ⟨later, length⟩ := ih n tail
        rw [handOut, if_pos ready]
        refine ⟨?_, by simp [length]⟩
        intro other member
        rcases List.mem_cons.1 member with rfl | member
        · exact .inr rfl
        · exact later other member
      · obtain ⟨later, length⟩ := ih (n + 1) tail
        rw [handOut, if_neg ready]
        refine ⟨?_, by simp [length]⟩
        intro other member
        rcases List.mem_cons.1 member with rfl | member
        · exact active other List.mem_cons_self
        · exact later other member

theorem length_without_lt {id : String} {m : Message} {ms : List Message}
    (found : find? id ms = some m) : (without id ms).length < ms.length := by
  refine List.length_filter_lt_length_iff_exists.2 ⟨m, List.mem_of_find?_eq_some found, ?_⟩
  simpa using List.find?_some found

namespace Sound

variable {room : Nat} {b : Backlog} (sound : b.Sound room)

include sound

theorem remove (id : String) (change : Message → Message) : (b.remove id change).1.Sound room := by
  unfold Backlog.remove
  split
  · refine ⟨sound.capacity, fun m member => sound.active m ((List.mem_filter.1 member).1), ?_⟩
    exact Nat.le_trans (List.length_filter_le ..) sound.bounded
  · exact sound

theorem modify (id : String) {change : Message → Message}
    (waits : ∀ m, (change m).status = .queued) : (b.modify id change).1.Sound room := by
  unfold Backlog.modify
  split
  · refine ⟨sound.capacity, fun m member => ?_, by simpa [alter] using sound.bounded⟩
    obtain ⟨old, old_member, rfl⟩ := List.mem_map.1 member
    split
    · exact .inl (waits old)
    · exact sound.active old old_member
  · exact sound

theorem enqueue (m : Message) (now : Instant) : (b.call now (.enqueue m)).1.Sound room := by
  rw [Backlog.call]
  by_cases full : find? m.id b.messages = none ∧ b.capacity ≤ b.messages.length
  · rw [if_pos full]
    exact sound
  · rw [if_neg full]
    refine ⟨sound.capacity, ?_, ?_⟩
    · intro other member
      rcases List.mem_append.1 member with old | new
      · exact sound.active other ((List.mem_filter.1 old).1)
      · rw [List.mem_singleton.1 new]
        exact .inl rfl
    · have capacity := sound.capacity
      have bounded := sound.bounded
      have shorter := List.length_filter_le (·.id != m.id) b.messages
      simp only [List.length_append, List.length_singleton, without]
      cases found : find? m.id b.messages with
      | none =>
        have left : ¬b.capacity ≤ b.messages.length := fun tight => full ⟨found, tight⟩
        omega
      | some old =>
        have vacated := length_without_lt found
        simp only [without] at vacated
        omega

theorem call (now : Instant) (c : QueueCall) : (b.call now c).1.Sound room := by
  cases c with
  | enqueue m => exact sound.enqueue m now
  | dequeue max =>
    obtain ⟨active, length⟩ := handOut_sound now max sound.active
    exact ⟨sound.capacity, active, length ▸ sound.bounded⟩
  | markDelivered id => exact sound.remove id _
  | markFailed id reason retry =>
    cases retry with
    | true => exact sound.modify id fun _ => rfl
    | false => exact sound.remove id (failed now reason)
  | release id => exact sound.modify id fun _ => rfl

end Sound

theorem serve_cons (b : Backlog) (now : Instant) (request : QueueRequest)
    (rest : List (Instant × QueueRequest)) :
    b.serve ((now, request) :: rest) =
      (((b.ask now request).1.serve rest).1,
        (b.ask now request).2.1 :: ((b.ask now request).1.serve rest).2.1,
        (b.ask now request).2.2 ++ ((b.ask now request).1.serve rest).2.2) := rfl

theorem serve_sound (requests : List (Instant × QueueRequest)) {room : Nat} {b : Backlog}
    (sound : b.Sound room) :
    (b.serve requests).1.Sound room := by
  induction requests generalizing b with
  | nil => exact sound
  | cons first rest ih =>
    obtain ⟨now, request⟩ := first
    rw [serve_cons]
    cases request with
    | call c => exact ih (sound.call now c)
    | size => exact ih sound
    | get id => exact ih sound

end Backlog

namespace Spool

def ask (s : Spool) (now : Instant) : QueueRequest → Spool × QueueAnswer
  | .call c =>
    let (s, reply) := s.call now c
    (s, .reply reply)
  | .size => (s, .size s.queue.size)
  | .get id => (s, .message (s.queue.get? id))

def serve (s : Spool) : List (Instant × QueueRequest) → Spool × List QueueAnswer
  | [] => (s, [])
  | (now, request) :: rest =>
    let (s, answer) := s.ask now request
    let (s, answers) := s.serve rest
    (s, answer :: answers)

end Spool

def countEnqueues (requests : List (Instant × QueueRequest)) : Nat :=
  requests.countP fun (_, request) =>
    match request with
    | .call (.enqueue _) => true
    | _ => false

end MailRelay
