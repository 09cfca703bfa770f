import MailRelay.Message.Basic
import MailRelay.Queue.Retry

set_option autoImplicit false

namespace MailRelay

inductive QueueError where
  | full (capacity : Nat)
  | notFound (id : String)
  deriving DecidableEq, Repr

def QueueError.message : QueueError → String
  | full capacity => s!"Queue is full (capacity {capacity})"
  | notFound id => "Message not found: " ++ id

structure QueueEntry where
  ticket : UInt64
  message : Message
  deriving DecidableEq

structure Queue where
  capacity : Nat
  retryDelay : Duration
  nextTicket : UInt64
  order : SortedMap UInt64 String
  entries : SortedMap String QueueEntry
  deriving DecidableEq

namespace Queue

def new (capacity : Nat) (retryDelay : Duration) : Queue :=
  ⟨capacity, retryDelay, 0, .empty, .empty⟩

def size (q : Queue) : Nat := q.entries.size

def get? (q : Queue) (id : String) : Option Message :=
  (q.entries.get? id).map (·.message)

/-- Adds a message at the end. A message with the same identifier gives up its place, and does so
even when the queue is full. -/
def enqueue (q : Queue) (m : Message) (now : Instant) : Except QueueError (Queue × Message) :=
  let replaced := q.entries.get? m.id
  if replaced.isNone && q.capacity ≤ q.size then .error (.full q.capacity)
  else
    let m := { m with status := .queued, updatedAt := now }
    let order := match replaced with
      | some entry => q.order.erase entry.ticket
      | none => q.order
    .ok ({ q with
      nextTicket := q.nextTicket + 1
      order := order.insert q.nextTicket m.id
      entries := q.entries.insert m.id ⟨q.nextTicket, m⟩ }, m)

def isReady (q : Queue) (now : Instant) (id : String) : Bool :=
  match q.get? id with
  | some m => m.status == .queued && m.isDue now
  | none => false

def update (q : Queue) (id : String) (change : Message → Message) : Queue × Option Message :=
  match q.entries.get? id with
  | some entry =>
    let m := change entry.message
    ({ q with entries := q.entries.insert id ⟨entry.ticket, m⟩ }, some m)
  | none => (q, none)

def startSending (now : Instant) (m : Message) : Message :=
  { m with status := .sending, updatedAt := now }

def send (now : Instant) : List String → Queue → Queue × List Message
  | [], q => (q, [])
  | id :: rest, q =>
    let (q, taken) := q.update id (startSending now)
    let (q, batch) := send now rest q
    (q, taken.toList ++ batch)

def dequeue (q : Queue) (max : Nat) (now : Instant) : Queue × List Message :=
  send now ((q.order.values.filter (q.isReady now)).take max) q

def remove (q : Queue) (id : String) (change : Message → Message) :
    Except QueueError (Queue × Message) :=
  match q.entries.get? id with
  | some entry =>
    .ok ({ q with order := q.order.erase entry.ticket, entries := q.entries.erase id },
      change entry.message)
  | none => .error (.notFound id)

def modify (q : Queue) (id : String) (change : Message → Message) :
    Except QueueError (Queue × Message) :=
  match q.update id change with
  | (q, some m) => .ok (q, m)
  | (_, none) => .error (.notFound id)

def markDelivered (q : Queue) (id : String) (now : Instant) : Except QueueError (Queue × Message) :=
  q.remove id fun m => { m with status := .delivered, deliveredAt := some now, updatedAt := now }

def markFailed (q : Queue) (id reason : String) (retry : Bool) (now : Instant) :
    Except QueueError (Queue × Message) :=
  if retry then
    q.modify id fun m =>
      { m with
        retryCount := m.retryCount + 1
        status := .queued
        lastError := some reason
        updatedAt := now
        scheduledAt := some (nextAttemptAt now (m.retryCount + 1) q.retryDelay) }
  else
    q.remove id fun m => { m with status := .failed, lastError := some reason, updatedAt := now }

def release (q : Queue) (id : String) (now : Instant) : Except QueueError (Queue × Message) :=
  q.modify id fun m => { m with status := .queued, updatedAt := now }

-- Someone watches the queue.
def describe (q : Queue) : String :=
  s!"MemoryQueue \x7b size: {q.size}, capacity: {q.capacity}, retry_delay: " ++ q.retryDelay.text
    ++ ", observed: true \x7d"

end Queue

end MailRelay
