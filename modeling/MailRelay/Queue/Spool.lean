import MailRelay.Message.Validation
import MailRelay.Queue.Tracker

set_option autoImplicit false

namespace MailRelay

/-- The journal has the latest snapshot first. -/
structure Spool where
  queue : Queue
  tracker : Tracker
  journal : List Message
  stats : Stats
  deriving DecidableEq

inductive QueueCall where
  | enqueue (m : Message)
  | dequeue (max : Nat)
  | markDelivered (id : String)
  | markFailed (id reason : String) (retry : Bool)
  | release (id : String)
  deriving DecidableEq

inductive QueueReply where
  | done
  | batch (messages : List Message)
  | refused (e : QueueError)
  deriving DecidableEq

inductive SubmitError where
  | invalid (e : ValidationError)
  | queue (e : QueueError)
  deriving DecidableEq, Repr

def SubmitError.message : SubmitError → String
  | invalid e => e.message
  | queue e => e.message

namespace Spool

def new (capacity : Nat) (retryDelay : Duration) : Spool :=
  ⟨.new capacity retryDelay, .empty, [], .zero⟩

def notify (s : Spool) (m : Message) : Spool :=
  { s with tracker := s.tracker.observe m, journal := m :: s.journal }

def settle (s : Spool) (outcome : Except QueueError (Queue × Message)) : Spool × QueueReply :=
  match outcome with
  | .ok (queue, m) => ({ s with queue }.notify m, .done)
  | .error e => (s, .refused e)

def call (s : Spool) (now : Instant) : QueueCall → Spool × QueueReply
  | .enqueue m => s.settle (s.queue.enqueue m now)
  | .dequeue max =>
    let (queue, batch) := s.queue.dequeue max now
    (batch.foldl notify { s with queue }, .batch batch)
  | .markDelivered id => s.settle (s.queue.markDelivered id now)
  | .markFailed id reason retry => s.settle (s.queue.markFailed id reason retry now)
  | .release id => s.settle (s.queue.release id now)

def run (s : Spool) : List (Instant × QueueCall) → Spool × List QueueReply
  | [] => (s, [])
  | (now, c) :: rest =>
    let (s, reply) := s.call now c
    let (s, replies) := s.run rest
    (s, reply :: replies)

def submit (s : Spool) (limits : Limits) (m : Message) (now : Instant) :
    Except SubmitError Spool := do
  m.validate limits |>.mapError SubmitError.invalid
  let (queue, m) ← s.queue.enqueue m now |>.mapError SubmitError.queue
  return { { s with queue }.notify m with stats := s.stats.countSent }

end Spool

end MailRelay
