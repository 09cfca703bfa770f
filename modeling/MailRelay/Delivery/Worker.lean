import MailRelay.Delivery.Attempt
import MailRelay.Queue.Spool

set_option autoImplicit false

namespace MailRelay

structure Clock where
  wall : Instant
  ticks : Nat

-- The flag is raised when the service shuts down.
structure Hub where
  spool : Spool
  cache : ExchangerCache
  cancelled : Bool
  deriving DecidableEq

inductive Tally where
  | delivered
  | retried
  | failed
  | nothing
  deriving DecidableEq, Repr

inductive Worker where
  | waiting
  | working (batch : List Message)
  /-- The flag was not raised: the attempt of a message begins, and looks at the flag again. -/
  | turning (m : Message) (rest : List Message)
  | trying (m : Message) (attempt : Attempt) (rest : List Message)
  | counting (tally : Tally) (rest : List Message)
  | ended
  /-- The attempt of a message broke off, and with it the worker, which gives nothing back. -/
  | aborted (m : Message) (rest : List Message)

inductive WorkerEvent where
  | poll
  | proceed
  | resolved (answer : Except DnsError (List Exchanger))
  | handed (result : Except TransportError Unit)
  | interrupted

structure WorkerSettings where
  batchSize : Nat
  maxRetries : UInt32
  deriving DecidableEq, Repr

def Stats.count (s : Stats) : Tally → Stats
  | .delivered => s.countDelivered
  | .retried => s.countRetried
  | .failed => s.countFailed
  | .nothing => s

namespace Hub

def call (h : Hub) (now : Instant) (c : QueueCall) : Hub × QueueReply :=
  let (spool, reply) := h.spool.call now c
  ({ h with spool }, reply)

/-- How an outcome is booked, and what is to be counted if the queue still knows the message. A
failure is retried while the message has retries left. -/
def booking (s : WorkerSettings) (m : Message) : Except AttemptError Unit → QueueCall × Tally
  | .ok () => (.markDelivered m.id, .delivered)
  | .error e =>
    let retry := m.retryCount < s.maxRetries
    (.markFailed m.id e.message retry, if retry then .retried else .failed)

def book (h : Hub) (s : WorkerSettings) (now : Instant) (m : Message)
    (outcome : Except AttemptError Unit) : Hub × Tally :=
  let (call, tally) := booking s m outcome
  match h.call now call with
  | (h, .refused _) => (h, .nothing)
  | (h, _) => (h, tally)

end Hub

namespace Worker

-- Turns to the next message. Once the flag is raised, messages are given back instead.
def begin (h : Hub) (now : Instant) : List Message → Hub × Worker
  | [] => (h, waiting)
  | m :: rest =>
    if h.cancelled then ((h.call now (.release m.id)).1, working rest) else (h, turning m rest)

/-- What an event makes of a worker; none if it cannot happen. The raised flag goes before every
answer that is waited for, but does not take back an outcome. -/
def step (s : WorkerSettings) (h : Hub) (clock : Clock) :
    Worker → WorkerEvent → Option (Hub × Worker)
  | waiting, .poll =>
    match h.call clock.wall (.dequeue s.batchSize) with
    | (h, .batch batch) => some (h, working batch)
    | _ => none
  | waiting, .interrupted => if h.cancelled then some (h, ended) else none
  | working batch, .proceed => some (begin h clock.wall batch)
  | turning m rest, .proceed =>
    let (attempt, cache) := Attempt.start h.cancelled h.cache clock.ticks m
    some ({ h with cache }, trying m attempt rest)
  | trying m (.resolving domain) rest, .resolved answer =>
    if h.cancelled then none
    else
      match Attempt.resolved? h.cache clock.ticks domain answer with
      | some (attempt, cache) => some ({ h with cache }, trying m attempt rest)
      | none => some (h, aborted m rest)
  | trying m (.delivering _ others) rest, .handed result =>
    if h.cancelled then none else some (h, trying m (Attempt.handed others result) rest)
  | trying m (.decided outcome) rest, .proceed =>
    let (h, tally) := h.book s clock.wall m outcome
    some (h, counting tally rest)
  | trying m (.resolving _) rest, .interrupted
  | trying m (.delivering _ _) rest, .interrupted =>
    if h.cancelled then some (h, trying m (Attempt.failed .cancelled) rest) else none
  | counting tally rest, .proceed =>
    some ({ h with spool := { h.spool with stats := h.spool.stats.count tally } }, working rest)
  | _, _ => none

def held : Worker → List Message
  | working batch => batch
  | turning m rest | trying m _ rest | aborted m rest => m :: rest
  | counting _ rest => rest
  | waiting | ended => []

def isOver : Worker → Bool
  | ended | aborted _ _ => true
  | _ => false

end Worker

end MailRelay
