import MailRelay.Config.Basic
import MailRelay.Delivery.Worker

set_option autoImplicit false

namespace MailRelay

inductive Notice where
  | shutdown
  | finalised
  | lagged
  | closed
  deriving DecidableEq, Repr

def Notice.isFinal : Notice → Bool
  | shutdown | closed => true
  | finalised | lagged => false

structure ServiceSettings where
  workers : Nat
  batchSize : Nat
  pollInterval : Duration
  connectionTimeout : Duration
  maxRetries : UInt32
  deriving DecidableEq

namespace ServiceSettings

-- There is at least one worker, which takes at least one message and rests a little.
def ofDelivery (s : DeliverySettings) : ServiceSettings :=
  ⟨max s.workers 1, max s.batchSize 1, s.pollInterval.atLeast (.ofMillis 1), s.connectionTimeout,
    s.maxRetries⟩

def worker (s : ServiceSettings) : WorkerSettings := ⟨s.batchSize, s.maxRetries⟩

end ServiceSettings

structure Service where
  settings : ServiceSettings
  state : ServiceState
  hub : Hub
  workers : List Worker

namespace Service

def new (settings : DeliverySettings) (spool : Spool) : Service :=
  ⟨.ofDelivery settings, .idle, ⟨spool, .new settings.dnsCacheTtl, false⟩, []⟩

def start (s : Service) : Except ServiceError Service :=
  match s.state with
  | .idle =>
    .ok { s with state := .running, workers := List.replicate s.settings.workers .waiting }
  | state => .error (.notIdle state)

-- A final notice raises the flag that the workers watch.
def notice (s : Service) (n : Notice) : Service :=
  match s.state with
  | .running =>
    if n.isFinal then { s with state := .draining, hub := { s.hub with cancelled := true } } else s
  | _ => s

-- A worker that broke off is only logged.
def finish (s : Service) : Service :=
  if s.state == .draining && s.workers.all Worker.isOver then { s with state := .stopped } else s

def work (s : Service) (clock : Clock) (i : Nat) (e : WorkerEvent) : Option Service := do
  let w ← s.workers[i]?
  let (hub, w) ← w.step s.settings.worker s.hub clock e
  return { s with hub, workers := s.workers.set i w }

def stateTitle : ServiceState → String
  | .idle => "Idle"
  | .running => "Running"
  | .draining => "Draining"
  | .stopped => "Stopped"

def describe (s : Service) : String :=
  "DeliveryService \x7b state: " ++ stateTitle s.state ++ s!", workers: {s.settings.workers}"
    ++ s!", batch_size: {s.settings.batchSize}, poll_interval: " ++ s.settings.pollInterval.text
    ++ ", connection_timeout: " ++ s.settings.connectionTimeout.text
    ++ s!", max_retries: {s.settings.maxRetries}, .. \x7d"

end Service

end MailRelay
