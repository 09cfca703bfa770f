import MailRelay.Delivery.Service

set_option autoImplicit false

namespace MailRelay

inductive DomainScript where
  | hosts (hosts : List Exchanger)
  | unknown
  | late
  | broken (reason : String)
  | silent

namespace DomainScript

-- None never comes.
def answer? (domain : String) : DomainScript → Option (Except DnsError (List Exchanger))
  | hosts found => some (.ok found)
  | unknown => some (.error (.domainNotFound domain))
  | late => some (.error (.timeout domain))
  | broken reason => some (.error (.resolver reason))
  | silent => none

end DomainScript

inductive HostScript where
  | ends (result : Except TransportError Unit)
  | late
  | slow (delay : Duration)
  | silent

namespace HostScript

def outcome (limit : Duration) : HostScript → Except TransportError Unit × Nat
  | ends result => (result, 0)
  | late => (.error (.timeout limit), 0)
  | slow delay =>
    if delay.nanos ≤ limit.nanos then (.ok (), delay.nanos)
    else (.error (.timeout limit), limit.nanos)
  | silent => (.error (.timeout limit), limit.nanos)

end HostScript

-- The entry `*` stands for all others.
structure Script where
  domains : SortedMap String DomainScript
  hosts : SortedMap String (List HostScript)

namespace Script

def others : String := "*"

def domain (s : Script) (name : String) : DomainScript :=
  ((s.domains.get? name).or (s.domains.get? others)).getD .unknown

-- The last deed of a host is repeated.
def host (s : Script) (name : String) (calls : Nat) : HostScript :=
  let deeds := ((s.hosts.get? name).or (s.hosts.get? others)).getD []
  (deeds[calls]?.or deeds.getLast?).getD (.ends (.ok ()))

end Script

structure Handover where
  host : String
  id : String
  limit : Duration
  deriving DecidableEq

structure NoticeChannel where
  lost : Bool
  waiting : List Notice
  deriving DecidableEq, Repr

namespace NoticeChannel

def empty : NoticeChannel := ⟨false, []⟩

def room : Nat := 4

def send (c : NoticeChannel) (n : Notice) : NoticeChannel :=
  let all := c.waiting ++ [n]
  if room < all.length then ⟨true, all.drop 1⟩ else { c with waiting := all }

def close (c : NoticeChannel) : NoticeChannel := { c with waiting := c.waiting ++ [.closed] }

def notices (c : NoticeChannel) : List Notice :=
  if c.lost then .lagged :: c.waiting else c.waiting

end NoticeChannel

structure Launch where
  channel : NoticeChannel
  begun : Bool
  outcome : Option (Except ServiceError Unit)

def Launch.new : Launch := ⟨.empty, false, none⟩

structure Agenda where
  nextPoll : Nat
  wake : Option (Nat × WorkerEvent)

/-- Times are in nanoseconds: `now` is the moment reached, `elapsed` what the calendar has moved on
since `epoch`. The calendar moves with time or else only when someone sleeps. The logs and the
launches have the latest first. -/
structure Rehearsal where
  script : Script
  service : Service
  epoch : Instant
  calendarMoves : Bool
  now : Nat
  elapsed : Nat
  agendas : List Agenda
  launches : List Launch
  calls : SortedMap String Nat
  lookups : List String
  handovers : List Handover

namespace Rehearsal

def new (script : Script) (service : Service) (epoch : Instant) (calendarMoves : Bool) :
    Rehearsal :=
  ⟨script, service, epoch, calendarMoves, 0, 0, [], [], .empty, [], []⟩

def patience : Nat := 10000000

-- How long a reading of the clock takes, so that no two readings are equal.
def readingTime : Nat := 1000

def calendar (r : Rehearsal) : Instant :=
  (r.epoch.add? (.ofNanos r.elapsed)).getD .max

def readClock (r : Rehearsal) : Clock × Rehearsal :=
  let r := { r with elapsed := r.elapsed + readingTime }
  (⟨r.calendar, r.elapsed⟩, r)

def setHub (r : Rehearsal) (hub : Hub) : Rehearsal :=
  { r with service := { r.service with hub } }

def setSpool (r : Rehearsal) (spool : Spool) : Rehearsal :=
  r.setHub { r.service.hub with spool }

def sleep (r : Rehearsal) (d : Duration) : Rehearsal :=
  { r with elapsed := r.elapsed + d.nanos }

def moveTo (r : Rehearsal) (moment : Nat) : Rehearsal :=
  if r.calendarMoves then { r with now := moment, elapsed := r.elapsed + (moment - r.now) }
  else { r with now := moment }

def ask (r : Rehearsal) (domain : String) : Rehearsal × Option (Except DnsError (List Exchanger)) :=
  let name := ExchangerCache.key domain
  ({ r with lookups := name :: r.lookups }, (r.script.domain name).answer? name)

def hand (r : Rehearsal) (host : String) (m : Message) :
    Rehearsal × Except TransportError Unit × Nat :=
  let limit := r.service.settings.connectionTimeout
  let calls := (r.calls.get? host).getD 0
  ({ r with
    calls := r.calls.insert host (calls + 1)
    handovers := ⟨host, m.id, limit⟩ :: r.handovers }, (r.script.host host calls).outcome limit)

-- A worker that waits for its next poll has none.
def next (r : Rehearsal) (w : Worker) : Rehearsal × Option (Nat × WorkerEvent) :=
  let cancelled := r.service.hub.cancelled
  match w with
  | .waiting => (r, if cancelled then some (r.now, .interrupted) else none)
  | .trying _ (.resolving domain) _ =>
    if cancelled then (r, some (r.now, .interrupted))
    else
      let (r, answer) := r.ask domain
      (r, answer.map fun a => (r.now, .resolved a))
  | .trying m (.delivering host _) _ =>
    if cancelled then (r, some (r.now, .interrupted))
    else
      let (r, result, delay) := r.hand host m
      (r, some (r.now + delay, .handed result))
  | .ended | .aborted _ _ => (r, none)
  | _ => (r, some (r.now, .proceed))

def step (r : Rehearsal) (w : Worker) (e : WorkerEvent) : Rehearsal × Worker :=
  let (clock, r) := r.readClock
  match w.step r.service.settings.worker r.service.hub clock e with
  | some (hub, w) => (r.setHub hub, w)
  | none => (r, w)

def act (stop : Worker → Bool) :
    (fuel : Nat) → Rehearsal → Worker → Rehearsal × Worker × Option (Nat × WorkerEvent)
  | 0, r, w => (r, w, none)
  | fuel + 1, r, w =>
    if stop w then (r, w, none)
    else
      match r.next w with
      | (r, some (moment, e)) =>
        if moment ≤ r.now then
          let (r, w) := r.step w e
          act stop fuel r w
        else (r, w, some (moment, e))
      | (r, none) => (r, w, none)

def endless : Worker → Bool := fun _ => false

-- Polls at most this late do not put off the later ones.
def pollTolerance : Nat := 5000000

def pollAfter (r : Rehearsal) (moment : Nat) : Nat :=
  let period := r.service.settings.pollInterval.nanos
  if r.now ≤ moment + pollTolerance then moment + period else r.now + period

def actWorker (r : Rehearsal) (i : Nat) (e : Option WorkerEvent) : Rehearsal :=
  match r.service.workers[i]?, r.agendas[i]? with
  | some w, some agenda =>
    let nextPoll := match e with
      | some .poll => r.pollAfter agenda.nextPoll
      | _ => agenda.nextPoll
    let (r, w) := match e with
      | some e => r.step w e
      | none => (r, w)
    let (r, w, wake) := act endless patience r w
    { r with
      service := { r.service with workers := r.service.workers.set i w }
      agendas := r.agendas.set i ⟨nextPoll, wake⟩ }
  | _, _ => r

def appointment (w : Worker) (agenda : Agenda) : Option (Nat × WorkerEvent) :=
  match w with
  | .waiting => some (agenda.nextPoll, .poll)
  | .ended | .aborted _ _ => none
  | _ => agenda.wake

def earliest (r : Rehearsal) : Option (Nat × Nat × WorkerEvent) :=
  let all := (List.zip r.service.workers r.agendas).zipIdx.filterMap fun ((w, agenda), i) =>
    (appointment w agenda).map fun (moment, e) => (i, moment, e)
  all.foldl (fun best a =>
    match best with
    | some b => if a.2.1 < b.2.1 then some a else best
    | none => some a) none

def keepDue : (fuel : Nat) → Rehearsal → Rehearsal
  | 0, r => r
  | fuel + 1, r =>
    match r.earliest with
    | some (i, moment, e) => if moment ≤ r.now then keepDue fuel (r.actWorker i e) else r
    | none => r

-- Once the flag is raised, all workers end, and with them the service.
def wind (r : Rehearsal) : Rehearsal :=
  let count := r.service.workers.length
  let r := (List.range count).foldl (fun r i => r.actWorker i none) r
  { r with service := r.service.finish }

def notify (r : Rehearsal) (notices : List Notice) : Rehearsal :=
  { r with service := notices.foldl Service.notice r.service }

def begin (r : Rehearsal) : Except ServiceError Rehearsal :=
  (r.service.start).map fun service =>
    { r with service, agendas := service.workers.map fun _ => ⟨r.now, none⟩ }

def attend (r : Rehearsal) (launch : Launch) : Rehearsal × Launch :=
  let (r, launch) :=
    if launch.begun then (r, launch)
    else
      match r.begin with
      | .ok r => (r, { launch with begun := true })
      | .error e => (r, { launch with begun := true, outcome := some (.error e) })
  match launch.outcome with
  | some _ => (r, launch)
  | none =>
    let r := r.notify launch.channel.notices
    let launch := { launch with channel := .empty }
    if r.service.state == .draining then (r.wind, { launch with outcome := some (.ok ()) })
    else (r, launch)

-- The older launch goes first.
def attendAll (wanted : Launch → Bool) (r : Rehearsal) : Rehearsal :=
  let (r, launches) := r.launches.foldr (fun launch (r, done) =>
    let (r, launch) := if wanted launch then r.attend launch else (r, launch)
    (r, launch :: done)) (r, [])
  { r with launches }

def settle (r : Rehearsal) : Rehearsal :=
  let r := r.attendAll fun launch => !launch.begun
  let r := keepDue patience r
  r.attendAll fun _ => true

def passUntil (target : Nat) : (fuel : Nat) → Rehearsal → Rehearsal
  | 0, r => r
  | fuel + 1, r =>
    let r := r.settle
    match r.earliest with
    | some (_, moment, _) =>
      if moment < target then passUntil target fuel (r.moveTo moment) else r.moveTo target
    | none => r.moveTo target

def pass (r : Rehearsal) (d : Duration) : Rehearsal :=
  if d.nanos == 0 then r else passUntil (r.now + d.nanos) patience r

def jump (r : Rehearsal) (d : Duration) : Rehearsal := r.moveTo (r.now + d.nanos)

def perform (stop : Worker → Bool) : (fuel : Nat) → Rehearsal → Worker → Rehearsal × Option Worker
  | 0, r, _ => (r, none)
  | fuel + 1, r, w =>
    match act stop patience r w with
    | (r, w, some (moment, e)) =>
      let r := r.settle
      if r.service.hub.cancelled then
        let (r, w) := r.step w .interrupted
        perform stop fuel r w
      else
        let (r, w) := (passUntil moment patience r).step w e
        perform stop fuel r w
    | (r, w, none) =>
      if stop w || w.isOver then (r, some w)
      else
        let r := r.settle
        if r.service.hub.cancelled then
          let (r, w) := r.step w .interrupted
          perform stop fuel r w
        else (r, none)

def isIdle : Worker → Bool
  | .waiting | .ended => true
  | _ => false

def isDecided : Worker → Bool
  | .trying _ (.decided _) _ => true
  | w => isIdle w

inductive Upshot (α : Type) where
  | returned (a : α)
  | stuck
  | aborted

def Upshot.ofOption {α : Type} : Option α → Upshot α
  | some a => returned a
  | none => stuck

def process (r : Rehearsal) : Rehearsal × Upshot Nat :=
  let (r, w) := r.step .waiting .poll
  let size := w.held.length
  match perform isIdle patience r w with
  | (r, some (.aborted _ _)) => (r, .aborted)
  | (r, some _) => (r, .returned size)
  | (r, none) => (r, .stuck)

def attempt (r : Rehearsal) (m : Message) : Rehearsal × Upshot (Except AttemptError Unit) :=
  let (clock, r) := r.readClock
  let hub := r.service.hub
  let (attempt, cache) := Attempt.start hub.cancelled hub.cache clock.ticks m
  match perform isDecided patience (r.setHub { hub with cache }) (.trying m attempt []) with
  | (r, some (.trying _ (.decided outcome) _)) => (r, .returned outcome)
  | (r, some _) => (r, .aborted)
  | (r, none) => (r, .stuck)

def resolve (r : Rehearsal) (domain : String) :
    Rehearsal × Upshot (Except DnsError (List Exchanger)) :=
  let (clock, r) := r.readClock
  let hub := r.service.hub
  match hub.cache.lookup domain clock.ticks with
  | (some hosts, cache) => (r.setHub { hub with cache }, .returned (.ok hosts))
  | (none, cache) =>
    match (r.setHub { hub with cache }).ask domain with
    | (r, some (.ok hosts)) =>
      let (clock, r) := r.readClock
      match cache.store? domain hosts clock.ticks with
      | some cache => (r.setHub { r.service.hub with cache }, .returned (.ok hosts))
      | none => (r, .aborted)
    | (r, answer) => (r, .ofOption answer)

def purge (r : Rehearsal) : Rehearsal × Nat :=
  let (clock, r) := r.readClock
  let (cache, count) := r.service.hub.cache.purge clock.ticks
  (r.setHub { r.service.hub with cache }, count)

def call (r : Rehearsal) (c : QueueCall) : Rehearsal × QueueReply :=
  let (clock, r) := r.readClock
  let (hub, reply) := r.service.hub.call clock.wall c
  (r.setHub hub, reply)

def hangUp (r : Rehearsal) : Rehearsal :=
  match r.launches with
  | launch :: rest =>
    { r with launches := { launch with channel := launch.channel.close } :: rest }
  | [] => r

-- The launch before loses its sender.
def launch (r : Rehearsal) : Rehearsal :=
  let r := r.hangUp
  { r with launches := .new :: r.launches }

def signal (r : Rehearsal) (n : Notice) (times : Nat) : Rehearsal :=
  match r.launches with
  | launch :: rest =>
    let channel := (List.replicate times n).foldl NoticeChannel.send launch.channel
    { r with launches := { launch with channel } :: rest }
  | [] => r

def startClosed (r : Rehearsal) : Rehearsal × Except ServiceError Unit :=
  match r.begin with
  | .ok r => (((r.notify [.closed]).attendAll fun launch => !launch.begun).wind, .ok ())
  | .error e => (r, .error e)

def join (r : Rehearsal) : Rehearsal × Upshot (Except ServiceError Unit) :=
  let r := r.settle
  (r, .ofOption (r.launches.head?.bind (·.outcome)))

end Rehearsal

end MailRelay
