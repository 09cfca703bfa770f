import MailRelay.Delivery.Service
import MailRelay.Text.Quoted

set_option autoImplicit false

namespace MailRelay

inductive Component where
  | delivery
  | api
  | submission
  | upkeep
  deriving DecidableEq, Repr

namespace Component

def all : List Component := [delivery, api, submission, upkeep]

-- Any notice ends the API.
def endsAt : Component → Notice → Bool
  | api, _ => true
  | _, n => n.isFinal

end Component

inductive Condition where
  | running
  | ended
  | failed (reason : String)
  deriving DecidableEq, Repr

namespace Condition

def after (c : Component) (n : Notice) : Condition → Condition
  | running => if c.endsAt n then ended else running
  | condition => condition

def failure? : Condition → Option String
  | failed reason => some reason
  | _ => none

end Condition

-- The notices are all that were sent, the latest first.
structure Relay where
  config : Config
  condition : Component → Condition
  notices : List Notice

namespace Relay

def send (r : Relay) (n : Notice) : Relay :=
  { r with condition := fun c => (r.condition c).after c n, notices := n :: r.notices }

def failures (r : Relay) : List String :=
  Component.all.filterMap fun c => (r.condition c).failure?

def isOver (r : Relay) : Bool :=
  Component.all.all fun c => r.condition c != .running

def firstCondition (config : Config) (obstacle : Option String) : Component → Condition
  | .api => if config.api.enabled then .running else .ended
  | .submission => (obstacle.map Condition.failed).getD .running
  | .delivery | .upkeep => .running

def supervise (r : Relay) : Relay :=
  if r.failures.isEmpty then r else r.send .shutdown

/-- Starts the relay; `obstacle` says why the address of a component cannot be had. Without the
address of the API nothing is started. -/
def start (config : Config) (obstacle : Component → Option String) : Except String Relay :=
  match if config.api.enabled then obstacle .api else none with
  | some reason =>
    .error ("Failed to bind API server to " ++ config.api.listenAddress ++ ": " ++ reason)
  | none =>
    .ok (supervise ⟨config, firstCondition config (obstacle .submission), []⟩)

def finish (r : Relay) : Relay :=
  if r.isOver then { r with notices := .finalised :: r.notices } else r

def outcome? (r : Relay) : Option (Except String Unit) :=
  if r.isOver then
    some (match r.failures with
      | reason :: _ => .error reason
      | [] => .ok ())
  else none

def describe (config : Config) : String :=
  "Outpost \x7b hostname: " ++ Text.quoted config.hostname ++ ", .. \x7d"

end Relay

def Hub.upkeep (h : Hub) (s : StatusSettings) (clock : Clock) : Hub × Nat × Nat :=
  let (tracker, records) := h.spool.tracker.prune s.retention clock.wall
  let (cache, exchangers) := h.cache.purge clock.ticks
  ({ h with spool := { h.spool with tracker }, cache }, records, exchangers)

end MailRelay
