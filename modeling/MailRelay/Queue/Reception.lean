import MailRelay.Queue.Spool

set_option autoImplicit false

namespace MailRelay

structure Stamp where
  id : String
  createdAt : Instant
  queuedAt : Instant

abbrev Stamps := Nat → Stamp

/-- A reception with an `obstacle` has no queue to put messages into. -/
structure Reception where
  limits : Limits
  obstacle : Option QueueError
  spool : Spool
  stamped : Nat

namespace Reception

def new (limits : Limits) (spool : Spool) : Reception := ⟨limits, none, spool, 0⟩

def backlog (r : Reception) : Nat :=
  match r.obstacle with
  | some _ => 0
  | none => r.spool.queue.size

def stamp (r : Reception) (stamps : Stamps) : Reception × Stamp :=
  ({ r with stamped := r.stamped + 1 }, stamps r.stamped)

def submit (r : Reception) (m : Message) (now : Instant) : Reception × Except SubmitError String :=
  match r.obstacle with
  | some e =>
    match m.validate r.limits with
    | .ok () => (r, .error (.queue e))
    | .error invalid => (r, .error (.invalid invalid))
  | none =>
    match r.spool.submit r.limits m now with
    | .ok spool => ({ r with spool }, .ok m.id)
    | .error e => (r, .error e)

end Reception

end MailRelay
