import MailRelay.Queue.Basic

set_option autoImplicit false

namespace MailRelay

structure Tracker where
  records : SortedMap String Message
  deriving DecidableEq

namespace Tracker

def empty : Tracker := ⟨.empty⟩

def size (t : Tracker) : Nat := t.records.size

def get? (t : Tracker) (id : String) : Option Message := t.records.get? id

def observe (t : Tracker) (m : Message) : Tracker := ⟨t.records.insert m.id m⟩

def isStale (cutoff : Instant) (m : Message) : Bool :=
  m.status.isTerminal && m.updatedAt.lt cutoff

def prune (t : Tracker) (retention : Duration) (now : Instant) : Tracker × Nat :=
  let cutoff := (now.sub? retention).getD .min
  let kept := t.records.filter fun _ m => !isStale cutoff m
  (⟨kept⟩, t.size - kept.size)

end Tracker

-- The counters have 64 bits; `Traffic.stats_lt_size` says what that suffices for.
structure Stats where
  sent : Nat
  delivered : Nat
  failed : Nat
  retried : Nat
  deriving DecidableEq, Repr

namespace Stats

def zero : Stats := ⟨0, 0, 0, 0⟩

def countSent (s : Stats) : Stats := { s with sent := s.sent + 1 }
def countDelivered (s : Stats) : Stats := { s with delivered := s.delivered + 1 }
def countFailed (s : Stats) : Stats := { s with failed := s.failed + 1 }
def countRetried (s : Stats) : Stats := { s with retried := s.retried + 1 }

end Stats

end MailRelay
