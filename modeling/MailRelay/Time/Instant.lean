import MailRelay.Time.Date
import MailRelay.Time.Duration

set_option autoImplicit false

namespace MailRelay

-- Midnight at the start of the year -262143.
def Instant.minSeconds : Int := -8334601228800

-- The last second of the year 262142.
def Instant.maxSeconds : Int := 8210266876799

structure Instant where
  seconds : Int
  nanos : Nat
  lower : Instant.minSeconds ≤ seconds
  upper : seconds ≤ Instant.maxSeconds
  fraction : nanos < 1000000000 ∨ nanos < 2000000000 ∧ seconds % 60 = 59
  deriving DecidableEq

namespace Instant

def of? (seconds : Int) (nanos : Nat) : Option Instant :=
  if h : minSeconds ≤ seconds ∧ seconds ≤ maxSeconds
      ∧ (nanos < 1000000000 ∨ nanos < 2000000000 ∧ seconds % 60 = 59) then
    some ⟨seconds, nanos, h.1, h.2.1, h.2.2⟩
  else none

def max : Instant := ⟨maxSeconds, 999999999, by decide, by decide, by decide⟩
def min : Instant := ⟨minSeconds, 0, by decide, by decide, by decide⟩

def le (a b : Instant) : Bool :=
  a.seconds < b.seconds || (a.seconds == b.seconds && a.nanos ≤ b.nanos)

def lt (a b : Instant) : Bool :=
  a.seconds < b.seconds || (a.seconds == b.seconds && a.nanos < b.nanos)

def isLeap (t : Instant) : Bool :=
  1000000000 ≤ t.nanos

/-- `t + d`, absent past the last instant. A sum that leaves a leap second counts it as the second
before it. -/
def add? (t : Instant) (d : Duration) : Option Instant :=
  let stays := t.isLeap && d.secs == 0
    && (d.subsecNanos == 0 || t.nanos + d.subsecNanos < 2000000000)
  if stays then of? t.seconds (t.nanos + d.subsecNanos)
  else
    let nanos := t.nanos % 1000000000 + d.subsecNanos
    of? (t.seconds + d.secs + (nanos / 1000000000 : Nat)) (nanos % 1000000000)

-- `t - d`, absent before the first instant. Going back out of a leap second counts it as the second
-- after it.
def sub? (t : Instant) (d : Duration) : Option Instant :=
  if t.isLeap && d.secs == 0 then of? t.seconds (t.nanos - d.subsecNanos)
  else
    let seconds := if t.isLeap then t.seconds + 1 else t.seconds
    let nanos : Int := (t.nanos % 1000000000 : Nat) - (d.subsecNanos : Int)
    of? (seconds - d.secs + nanos / 1000000000) (nanos % 1000000000).toNat

/-- The exact place on a line of nanoseconds, for instants outside leap seconds. -/
def total (t : Instant) : Int :=
  t.seconds * 1000000000 + t.nanos

def civil (t : Instant) : Date × Nat :=
  (Date.ofDays (t.seconds / 86400), (t.seconds % 86400).toNat)

-- A leap second is number 60.
def clock (t : Instant) : Nat × Nat × Nat :=
  let s := t.civil.2
  (s / 3600, s / 60 % 60, s % 60 + t.nanos / 1000000000)

end Instant

end MailRelay
