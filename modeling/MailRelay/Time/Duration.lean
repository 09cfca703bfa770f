import MailRelay.Text.Ascii

set_option autoImplicit false

namespace MailRelay

def Duration.maxNanos : Nat := 18446744073709551615999999999

structure Duration where
  nanos : Nat
  bounded : nanos ≤ Duration.maxNanos
  deriving DecidableEq

namespace Duration

def ofNanos (n : Nat) : Duration :=
  ⟨min n maxNanos, Nat.min_le_right ..⟩

def ofMillis (n : Nat) : Duration := ofNanos (n * 1000000)
def ofSecs (n : Nat) : Duration := ofNanos (n * 1000000000)

def zero : Duration := ofNanos 0
def max : Duration := ofNanos maxNanos

def secs (d : Duration) : Nat := d.nanos / 1000000000
def subsecNanos (d : Duration) : Nat := d.nanos % 1000000000

def scale (d : Duration) (n : Nat) : Duration :=
  ofNanos (d.nanos * n)

instance : LE Duration := ⟨fun a b => a.nanos ≤ b.nanos⟩
instance : DecidableLE Duration := fun a b => inferInstanceAs (Decidable (a.nanos ≤ b.nanos))

def atLeast (a b : Duration) : Duration :=
  if a ≤ b then b else a

theorem nanos_scale (d : Duration) (n : Nat) : (d.scale n).nanos = min (d.nanos * n) maxNanos := rfl

-- `whole.part` with `places` decimal places, final zeros left out.
def decimal (whole part places : Nat) : String :=
  let digits := (Text.padded places part).toList.reverse.dropWhile (· == '0') |>.reverse
  if digits.isEmpty then whole.repr else whole.repr ++ "." ++ String.ofList digits

-- The largest unit that leaves something before the point: seconds, milliseconds, microseconds or
-- nanoseconds.
def text (d : Duration) : String :=
  if 0 < d.secs then decimal d.secs d.subsecNanos 9 ++ "s"
  else if 1000000 ≤ d.nanos then decimal (d.nanos / 1000000) (d.nanos % 1000000) 6 ++ "ms"
  else if 1000 ≤ d.nanos then decimal (d.nanos / 1000) (d.nanos % 1000) 3 ++ "µs"
  else d.nanos.repr ++ "ns"

end Duration

end MailRelay
