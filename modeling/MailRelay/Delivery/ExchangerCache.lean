import MailRelay.SortedMap
import MailRelay.Text.Ascii
import MailRelay.Time.Duration

set_option autoImplicit false

namespace MailRelay

-- Of several, the one with the least preference comes first.
structure Exchanger where
  host : String
  preference : Nat
  deriving DecidableEq, Repr

-- Time is counted in nanoseconds from a fixed moment. The running clock counts its seconds in 63
-- bits, so that no moment comes after this one.
def lastMoment : Nat := 9223372036854775807999999999

structure CachedExchangers where
  hosts : List Exchanger
  expiresAt : Nat
  bounded : expiresAt ≤ lastMoment
  deriving DecidableEq, Repr

-- The counters have 64 bits; `Inquiries.Counted.lt_size` says what that suffices for.
structure ExchangerCache where
  ttl : Duration
  entries : SortedMap String CachedExchangers
  hits : Nat
  misses : Nat
  deriving DecidableEq

namespace ExchangerCache

def new (ttl : Duration) : ExchangerCache := ⟨ttl, .empty, 0, 0⟩

def key (domain : String) : String := Text.lowercase domain

def fresh? (c : ExchangerCache) (domain : String) (now : Nat) : Option (List Exchanger) :=
  ((c.entries.get? (key domain)).filter (now < ·.expiresAt)).map (·.hosts)

def lookup (c : ExchangerCache) (domain : String) (now : Nat) :
    Option (List Exchanger) × ExchangerCache :=
  match c.fresh? domain now with
  | some hosts => (some hosts, { c with hits := c.hits + 1 })
  | none => (none, { c with misses := c.misses + 1 })

-- None if the moment at which the hosts expire is past the last one.
def store? (c : ExchangerCache) (domain : String) (hosts : List Exchanger) (now : Nat) :
    Option ExchangerCache :=
  if bounded : now + c.ttl.nanos ≤ lastMoment then
    some { c with entries := c.entries.insert (key domain) ⟨hosts, now + c.ttl.nanos, bounded⟩ }
  else none

def purge (c : ExchangerCache) (now : Nat) : ExchangerCache × Nat :=
  let kept := c.entries.filter fun _ entry => now < entry.expiresAt
  ({ c with entries := kept }, c.entries.size - kept.size)

def describe (c : ExchangerCache) : String :=
  "MxCache \x7b ttl: " ++ c.ttl.text ++ ", stats: CacheStats \x7b entries: "
    ++ s!"{c.entries.size}, hits: {c.hits}, misses: {c.misses} \x7d, .. \x7d"

end ExchangerCache

end MailRelay
