import MailRelay.Time.Instant

set_option autoImplicit false

namespace MailRelay

def backoff (retryCount : UInt32) (base : Duration) : Duration :=
  base.scale retryCount.toNat

def longestDelay : Duration := .ofMillis 9223372036854775807

-- A delay as something that can be added to an instant, absent if it is longer than that.
def delay? (d : Duration) : Option Duration :=
  if d ≤ longestDelay then some d else none

def nextAttemptAt (now : Instant) (retryCount : UInt32) (base : Duration) : Instant :=
  (now.add? ((delay? (backoff retryCount base)).getD longestDelay)).getD .max

end MailRelay
