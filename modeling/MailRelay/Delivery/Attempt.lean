import MailRelay.Address.Mailbox
import MailRelay.Delivery.Error
import MailRelay.Delivery.ExchangerCache
import MailRelay.Message.Basic

set_option autoImplicit false

namespace MailRelay

inductive Attempt where
  | resolving (domain : String)
  | delivering (host : String) (others : List String)
  | decided (outcome : Except AttemptError Unit)

namespace Attempt

def failed (e : AttemptError) : Attempt := decided (.error e)

def turnTo (domain : String) (hosts : List Exchanger) : Attempt :=
  match hosts with
  | [] => failed (.noTargets domain)
  | first :: rest => delivering first.host (rest.map (·.host))

def start (cancelled : Bool) (cache : ExchangerCache) (now : Nat) (m : Message) :
    Attempt × ExchangerCache :=
  if cancelled then (failed .cancelled, cache)
  else
    match m.addressees.head? with
    | none => (failed .noRecipients, cache)
    | some recipient =>
      match Mailbox.domain? recipient with
      | none => (failed (.invalidDomain recipient), cache)
      | some domain =>
        match cache.lookup domain now with
        | (some hosts, cache) => (turnTo domain hosts, cache)
        | (none, cache) => (resolving domain, cache)

/-- The answer about a domain has come; only hosts are remembered. None if the cache cannot take
them, which breaks the attempt off without an outcome. -/
def resolved? (cache : ExchangerCache) (now : Nat) (domain : String) :
    Except DnsError (List Exchanger) → Option (Attempt × ExchangerCache)
  | .ok hosts => (cache.store? domain hosts now).map ((turnTo domain hosts, ·))
  | .error e => some (failed (.resolutionFailed e), cache)

def handed (others : List String) : Except TransportError Unit → Attempt
  | .ok () => decided (.ok ())
  | .error e =>
    match others with
    | [] => failed (.allTargetsFailed e)
    | host :: rest => delivering host rest

end Attempt

end MailRelay
