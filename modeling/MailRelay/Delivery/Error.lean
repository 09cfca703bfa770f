import MailRelay.Smtp.Wire
import MailRelay.Time.Duration

set_option autoImplicit false

namespace MailRelay

inductive DnsError where
  | domainNotFound (domain : String)
  | lookupFailed (reason : String)
  | timeout (domain : String)
  | resolver (reason : String)
  deriving DecidableEq, Repr

def DnsError.message : DnsError → String
  | domainNotFound domain => "Domain does not exist: " ++ domain
  | lookupFailed reason => "DNS lookup failed: " ++ reason
  | timeout domain => "DNS query timed out for domain: " ++ domain
  | resolver reason => "Unable to initialise resolver: " ++ reason

inductive TransportError where
  | connectionFailed (reason : String)
  | rejected (code : Nat) (text : String)
  | tls (reason : String)
  | protocol (reason : String)
  | timeout (limit : Duration)
  | cancelled
  deriving DecidableEq

namespace TransportError

def message : TransportError → String
  | connectionFailed reason => "connection failed: " ++ reason
  | rejected code text => s!"{code} " ++ text
  | tls reason => "TLS error: " ++ reason
  | protocol reason => "protocol error: " ++ reason
  | timeout limit => "timed out after " ++ limit.text
  | cancelled => "delivery interrupted by shutdown"

def isPermanent : TransportError → Bool
  | rejected code _ => 500 ≤ code
  | _ => false

def ofClient : ClientError → TransportError
  | .io reason => connectionFailed reason
  | .closed => connectionFailed "connection closed unexpectedly"
  | .tls reason => tls reason
  | .badReply reason => protocol reason
  | .notText e => protocol e.message

end TransportError

inductive AttemptError where
  | noRecipients
  | invalidDomain (recipient : String)
  | resolutionFailed (e : DnsError)
  | noTargets (domain : String)
  | allTargetsFailed (last : TransportError)
  | cancelled
  deriving DecidableEq

namespace AttemptError

def message : AttemptError → String
  | noRecipients => "no recipients"
  | invalidDomain recipient => "invalid recipient domain: " ++ recipient
  | resolutionFailed e => "DNS resolution failed: " ++ e.message
  | noTargets domain => "no MX servers found for " ++ domain
  | allTargetsFailed last => "all MX servers failed: " ++ last.message
  | cancelled => "delivery interrupted by shutdown"

def isCancellation : AttemptError → Bool
  | cancelled | allTargetsFailed .cancelled => true
  | _ => false

end AttemptError

inductive ServiceState where
  | idle
  | running
  | draining
  | stopped
  deriving DecidableEq, Repr

def ServiceState.name : ServiceState → String
  | idle => "idle"
  | running => "running"
  | draining => "draining"
  | stopped => "stopped"

inductive ServiceError where
  | notIdle (state : ServiceState)
  deriving DecidableEq, Repr

def ServiceError.message : ServiceError → String
  | notIdle state => "delivery service cannot start while " ++ state.name

end MailRelay
