import MailRelay.Config.SocketAddress
import MailRelay.Message.Validation
import MailRelay.Time.Duration

set_option autoImplicit false

namespace MailRelay

structure SubmissionSettings where
  listenAddress : SocketAddress
  readTimeoutSecs : Nat
  deriving DecidableEq, Repr

def SubmissionSettings.default : SubmissionSettings := ⟨.v4 [0, 0, 0, 0] 587, 10⟩

structure ApiSettings where
  enabled : Bool
  listenAddress : String
  token : String
  maxBatch : Nat
  requestTimeoutSecs : Nat
  maxBodySize : Nat
  deriving DecidableEq, Repr

def ApiSettings.requestTimeout (s : ApiSettings) : Duration := .ofSecs s.requestTimeoutSecs

def ApiSettings.default : ApiSettings := ⟨true, "127.0.0.1:8080", "", 100, 30, 67108864⟩

structure QueueSettings where
  capacity : Nat
  retryDelaySecs : Nat
  deriving DecidableEq, Repr

def QueueSettings.retryDelay (s : QueueSettings) : Duration := .ofSecs s.retryDelaySecs

def QueueSettings.default : QueueSettings := ⟨10000, 300⟩

structure DeliverySettings where
  workers : Nat
  batchSize : Nat
  pollIntervalMillis : Nat
  connectionTimeoutSecs : Nat
  dnsCacheSecs : Nat
  maxRetries : UInt32
  heloName : Option String
  smtpPort : Nat
  acceptInvalidCerts : Bool
  dnsTimeoutSecs : Nat
  deriving DecidableEq, Repr

namespace DeliverySettings

def pollInterval (s : DeliverySettings) : Duration := .ofMillis s.pollIntervalMillis
def connectionTimeout (s : DeliverySettings) : Duration := .ofSecs s.connectionTimeoutSecs
def dnsCacheTtl (s : DeliverySettings) : Duration := .ofSecs s.dnsCacheSecs

end DeliverySettings

def DeliverySettings.default : DeliverySettings := ⟨20, 10, 1000, 30, 300, 5, none, 25, false, 5⟩

inductive LogFormat where
  | compact
  | json
  deriving DecidableEq, Repr

structure LogSettings where
  level : String
  format : LogFormat
  deriving DecidableEq, Repr

def LogSettings.default : LogSettings := ⟨"info", .compact⟩

structure StatusSettings where
  retentionSecs : Nat
  pruneIntervalSecs : Nat
  deriving DecidableEq, Repr

def StatusSettings.retention (s : StatusSettings) : Duration := .ofSecs s.retentionSecs
def StatusSettings.pruneInterval (s : StatusSettings) : Duration := .ofSecs s.pruneIntervalSecs

def StatusSettings.default : StatusSettings := ⟨86400, 300⟩

structure Config where
  hostname : String
  smtp : SubmissionSettings
  api : ApiSettings
  queue : QueueSettings
  delivery : DeliverySettings
  limits : Limits
  logging : LogSettings
  status : StatusSettings
  deriving DecidableEq, Repr

inductive ConfigError where
  | unreadable (path reason : String)
  | malformed
  | missingHostname
  | missingToken
  | notPositive (field : String)
  deriving DecidableEq, Repr

def ConfigError.message : ConfigError → String
  | unreadable path reason => "Failed to read config from " ++ path ++ ": " ++ reason
  | malformed => "Failed to parse config"
  | missingHostname => "\x60hostname\x60 must be set"
  | missingToken => "\x60api.auth_token\x60 must be set while the API is enabled"
  | notPositive field => "\x60" ++ field ++ "\x60 must be greater than zero"

namespace Config

def default : Config :=
  ⟨"", .default, .default, .default, .default, .default, .default, .default⟩

-- In the order in which they are checked.
def positive (c : Config) : List (String × Nat) :=
  [("queue.capacity", c.queue.capacity), ("delivery.workers", c.delivery.workers),
    ("delivery.batch_size", c.delivery.batchSize),
    ("delivery.poll_interval_ms", c.delivery.pollIntervalMillis),
    ("delivery.connection_timeout_secs", c.delivery.connectionTimeoutSecs),
    ("delivery.dns.timeout_secs", c.delivery.dnsTimeoutSecs), ("api.max_batch", c.api.maxBatch),
    ("limits.max_recipients", c.limits.maxRecipients),
    ("limits.max_message_size", c.limits.maxMessageSize),
    ("status.prune_interval_secs", c.status.pruneIntervalSecs)]

def validate (c : Config) : Except ConfigError Unit :=
  if Text.allBlank c.hostname then .error .missingHostname
  else if c.api.enabled && c.api.token.isEmpty then .error .missingToken
  else
    match c.positive.find? (·.2 == 0) with
    | some (field, _) => .error (.notPositive field)
    | none => .ok ()

def heloName (c : Config) : String :=
  (c.delivery.heloName.filter (!·.isEmpty)).getD c.hostname

end Config

end MailRelay
