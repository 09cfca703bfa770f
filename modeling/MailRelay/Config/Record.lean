import MailRelay.Config.Basic
import MailRelay.Config.Ron

set_option autoImplicit false

namespace MailRelay

open Ron

namespace Config

def plain {σ α : Type} (name : String) (value : Reader α) (put : σ → α → σ) : RecordField σ :=
  ⟨name, fun _ _ record => do return put record (← value)⟩

def size : Reader Nat := natural 64

def flag : Reader Bool := boolean

def socketAddress : Reader SocketAddress := do
  match SocketAddress.read? (← string) with
  | some address => return address
  | none => failure

def logFormat : Reader LogFormat := do
  match ← name with
  | "compact" => return .compact
  | "json" => return .json
  | _ => failure

def submissionFields : List (RecordField SubmissionSettings) :=
  [plain "listen_address" socketAddress fun s a => { s with listenAddress := a },
    plain "read_timeout_secs" size fun s n => { s with readTimeoutSecs := n }]

def apiFields : List (RecordField ApiSettings) :=
  [plain "enabled" flag fun s b => { s with enabled := b },
    plain "listen_address" string fun s a => { s with listenAddress := a },
    plain "auth_token" string fun s t => { s with token := t },
    plain "max_batch" size fun s n => { s with maxBatch := n },
    plain "request_timeout_secs" size fun s n => { s with requestTimeoutSecs := n },
    plain "max_body_size" size fun s n => { s with maxBodySize := n }]

def queueFields : List (RecordField QueueSettings) :=
  [plain "capacity" size fun s n => { s with capacity := n },
    plain "retry_delay_secs" size fun s n => { s with retryDelaySecs := n }]

def dnsFields : List (RecordField Nat) :=
  [plain "timeout_secs" size fun _ n => n]

def deliveryFields : List (RecordField DeliverySettings) :=
  [plain "workers" size fun s n => { s with workers := n },
    plain "batch_size" size fun s n => { s with batchSize := n },
    plain "poll_interval_ms" size fun s n => { s with pollIntervalMillis := n },
    plain "connection_timeout_secs" size fun s n => { s with connectionTimeoutSecs := n },
    plain "dns_cache_ttl_secs" size fun s n => { s with dnsCacheSecs := n },
    plain "max_retries" (natural 32) fun s n => { s with maxRetries := UInt32.ofNat n },
    ⟨"helo_name", fun options _ s => do return { s with heloName := ← option options string }⟩,
    plain "smtp_port" (natural 16) fun s n => { s with smtpPort := n },
    plain "accept_invalid_certs" flag fun s b => { s with acceptInvalidCerts := b },
    ⟨"dns", fun options depth s => do
      return { s with dnsTimeoutSecs := ← record "DnsConfig" dnsFields 5 options depth }⟩]

def limitFields : List (RecordField Limits) :=
  [plain "max_recipients" size fun s n => { s with maxRecipients := n },
    plain "max_message_size" size fun s n => { s with maxMessageSize := n }]

def loggingFields : List (RecordField LogSettings) :=
  [plain "level" string fun s level => { s with level },
    plain "format" logFormat fun s format => { s with format }]

def statusFields : List (RecordField StatusSettings) :=
  [plain "retention_secs" size fun s n => { s with retentionSecs := n },
    plain "prune_interval_secs" size fun s n => { s with pruneIntervalSecs := n }]

def nested {σ α : Type} (name type : String) (fields : List (RecordField α)) (initial : α)
    (put : σ → α → σ) : RecordField σ :=
  ⟨name, fun options depth s => do return put s (← record type fields initial options depth)⟩

def fields : List (RecordField Config) :=
  [plain "hostname" string fun c hostname => { c with hostname },
    nested "smtp" "SubmissionConfig" submissionFields .default fun c smtp => { c with smtp },
    nested "api" "ApiConfig" apiFields .default fun c api => { c with api },
    nested "queue" "QueueConfig" queueFields .default fun c queue => { c with queue },
    nested "delivery" "DeliveryConfig" deliveryFields .default
      fun c delivery => { c with delivery },
    nested "limits" "Limits" limitFields .default fun c limits => { c with limits },
    nested "logging" "LoggingConfig" loggingFields .default fun c logging => { c with logging },
    nested "status" "StatusConfig" statusFields .default fun c status => { c with status }]

def ofText (text : String) : Except ConfigError Config :=
  match document (fun options depth => record "Config" fields .default options depth) text with
  | some c => .ok c
  | none => .error .malformed

end Config

end MailRelay
