import MailRelay.Api.Http
import MailRelay.Api.BodyType
import MailRelay.Api.SendRequest
import MailRelay.Config.Basic
import MailRelay.Message.Record

set_option autoImplicit false

namespace MailRelay

namespace Api

def unauthorized (message : String) : HttpResponse := .error 401 message

-- Every byte is looked at, wherever the first difference is.
def isToken (token candidate : String) : Bool :=
  let a := Utf8.ofString token
  let b := Utf8.ofString candidate
  !a.isEmpty && a.length == b.length
    && (List.zip a b).foldl (fun found (x, y) => found ||| (x ^^^ y)) 0 == 0

def scheme : String := "Bearer "

def authorize (token : String) (authorization : Option Bytes) : Except HttpResponse Unit :=
  match authorization with
  | none => .error (unauthorized "missing authorization header")
  | some v =>
    match (HeaderValue.text? v).bind fun text => Text.dropFront? scheme.toList text.toList with
    | none => .error (unauthorized "invalid authorization format")
    | some candidate =>
      if isToken token (String.ofList candidate) then .ok ()
      else .error (unauthorized "invalid token")

def invalidJson (reason : String) : HttpResponse := .error 400 ("invalid JSON: " ++ reason)

def faultText : JsonFault → String
  | .notJson => "Failed to parse the request body as JSON"
  | .wrongType => "Failed to deserialize the JSON body into the target type"

def hasJson (request : HttpRequest) : Bool :=
  ((request.contentType.bind HeaderValue.text?).bind BodyType.read?).any BodyType.isJson

def body {α : Type} (maxSize : Nat) (value : JsonReader α) (request : HttpRequest) :
    Except HttpResponse α :=
  if !hasJson request then
    .error (invalidJson "Expected request with \x60Content-Type: application/json\x60")
  else if maxSize < request.body.length then
    .error (invalidJson "Failed to buffer the request body: length limit exceeded")
  else (JsonReader.document value request.body).mapError fun fault => invalidJson (faultText fault)

def refusal : SubmitError → Nat × String
  | .invalid e => (400, e.message)
  | .queue (.full _) => (503, "queue is full")
  | .queue _ => (500, "failed to queue email")

def queued (id : String) : Json :=
  .object [("id", .string id), ("status", .string Status.queued.name),
    ("message", .string "Email queued for delivery")]

def rejected (e : SubmitError) : Json :=
  .object [("status", .string "error"), ("message", .string (refusal e).2)]

def submit (stamps : Stamps) (r : Reception) (request : SendRequest) :
    Reception × Except SubmitError String :=
  let (r, stamp) := r.stamp stamps
  r.submit (request.message stamp) stamp.queuedAt

def send (stamps : Stamps) (r : Reception) (request : SendRequest) : Reception × HttpResponse :=
  match submit stamps r request with
  | (r, .ok id) => (r, .json 202 (queued id))
  | (r, .error e) => (r, .error (refusal e).1 (refusal e).2)

def sendAll (stamps : Stamps) (r : Reception) : List SendRequest → Reception × List Json
  | [] => (r, [])
  | request :: rest =>
    let (r, outcome) := submit stamps r request
    let answer := match outcome with
      | .ok id => queued id
      | .error e => rejected e
    let (r, answers) := sendAll stamps r rest
    (r, answer :: answers)

def sendBatch (maxBatch : Nat) (stamps : Stamps) (r : Reception) (requests : List SendRequest) :
    Reception × HttpResponse :=
  if maxBatch < requests.length then
    (r, .error 400 s!"batch size exceeds limit ({maxBatch})")
  else
    let (r, answers) := sendAll stamps r requests
    (r, .json 202 (.array answers))

def statusReport (m : Message) : Json :=
  .object ([("id", .string m.id), ("status", m.status.toJson),
      ("retry_count", .natural m.retryCount.toNat)]
    ++ Message.whenSet "last_error" .string m.lastError
    ++ [("created_at", m.createdAt.toJson), ("updated_at", m.updatedAt.toJson)]
    ++ Message.whenSet "scheduled_at" Instant.toJson m.scheduledAt
    ++ Message.whenSet "delivered_at" Instant.toJson m.deliveredAt)

def status (r : Reception) (segment : String) : HttpResponse :=
  match Utf8.decode (Route.decodePercent segment.toList) with
  | .error _ => ⟨400, .text "Invalid URL: Invalid UTF-8 in \x60id\x60"⟩
  | .ok id =>
    match r.spool.tracker.get? (String.ofList id) with
    | some m => .json 200 (statusReport m)
    | none => .error 404 "email not found"

def stats (r : Reception) : HttpResponse :=
  let s := r.spool.stats
  .json 200 (.object [("queue_size", .natural r.backlog), ("total_sent", .natural s.sent),
    ("total_delivered", .natural s.delivered), ("total_failed", .natural s.failed),
    ("total_retried", .natural s.retried)])

def uptimeText (secs : Nat) : String :=
  let (hours, minutes, seconds) := (secs / 3600, secs / 60 % 60, secs % 60)
  if 0 < hours then s!"{hours}h{minutes}m{seconds}s"
  else if 0 < minutes then s!"{minutes}m{seconds}s"
  else s!"{seconds}s"

def health (r : Reception) (uptimeSecs : Nat) : HttpResponse :=
  .json 200 (.object [("status", .string "healthy"), ("queue_size", .natural r.backlog),
    ("uptime", .string (uptimeText uptimeSecs)), ("uptime_secs", .natural uptimeSecs)])

def carryOut (s : ApiSettings) (stamps : Stamps) (uptimeSecs : Nat) (r : Reception)
    (request : HttpRequest) : Route → Reception × HttpResponse
  | .send =>
    match body s.maxBodySize SendRequest.reader request with
    | .ok wanted => send stamps r wanted
    | .error answer => (r, answer)
  | .sendBatch =>
    match body s.maxBodySize (JsonReader.list SendRequest.reader) request with
    | .ok wanted => sendBatch s.maxBatch stamps r wanted
    | .error answer => (r, answer)
  | .status segment => (r, status r segment)
  | .stats => (r, stats r)
  | .health => (r, health r uptimeSecs)

-- The token is asked for before the method is looked at.
def permitted (s : ApiSettings) (request : HttpRequest) : Except HttpResponse Route := do
  let some route := Route.ofTarget? request.target | throw .notFound
  if route.isProtected then authorize s.token request.authorization
  if route.allows request.method then return route else throw .methodNotAllowed

def respond (s : ApiSettings) (stamps : Stamps) (uptimeSecs : Nat) (r : Reception)
    (request : HttpRequest) : Reception × HttpResponse :=
  match permitted s request with
  | .ok route => carryOut s stamps uptimeSecs r request route
  | .error answer => (r, answer)

-- The answer to a question for the head alone has no body.
def answer (s : ApiSettings) (stamps : Stamps) (uptimeSecs : Nat) (r : Reception)
    (request : HttpRequest) : Reception × HttpResponse :=
  let (r, response) := respond s stamps uptimeSecs r request
  (r, if request.method == "HEAD" then { response with body := .empty } else response)

end Api

end MailRelay
