import MailRelay.Api.Service
import MailRelay.Proofs.Json.Record
import MailRelay.Proofs.Queue.Reception

set_option autoImplicit false

namespace MailRelay

namespace Json

def queuedId? (j : Json) : Option String :=
  if (j.member? "status").bind string? = some Status.queued.name then
    (j.member? "id").bind string?
  else none

end Json

def HttpResponse.reported (a : HttpResponse) : List String :=
  if a.status = 202 then
    match a.body with
    | .json (.array answers) => answers.filterMap (·.queuedId?)
    | .json j => j.queuedId?.toList
    | _ => []
  else []

namespace Api

variable (stamps : Stamps)

def report : Except SubmitError String → Json
  | .ok id => queued id
  | .error e => rejected e

theorem queuedId?_report (outcome : Except SubmitError String) :
    (report outcome).queuedId? = outcome.toOption := by
  cases outcome with
  | ok id => simp [report, Json.queuedId?, Json.member?, queued, Json.string?, Except.toOption]
  | error e =>
    simp [report, Json.queuedId?, Json.member?, rejected, Json.string?, Status.name,
      Except.toOption]

theorem reported_batch (outcomes : List (Except SubmitError String)) :
    HttpResponse.reported (.json 202 (.array (outcomes.map report))) =
      outcomes.filterMap (·.toOption) := by
  refine (if_pos rfl).trans ?_
  dsimp only [HttpResponse.json]
  rw [List.filterMap_map]
  exact List.filterMap_congr fun outcome _ => queuedId?_report outcome

/-- What can be answered, and what has been gained then. -/
inductive Answered (s : Spool) : HttpResponse → Spool → Prop where
  | accepted {id : String} {s' : Spool} (gains : s.Gains [id] s') :
    Answered s (.json 202 (queued id)) s'
  | batch {outcomes : List (Except SubmitError String)} {s' : Spool}
      (gains : s.Gains (outcomes.filterMap (·.toOption)) s') :
    Answered s (.json 202 (.array (outcomes.map report))) s'
  | refused {a : HttpResponse} (other : a.status ≠ 202) : Answered s a s

theorem status_mem_refusal (e : SubmitError) : (refusal e).1 ∈ [400, 503, 500] := by
  cases e with
  | invalid e => simp [refusal]
  | queue e => cases e <;> simp [refusal]

theorem status_refusal (e : SubmitError) : (refusal e).1 ≠ 202 := by
  have known := status_mem_refusal e
  intro accepted
  simp [accepted] at known

theorem submit_gains (r : Reception) (request : SendRequest) :
    r.spool.Gains (submit stamps r request).2.toOption.toList (submit stamps r request).1.spool :=
  (r.stamp stamps).1.submit_gains (request.message (stamps r.stamped)) (stamps r.stamped).queuedAt

theorem answered_send (r : Reception) (request : SendRequest) :
    Answered r.spool (send stamps r request).2 (send stamps r request).1.spool := by
  have gains := submit_gains stamps r request
  unfold send
  generalize submit stamps r request = result at gains ⊢
  obtain ⟨r', outcome⟩ := result
  cases outcome with
  | ok id => exact .accepted gains
  | error e =>
    dsimp only
    rw [show r'.spool = r.spool from gains.eq_of_nil]
    exact .refused (status_refusal e)

theorem sendAll_outcomes (r : Reception) (requests : List SendRequest) :
    ∃ outcomes : List (Except SubmitError String),
      (sendAll stamps r requests).2 = outcomes.map report ∧
      r.spool.Gains (outcomes.filterMap (·.toOption)) (sendAll stamps r requests).1.spool := by
  induction requests generalizing r with
  | nil => exact ⟨[], rfl, .nothing _⟩
  | cons request rest ih =>
    obtain ⟨outcomes, answers, later⟩ := ih (submit stamps r request).1
    have gains := (submit_gains stamps r request).append later
    refine ⟨(submit stamps r request).2 :: outcomes, ?_, ?_⟩
    · rw [List.map_cons, ← answers]
      rfl
    · cases outcome : (submit stamps r request).2 <;> rw [outcome] at gains <;> exact gains

theorem answered_sendBatch (maxBatch : Nat) (r : Reception) (requests : List SendRequest) :
    Answered r.spool (sendBatch maxBatch stamps r requests).2
      (sendBatch maxBatch stamps r requests).1.spool := by
  unfold sendBatch
  split
  · exact .refused (by simp [HttpResponse.error, HttpResponse.json])
  · obtain ⟨outcomes, answers, gains⟩ := sendAll_outcomes stamps r requests
    dsimp only
    rw [answers]
    exact .batch gains

theorem status_body {α : Type} {maxSize : Nat} {value : JsonReader α} {request : HttpRequest}
    {a : HttpResponse} (refused : body maxSize value request = .error a) : a.status = 400 := by
  unfold body at refused
  split at refused
  · cases refused
    rfl
  split at refused
  · cases refused
    rfl
  cases read : JsonReader.document value request.body <;> rw [read] at refused <;> cases refused
  rfl

theorem status_authorize {token : String} {authorization : Option Bytes} {a : HttpResponse}
    (refused : authorize token authorization = .error a) : a.status = 401 := by
  unfold authorize at refused
  split at refused
  · cases refused
    rfl
  split at refused
  · cases refused
    rfl
  split at refused <;> cases refused
  rfl

theorem status_mem_status (r : Reception) (segment : String) :
    (status r segment).status ∈ [200, 400, 404] := by
  unfold status
  split
  · simp
  · split <;> simp [HttpResponse.error, HttpResponse.json]

theorem status_status (r : Reception) (segment : String) : (status r segment).status ≠ 202 := by
  have known := status_mem_status r segment
  intro accepted
  simp [accepted] at known

theorem answered_carryOut (s : ApiSettings) (uptimeSecs : Nat) (r : Reception)
    (request : HttpRequest) (route : Route) :
    Answered r.spool (carryOut s stamps uptimeSecs r request route).2
      (carryOut s stamps uptimeSecs r request route).1.spool := by
  cases route with
  | send =>
    rw [carryOut]
    split
    · exact answered_send stamps r _
    · next refused => exact .refused (by simp [status_body refused])
  | sendBatch =>
    rw [carryOut]
    split
    · exact answered_sendBatch stamps s.maxBatch r _
    · next refused => exact .refused (by simp [status_body refused])
  | status segment => exact .refused (status_status r segment)
  | stats | health => exact .refused (by simp [carryOut, stats, health, HttpResponse.json])

inductive Permission (request : HttpRequest) : Except HttpResponse Route → Prop where
  | granted (route : Route) (allowed : route.allows request.method = true) :
    Permission request (.ok route)
  | refused {a : HttpResponse} (other : a.status ≠ 202) : Permission request (.error a)

theorem permission (s : ApiSettings) (request : HttpRequest) :
    Permission request (permitted s request) := by
  unfold permitted
  split
  · next route found =>
    have methods : Permission request
        (if route.allows request.method then .ok route else .error .methodNotAllowed) := by
      split
      · next allowed => exact .granted route allowed
      · exact .refused (by simp [HttpResponse.methodNotAllowed])
    dsimp only [bind, Except.bind, pure, Except.pure]
    split
    · cases asked : authorize s.token request.authorization with
      | ok => exact methods
      | error a => exact .refused (by simp [status_authorize asked])
    · exact methods
  · exact .refused (by simp [HttpResponse.notFound])

theorem answered_respond (s : ApiSettings) (uptimeSecs : Nat) (r : Reception)
    (request : HttpRequest) :
    Answered r.spool (respond s stamps uptimeSecs r request).2
      (respond s stamps uptimeSecs r request).1.spool := by
  have permission := permission s request
  unfold respond
  generalize permitted s request = outcome at permission ⊢
  cases permission with
  | granted route => exact answered_carryOut stamps s uptimeSecs r request route
  | refused other => exact .refused other

-- A question for the head is never a message, so that no report is lost with the body.
theorem respond_head (s : ApiSettings) (uptimeSecs : Nat) (r : Reception) {request : HttpRequest}
    (head : request.method = "HEAD") :
    (respond s stamps uptimeSecs r request).2.status ≠ 202 ∧
      (respond s stamps uptimeSecs r request).1 = r := by
  have permission := permission s request
  unfold respond
  generalize permitted s request = outcome at permission ⊢
  cases permission with
  | granted route allowed =>
    cases route with
    | send | sendBatch => simp [Route.allows, head] at allowed
    | status segment => exact ⟨status_status r segment, rfl⟩
    | stats | health => exact ⟨by simp [carryOut, stats, health, HttpResponse.json], rfl⟩
  | refused other => exact ⟨other, rfl⟩

theorem answered_answer (s : ApiSettings) (uptimeSecs : Nat) (r : Reception)
    (request : HttpRequest) :
    Answered r.spool (answer s stamps uptimeSecs r request).2
      (answer s stamps uptimeSecs r request).1.spool := by
  unfold answer
  dsimp only
  split
  · next head =>
    obtain ⟨other, same⟩ := respond_head stamps s uptimeSecs r (beq_iff_eq.1 head)
    rw [same]
    exact .refused other
  · exact answered_respond stamps s uptimeSecs r request

namespace Answered

variable {s s' : Spool} {a : HttpResponse}

theorem gains (answered : Answered s a s') : s.Gains a.reported s' := by
  cases answered with
  | @accepted id _ gains =>
    have reported : HttpResponse.reported (.json 202 (queued id)) = [id] :=
      congrArg Option.toList (queuedId?_report (.ok id))
    rw [reported]
    exact gains
  | batch gains =>
    rw [reported_batch]
    exact gains
  | refused other =>
    rw [HttpResponse.reported, if_neg other]
    exact .nothing _

theorem told (answered : Answered s a s') (accepted : a.status = 202) :
    (∃ id, a.reported = [id]) ∨ ∃ answers, a.body = .json (.array answers) ∧
      ∀ j ∈ answers, j.queuedId? = none → ∃ e, j = rejected e := by
  cases answered with
  | accepted => exact .inl ⟨_, congrArg Option.toList (queuedId?_report (.ok _))⟩
  | batch =>
    refine .inr ⟨_, rfl, fun j member silent => ?_⟩
    obtain ⟨outcome, -, rfl⟩ := List.mem_map.1 member
    rw [queuedId?_report] at silent
    cases outcome with
    | ok id => cases silent
    | error e => exact ⟨e, rfl⟩
  | refused other => exact absurd accepted other

end Answered

end Api

end MailRelay
