import MailRelay.Relay

set_option autoImplicit false

namespace MailRelay

namespace Component

theorem endsAt_eq (c : Component) (n : Notice) : c.endsAt n = (c == .api || n.isFinal) := by
  cases c <;> rfl

theorem any_endsAt (c : Component) (ns : List Notice) :
    ns.any c.endsAt = if c = .api then !ns.isEmpty else ns.any (·.isFinal) := by
  have same : c.endsAt = fun n => c == .api || n.isFinal := funext (endsAt_eq c)
  rw [same]
  by_cases api : c = .api
  · cases ns <;> simp [api]
  · simp [beq_false_of_ne api, api]

end Component

namespace Relay

def sendAll (r : Relay) (ns : List Notice) : Relay :=
  ns.foldl send r

theorem condition_sendAll (r : Relay) (ns : List Notice) (c : Component) :
    (r.sendAll ns).condition c =
      if r.condition c = .running ∧ ns.any c.endsAt = true then .ended else r.condition c := by
  induction ns generalizing r with
  | nil => simp [sendAll]
  | cons n rest ih =>
    have next : (r.send n).condition c = (r.condition c).after c n := rfl
    have step : r.sendAll (n :: rest) = (r.send n).sendAll rest := rfl
    rw [step, ih, next, List.any_cons]
    cases condition : r.condition c with
    | ended | failed => simp [Condition.after]
    | running => cases ends : c.endsAt n <;> simp [Condition.after, ends]

theorem condition_start {config : Config} {r : Relay} (enabled : config.api.enabled = true)
    (started : start config (fun _ => none) = .ok r) (c : Component) :
    r.condition c = .running := by
  simp only [start, enabled, if_true, Except.ok.injEq] at started
  subst started
  have whole : ∀ c, firstCondition config none c = .running := by
    intro c
    cases c <;> simp [firstCondition, enabled]
  simp [supervise, failures, Component.all, whole, Condition.failure?]

/-- Every component serves until the first notice that ends the service, and no longer. -/
def EndsAsOne (r : Relay) (ns : List Notice) : Prop :=
  ∀ front, front <+: ns → ∀ c,
    (r.sendAll front).condition c = if front.any (·.isFinal) then .ended else .running

/-- At no time one component has ended while another one goes on. -/
def Agrees (r : Relay) (ns : List Notice) : Prop :=
  ∀ front, front <+: ns → ∀ c d, (r.sendAll front).condition c = (r.sendAll front).condition d

end Relay

namespace Service

variable {s : Service}

theorem notice_final {n : Notice} (running : s.state = .running) (final : n.isFinal = true) :
    s.notice n = { s with state := .draining, hub := { s.hub with cancelled := true } } := by
  simp [notice, running, final]

theorem notice_passing {n : Notice} (passing : n.isFinal = false) : s.notice n = s := by
  unfold notice
  split
  · simp [passing]
  · rfl

theorem notices_draining (draining : s.state = .draining) (ns : List Notice) :
    ns.foldl notice s = s := by
  induction ns with
  | nil => rfl
  | cons n rest ih =>
    have same : s.notice n = s := by simp [notice, draining]
    rw [List.foldl_cons, same, ih]

theorem notices_running (running : s.state = .running) (ns : List Notice) :
    ns.foldl notice s =
      if ns.any (·.isFinal) then
        { s with state := .draining, hub := { s.hub with cancelled := true } }
      else s := by
  induction ns with
  | nil => rfl
  | cons n rest ih =>
    rw [List.foldl_cons, List.any_cons]
    cases final : n.isFinal with
    | true =>
      rw [notice_final running final, notices_draining rfl]
      rfl
    | false => rw [notice_passing final, ih, Bool.false_or]

end Service

namespace Relay

variable {r : Relay}

theorem condition_of_running (running : ∀ c, r.condition c = .running) (ns : List Notice)
    (c : Component) :
    (r.sendAll ns).condition c =
      if c = .api then if ns = [] then .running else .ended
      else if ns.any (·.isFinal) then .ended else .running := by
  rw [condition_sendAll, running, Component.any_endsAt]
  by_cases api : c = .api
  · cases ns <;> simp [api]
  · simp [api]

theorem agrees_of_endsAsOne {ns : List Notice} (one : r.EndsAsOne ns) : r.Agrees ns := by
  intro front shown c d
  rw [one front shown c, one front shown d]

theorem head_final_of_agrees (running : ∀ c, r.condition c = .running) {ns : List Notice}
    (agrees : r.Agrees ns) : ∀ n ∈ ns.head?, n.isFinal = true := by
  intro n first
  have shown : [n] <+: ns := by
    cases ns with
    | nil => cases first
    | cons head rest =>
      obtain rfl : head = n := Option.some.inj first
      exact List.prefix_append [head] rest
  have same := agrees [n] shown .api .delivery
  rw [condition_of_running running, condition_of_running running] at same
  cases final : n.isFinal with
  | true => rfl
  | false => simp [final] at same

theorem endsAsOne_of_head_final (running : ∀ c, r.condition c = .running) {ns : List Notice}
    (final : ∀ n ∈ ns.head?, n.isFinal = true) : r.EndsAsOne ns := by
  intro front shown c
  rw [condition_of_running running]
  cases front with
  | nil => simp
  | cons n rest =>
    have first : ns.head? = some n := by
      obtain ⟨back, rfl⟩ := shown
      rfl
    have ends := final n first
    simp [ends]

/-- Delivery, the submission port and the upkeep run until the first final notice and end with it;
the API ends with the first notice of any kind. So the four components end as one, and agree at all
times, exactly if nothing comes before the first final notice. -/
theorem components_end_as_one_iff {config : Config} (enabled : config.api.enabled = true)
    (started : start config (fun _ => none) = .ok r) (ns : List Notice) :
    (∀ c, c ≠ .api →
        (r.sendAll ns).condition c = if ns.any (·.isFinal) then .ended else .running) ∧
      ((r.sendAll ns).condition .api = if ns = [] then .running else .ended) ∧
      (r.EndsAsOne ns ↔ ∀ n ∈ ns.head?, n.isFinal = true) ∧
      (r.Agrees ns ↔ ∀ n ∈ ns.head?, n.isFinal = true) ∧
      ∀ s : Service, s.state = .running →
        (((ns.foldl Service.notice s).state = .running ↔
            (r.sendAll ns).condition .delivery = .running) ∧
          (ns.foldl Service.notice s).hub.cancelled =
            (s.hub.cancelled || ns.any (·.isFinal))) := by
  have running := condition_start enabled started
  have course := condition_of_running running ns
  refine ⟨fun c other => by simp [course, other], by simp [course], ⟨fun one => ?_, ?_⟩,
    ⟨?_, fun final => ?_⟩, fun s serving => ?_⟩
  · exact head_final_of_agrees running (agrees_of_endsAsOne one)
  · exact endsAsOne_of_head_final running
  · exact head_final_of_agrees running
  · exact agrees_of_endsAsOne (endsAsOne_of_head_final running final)
  · rw [Service.notices_running serving, course]
    cases ns.any (·.isFinal) <;> simp [serving]

def smallConfig : Config :=
  { Config.default with hostname := "relay.test", api := { ApiSettings.default with token := "t" } }

theorem shutdown_ends_all_components :
    ∃ r, start smallConfig (fun _ => none) = .ok r ∧ r.EndsAsOne [.shutdown, .finalised] := by
  have started : ∃ r, start smallConfig (fun _ => none) = .ok r := ⟨_, rfl⟩
  obtain ⟨r, started⟩ := started
  obtain ⟨-, -, one, -⟩ := components_end_as_one_iff rfl started [.shutdown, .finalised]
  exact ⟨r, started, one.2 (by simp [Notice.isFinal])⟩

-- Nothing tells the others that the API is gone: it has ended, and has not failed.
theorem finalised_ends_the_api_alone :
    smallConfig.validate = .ok () ∧
      ∃ r, start smallConfig (fun _ => none) = .ok r ∧
        (r.sendAll [.finalised]).condition .api = .ended ∧
        (∀ c, c ≠ .api → (r.sendAll [.finalised]).condition c = .running) ∧
        (r.sendAll [.finalised]).failures = [] ∧ ¬ r.Agrees [.finalised] := by
  have started : ∃ r, start smallConfig (fun _ => none) = .ok r := ⟨_, rfl⟩
  obtain ⟨r, started⟩ := started
  have running := condition_start rfl started
  have course := condition_of_running running [.finalised]
  refine ⟨rfl, r, started, by simp [course], fun c other => by simp [course, other, Notice.isFinal],
    ?_, fun agrees => ?_⟩
  · simp [failures, Component.all, course, Condition.failure?, Notice.isFinal]
  · exact absurd (head_final_of_agrees running agrees .finalised rfl) (by decide)

end Relay

end MailRelay
