import MailRelay.Proofs.Queue.Calls
import MailRelay.Queue.Reception

set_option autoImplicit false

namespace MailRelay

namespace Spool

variable {s s' : Spool} {limits : Limits} {m : Message} {now : Instant}

theorem submit_ok (accepted : s.submit limits m now = .ok s') :
    s.call now (.enqueue m) = (s.letIn now m, .done) ∧
      s' = { s.letIn now m with stats := s.stats.countSent } := by
  have submitted := s.submitted limits m now
  rw [accepted] at submitted
  cases submitted with
  | accepted valid called => exact ⟨called, rfl⟩

theorem submit_invalid {e : ValidationError}
    (unfit : s.submit limits m now = .error (.invalid e)) : m.validate limits = .error e := by
  have submitted := s.submitted limits m now
  rw [unfit] at submitted
  cases submitted with
  | invalid unfit => exact unfit

inductive Gains : Spool → List String → Spool → Prop where
  | nothing (s : Spool) : Gains s [] s
  | message {s t s' : Spool} {ids : List String} (m : Message) (now : Instant)
      (placed : s.call now (.enqueue m) = (t, .done))
      (rest : Gains { t with stats := s.stats.countSent } ids s') : Gains s (m.id :: ids) s'

namespace Gains

variable {s s' s'' : Spool} {ids : List String}

theorem append (first : s.Gains ids s') {more : List String} (second : s'.Gains more s'') :
    s.Gains (ids ++ more) s'' := by
  induction first with
  | nothing => exact second
  | message m now placed rest ih => exact .message m now placed (ih second)

theorem eq_of_nil (gains : s.Gains [] s') : s' = s := by
  cases gains
  rfl

theorem stats (gains : s.Gains ids s') :
    s'.stats = { s.stats with sent := s.stats.sent + ids.length } := by
  induction gains with
  | nothing => rfl
  | message m now placed rest ih =>
    rw [ih]
    simp only [Stats.countSent, List.length_cons, Stats.mk.injEq, and_true]
    omega

theorem call_enqueue_done {t : Spool} {m : Message} {now : Instant}
    (placed : s.call now (.enqueue m) = (t, .done)) : t = s.letIn now m := by
  rw [call_enqueue] at placed
  split at placed <;> cases placed
  rfl

theorem get? (gains : s.Gains ids s') (id : String) :
    (id ∉ ids → s'.queue.get? id = s.queue.get? id) ∧
      (id ∈ ids → ∃ m, s'.queue.get? id = some m ∧ m.status = .queued) := by
  induction gains with
  | nothing => exact ⟨fun _ => rfl, fun member => absurd member List.not_mem_nil⟩
  | @message s t s' ids m now placed rest ih =>
    obtain ⟨others, gained⟩ := ih
    obtain rfl := call_enqueue_done placed
    simp only [get?_letIn] at others
    refine ⟨fun absent => ?_, fun member => ?_⟩
    · rw [List.mem_cons, not_or] at absent
      rw [others absent.2, if_neg absent.1]
    · by_cases again : id ∈ ids
      · exact gained again
      · have same := (List.mem_cons.1 member).resolve_right again
        rw [others again, if_pos same]
        exact ⟨_, rfl, rfl⟩

theorem size (gains : s.Gains ids s') (once : ids.Nodup)
    (fresh : ∀ id ∈ ids, s.queue.get? id = none) : s'.queue.size = s.queue.size + ids.length := by
  induction gains with
  | nothing => rfl
  | @message s t s' ids m now placed rest ih =>
    obtain ⟨absent, once⟩ := List.nodup_cons.1 once
    obtain ⟨new, fresh⟩ := List.forall_mem_cons.1 fresh
    obtain rfl := call_enqueue_done placed
    rw [ih once fun id member => ?_]
    · have missing : s.queue.entries.get? m.id = none := Option.map_eq_none_iff.1 new
      have more : (s.letIn now m).queue.size = s.queue.size + 1 := SortedMap.size_insert _ missing
      rw [List.length_cons, more]
      omega
    · have other : id ≠ m.id := fun same => absent (same ▸ member)
      simp only [get?_letIn, if_neg other, fresh id member]

end Gains

/-- What becomes of a spool that lets in messages with these identifiers and does nothing else. -/
structure GainsExactly (s : Spool) (ids : List String) (s' : Spool) : Prop where
  gains : s.Gains ids s'
  untouched : ids = [] → s' = s
  counted : s'.stats = { s.stats with sent := s.stats.sent + ids.length }
  waiting : ∀ id ∈ ids, ∃ m, s'.queue.get? id = some m ∧ m.status = .queued
  others : ∀ id, id ∉ ids → s'.queue.get? id = s.queue.get? id
  grown : ids.Nodup → (∀ id ∈ ids, s.queue.get? id = none) →
    s'.queue.size = s.queue.size + ids.length

theorem Gains.exactly {s s' : Spool} {ids : List String} (gains : s.Gains ids s') :
    s.GainsExactly ids s' where
  gains := gains
  untouched nobody := (nobody ▸ gains).eq_of_nil
  counted := gains.stats
  waiting id := (gains.get? id).2
  others id := (gains.get? id).1
  grown := gains.size

end Spool

namespace Reception

theorem submit_cases (r : Reception) (m : Message) (now : Instant) :
    (∃ spool, r.spool.submit r.limits m now = .ok spool ∧
      r.submit m now = ({ r with spool }, .ok m.id)) ∨
      ∃ e, r.submit m now = (r, .error e) := by
  unfold submit
  split
  · split
    · exact .inr ⟨_, rfl⟩
    · exact .inr ⟨_, rfl⟩
  · cases submitted : r.spool.submit r.limits m now with
    | ok spool => exact .inl ⟨spool, rfl, rfl⟩
    | error e => exact .inr ⟨e, rfl⟩

theorem submit_gains (r : Reception) (m : Message) (now : Instant) :
    r.spool.Gains (r.submit m now).2.toOption.toList (r.submit m now).1.spool := by
  rcases r.submit_cases m now with ⟨spool, submitted, answered⟩ | ⟨e, answered⟩
  · obtain ⟨placed, rfl⟩ := Spool.submit_ok submitted
    rw [answered]
    exact .message m now placed (.nothing _)
  · rw [answered]
    exact .nothing _

theorem limits_submit (r : Reception) (m : Message) (now : Instant) :
    (r.submit m now).1.limits = r.limits := by
  rcases r.submit_cases m now with ⟨spool, -, answered⟩ | ⟨e, answered⟩ <;> rw [answered]

theorem submit_error {r : Reception} {m : Message} {now : Instant} {e : ValidationError}
    (refused : (r.submit m now).2 = .error (.invalid e)) : m.validate r.limits = .error e := by
  unfold submit at refused
  split at refused
  · split at refused
    · cases refused
    · next found =>
      cases refused
      exact found
  · split at refused
    · cases refused
    · next found =>
      cases refused
      exact Spool.submit_invalid found

theorem submit_invalid_iff {r : Reception} {m : Message} {now : Instant} {e : ValidationError} :
    (r.submit m now).2 = .error (.invalid e) ↔ m.validate r.limits = .error e := by
  refine ⟨submit_error, fun refused => ?_⟩
  unfold submit
  split
  · rw [refused]
  · have failed : r.spool.submit r.limits m now = .error (.invalid e) := by
      rw [Spool.submit, refused]
      rfl
    rw [failed]

end Reception

end MailRelay
