import MailRelay.Proofs.Traffic.Books
import MailRelay.Proofs.Traffic.Handover

set_option autoImplicit false

namespace MailRelay

def Message.submission (m : Message) : Message :=
  { m with
    status := .pending
    retryCount := 0
    lastError := none
    updatedAt := m.createdAt
    scheduledAt := none
    deliveredAt := none }

theorem submission_settle (now : Instant) (base : Duration) (c : QueueCall) (r : Message) :
    (c.settle now base r).submission = r.submission := by
  cases c with
  | markFailed id reason retry => cases retry <;> rfl
  | _ => rfl

theorem retryCount_settle (now : Instant) (base : Duration) (c : QueueCall) (r : Message)
    (room : c.tally = .retried → (r.retryCount + 1).toNat = r.retryCount.toNat + 1) :
    r.retryCount ≤ (c.settle now base r).retryCount ∧
      ((c.settle now base r).retryCount ≠ r.retryCount →
        (c.settle now base r).status = .queued) := by
  have same : r.retryCount ≤ r.retryCount := UInt32.le_refl _
  cases c with
  | markFailed id reason retry =>
    cases retry with
    | true =>
      have raised := room rfl
      have higher : r.retryCount.toNat ≤ (r.retryCount + 1).toNat := by omega
      exact ⟨UInt32.le_iff_toNat_le.2 higher, fun _ => rfl⟩
    | false => exact ⟨same, fun differs => absurd rfl differs⟩
  | enqueue | dequeue | markDelivered | release =>
    exact ⟨same, fun differs => absurd rfl differs⟩

/-- What can be shown of a message, the latest first. Each record comes from the one before it. -/
inductive Course (m : Message) : List Message → Prop where
  | entered (now : Instant) : Course m [{ m with status := .queued, updatedAt := now }]
  | sent {r : Message} {earlier : List Message} (now : Instant) (course : Course m (r :: earlier))
    (queued : r.status = .queued) : Course m (Queue.startSending now r :: r :: earlier)
  | settled {r : Message} {earlier : List Message} {c : QueueCall} {id : String} (now : Instant)
    (base : Duration) (course : Course m (r :: earlier)) (sending : r.status = .sending)
    (settles : c.settled? = some id)
    (room : c.tally = .retried → (r.retryCount + 1).toNat = r.retryCount.toNat + 1) :
    Course m (c.settle now base r :: r :: earlier)

namespace Course

variable {m : Message} {history : List Message}

theorem submission_eq (course : Course m history) :
    ∀ r ∈ history, r.submission = m.submission := by
  induction course with
  | entered now => exact List.forall_mem_singleton.2 rfl
  | @sent r earlier now course queued ih =>
    exact List.forall_mem_cons.2 ⟨ih r List.mem_cons_self, ih⟩
  | settled now base course sending settles room ih =>
    refine List.forall_mem_cons.2 ⟨?_, ih⟩
    rw [submission_settle]
    exact ih _ List.mem_cons_self

theorem deliveredAt_iff (course : Course m history) (unsent : m.deliveredAt = none) :
    ∀ r ∈ history, r.deliveredAt.isSome ↔ r.status = .delivered := by
  induction course with
  | entered now => simp [unsent]
  | @sent r earlier now course queued ih =>
    refine List.forall_mem_cons.2 ⟨?_, ih⟩
    have before := ih r List.mem_cons_self
    simpa [Queue.startSending, queued] using before
  | @settled r earlier c id now base course sending settles room ih =>
    refine List.forall_mem_cons.2 ⟨?_, ih⟩
    have before := ih r List.mem_cons_self
    rw [sending] at before
    cases c with
    | enqueue | dequeue => cases settles
    | markDelivered => simp [QueueCall.settle, Backlog.delivered]
    | markFailed _ reason retry =>
      cases retry <;> simpa [QueueCall.settle, Backlog.failed, Backlog.putOff] using before
    | release => simpa [QueueCall.settle, Backlog.released] using before

theorem retryCount_isChain (course : Course m history) :
    history.IsChain fun newer older => older.retryCount ≤ newer.retryCount ∧
      (newer.retryCount ≠ older.retryCount → newer.status = .queued) := by
  induction course with
  | entered now => exact .singleton _
  | sent now course queued ih =>
    exact ih.cons_cons ⟨UInt32.le_refl _, fun differs => absurd rfl differs⟩
  | settled now base course sending settles room ih =>
    exact ih.cons_cons (retryCount_settle now base _ _ room)

def ending : Status → List Status
  | .sending => [.sending]
  | .delivered => [.sending, .delivered]
  | .failed => [.sending, .failed]
  | _ => []

theorem ending_mem (status : Status) :
    ending status ∈ [[], [.sending], [.sending, .delivered], [.sending, .failed]] := by
  cases status <;> decide

theorem word_snoc {r r' : Message} {earlier : List Message} {front tail : List Status}
    (word : ((r :: earlier).map (·.status)).reverse = front ++ tail) :
    ((r' :: r :: earlier).map (·.status)).reverse = front ++ (tail ++ [r'.status]) := by
  rw [List.map_cons, List.reverse_cons, word, List.append_assoc]

theorem statuses_eq {r : Message} {earlier : List Message} (course : Course m (r :: earlier)) :
    ∃ k, ((r :: earlier).map (·.status)).reverse =
      .queued :: (List.replicate k [.sending, .queued]).flatten ++ ending r.status := by
  generalize shown : r :: earlier = history at course
  induction course generalizing r earlier with
  | entered now =>
    cases shown
    exact ⟨0, rfl⟩
  | sent now course queued ih =>
    cases shown
    obtain ⟨k, word⟩ := ih rfl
    rw [queued] at word
    exact ⟨k, word_snoc word⟩
  | @settled r' earlier' c id now base course sending settles room ih =>
    cases shown
    obtain ⟨k, word⟩ := ih rfl
    rw [sending] at word
    have again : (List.replicate (k + 1) [Status.sending, .queued]).flatten =
        (List.replicate k [.sending, .queued]).flatten ++ [.sending, .queued] := by
      rw [List.replicate_succ', List.flatten_append, List.flatten_singleton]
    -- Either the message leaves the queue, or one more round is over.
    cases final : c.isFinal with
    | true =>
      refine ⟨k, (word_snoc word).trans ?_⟩
      rcases c.ended_of_settle now base r' final with delivered | failed
      · rw [delivered]
        rfl
      · rw [failed]
        rfl
    | false =>
      refine ⟨k + 1, (word_snoc word).trans ?_⟩
      rw [c.queued_of_settle now base r' settles final, again]
      simp [ending]

end Course

namespace Standing

variable {w : WorkerSettings} {now : Instant} {s s' : Standing}
  {booked : Option (Message × Except AttemptError Unit)} {id : String}

structure Lived (id : String) (s : Standing) : Prop where
  silent : id ∉ s.ids → s.spool.history id = []
  course : ∀ m ∈ s.accepted, m.id = id → Course m (s.spool.history id)

theorem history_of_stored (sound : s.Sound) {r : Message}
    (stored : s.spool.queue.get? id = some r) : ∃ earlier, s.spool.history id = r :: earlier := by
  have shown := (sound.stored stored).shown
  rw [Spool.record?_eq_head?] at shown
  exact ⟨_, List.eq_cons_of_mem_head? shown⟩

namespace Lived

variable (lived : s.Lived id) (sound : s.Sound)

include lived sound

omit sound in
theorem untouched (accepted : s'.accepted = s.accepted)
    (same : s'.spool.history id = s.spool.history id) : s'.Lived id where
  silent absent := by
    rw [ids, accepted] at absent
    rw [same, lived.silent absent]
  course m member named := by
    rw [accepted] at member
    rw [same]
    exact lived.course m member named

-- What is stored was shown last, so that the new record comes right after it.
theorem shown {r r' : Message} (accepted : s'.accepted = s.accepted)
    (stored : s.spool.queue.get? id = some r)
    (next : s'.spool.history id = r' :: s.spool.history id)
    (grows : ∀ {m earlier}, Course m (r :: earlier) → Course m (r' :: r :: earlier)) :
    s'.Lived id := by
  obtain ⟨earlier, before⟩ := history_of_stored sound stored
  have entered : id ∈ s'.ids := by
    rw [ids, accepted]
    exact (sound.stored stored).entered
  refine ⟨fun absent => absurd entered absent, fun m member named => ?_⟩
  rw [accepted] at member
  have course := lived.course m member named
  rw [before] at course
  rw [next, before]
  exact grows course

theorem settle (now : Instant) (custody : s.Custody id) {r : Message} {c : QueueCall}
    (holds : r ∈ s.held) (settled : c.settled? = some r.id)
    (room : c.tally = .retried → (r.retryCount + 1).toNat = r.retryCount.toNat + 1) :
    (s.call now c).Lived id := by
  by_cases same : id = r.id
  · subst same
    obtain ⟨stored, sending⟩ := custody.of_mem holds
    obtain ⟨entry, after, rfl, called, settles⟩ :=
      MailRelay.Custody.call_settles settled now custody holds
    have next : (s.call now c).spool.history entry.message.id =
        c.settle now s.spool.queue.retryDelay entry.message ::
          s.spool.history entry.message.id := by
      simp only [call, called]
      rw [settles.history, if_pos rfl]
    exact lived.shown sound rfl stored next fun course => .settled now _ course sending settled room
  · exact lived.untouched rfl (untouched_of_call sound settled same).1

omit sound in
theorem accept (now : Instant) (m : Message) (once : (s.ids ++ [m.id]).count id ≤ 1) :
    Lived id { s with
      spool := s.spool.letIn now m
      uncounted := s.uncounted + 1
      accepted := s.accepted ++ [m] } := by
  by_cases same : m.id = id
  · -- No message has come with this identifier before, so that nothing was shown.
    have absent : id ∉ s.ids := by
      intro member
      have before := List.count_pos_iff.2 member
      simp only [List.count_append, same, List.count_singleton_self] at once
      omega
    have first : (s.spool.letIn now m).history id =
        [{ m with status := .queued, updatedAt := now }] := by
      rw [Spool.history_letIn, if_pos same, lived.silent absent]
    refine ⟨fun missing => absurd ?_ missing, fun other accepted named => ?_⟩
    · simp [ids, same]
    · rcases List.mem_append.1 accepted with old | new
      · exact absurd (List.mem_map.2 ⟨other, old, named⟩) absent
      · obtain rfl := List.mem_singleton.1 new
        rw [first]
        exact .entered now
  · have untouched : (s.spool.letIn now m).history id = s.spool.history id := by
      rw [Spool.history_letIn, if_neg same]
    refine ⟨fun absent => untouched.trans (lived.silent ?_), fun other accepted named => ?_⟩
    · intro member
      rw [ids, List.map_append] at absent
      exact absent (List.mem_append_left _ member)
    · rcases List.mem_append.1 accepted with old | new
      · exact untouched ▸ lived.course other old named
      · obtain rfl := List.mem_singleton.1 new
        exact absurd named same

theorem poll (now : Instant) (max : Nat) : (s.call now (.dequeue max)).Lived id := by
  by_cases due : id ∈ s.spool.queue.due now max
  · obtain ⟨-, r, found, queued, -⟩ := Queue.of_mem_due due
    have next := Spool.history_call_dequeue_of_due s.spool now sound.filed due found
    exact lived.shown sound rfl found next fun course => .sent now course queued
  · exact lived.untouched rfl (Spool.history_call_dequeue s.spool now sound.filed due)

theorem turn (custody : s.Custody id) (turn : s.Turn w now booked s') (once : s'.ids.count id ≤ 1) :
    s'.Lived id := by
  cases turn with
  | rest | begin | count | tally => exact ⟨lived.silent, lived.course⟩
  | accept m called =>
    rw [ids, List.map_append] at once
    exact lived.accept now m once
  | poll =>
    have polled := lived.poll sound now w.batchSize
    exact ⟨polled.silent, polled.course⟩
  | release m held holds =>
    have settled := lived.settle (c := .release m.id) sound now custody
      (holds ▸ Multiset.mem_cons_self m held) rfl fun retries => by cases retries
    exact ⟨settled.silent, settled.course⟩
  | book m outcome held current holds busy =>
    have settled := lived.settle sound now custody
      (holds ▸ Multiset.mem_cons_self m held) (settled?_booking w m outcome)
      fun retries => toNat_retryCount_succ (QueueCall.room_of_booking w m outcome retries)
    exact ⟨settled.silent, settled.course⟩

end Lived

end Standing

namespace Traffic

variable {rules : TrafficRules} {capacity : Nat} {retryDelay cacheTtl : Duration}
  {moves : List (Clock × Move)} {t : Traffic}

theorem lived_of_run (ran : (opening capacity retryDelay cacheTtl).run rules moves = some t)
    {id : String} (once : t.ids.count id ≤ 1) : t.standing.Lived id :=
  standing_of_run_once ran once ⟨fun _ => rfl, List.forall_mem_nil _⟩
    fun sound custody lived turn once => lived.turn sound custody turn once

/-- What is shown of a message while only submitters and workers use the queue. -/
theorem messages_live_once (ran : (opening capacity retryDelay cacheTtl).run rules moves = some t)
    (fresh : t.ids.Nodup) (unsent : ∀ m ∈ t.accepted, m.deliveredAt = none) :
    (∀ id ∉ t.ids, t.history id = []) ∧
    ∀ m ∈ t.accepted,
      (∃ k, ∃ tail ∈ [[], [.sending], [.sending, .delivered], [.sending, .failed]],
        ((t.history m.id).map (·.status)).reverse =
          .queued :: (List.replicate k [.sending, .queued]).flatten ++ tail) ∧
      ((t.history m.id).IsChain fun newer older => older.retryCount ≤ newer.retryCount ∧
        (newer.retryCount ≠ older.retryCount → newer.status = .queued)) ∧
      ∀ r ∈ t.history m.id, r.submission = m.submission ∧
        (r.deliveredAt.isSome ↔ r.status = .delivered) := by
  have lived (id : String) := lived_of_run ran (List.nodup_iff_count_le_one.1 fresh id)
  refine ⟨fun id absent => (lived id).silent absent, fun m accepted => ?_⟩
  have course := (lived m.id).course m accepted rfl
  change Course m (t.history m.id) at course
  refine ⟨?_, course.retryCount_isChain, fun r shown =>
    ⟨course.submission_eq r shown, course.deliveredAt_iff (unsent m accepted) r shown⟩⟩
  generalize t.history m.id = history at course ⊢
  cases history with
  | nil => cases course
  | cons r earlier =>
    obtain ⟨k, word⟩ := course.statuses_eq
    exact ⟨k, _, Course.ending_mem r.status, word⟩

-- The first attempt fails, the second one does not.
theorem retried_message_is_shown_until_it_is_delivered :
    let now : Clock := ⟨.min, 0⟩
    let begins := [(now, .work 0 .poll), (now, .work 0 .proceed), (now, .work 0 .proceed)]
    let books := [(now, .work 0 .proceed), (now, .work 0 .proceed), (now, .work 0 .proceed)]
    let moves := [(now, .join), (now, .submit (note "m"))] ++
      begins ++ (now, .work 0 (.resolved (.error (.timeout "example.org")))) :: books ++
      begins ++ (now, .work 0 (.resolved (.ok [⟨"mx", 0⟩]))) ::
        (now, .work 0 (.handed (.ok ()))) :: books
    ∃ t, (opening 1 .zero .zero).run ⟨.default, ⟨1, 1⟩⟩ moves = some t ∧ t.ids.Nodup ∧
      t.accepted = [note "m"] ∧
      (t.history "m").map (·.status) = [.delivered, .sending, .queued, .sending, .queued] ∧
      ∀ r ∈ t.history "m", r.submission = (note "m").submission ∧
        (r.deliveredAt.isSome ↔ r.status = .delivered) := by
  intro now begins books moves
  have facts : ((opening 1 .zero .zero).run ⟨.default, ⟨1, 1⟩⟩ moves).map (fun t =>
      (t.accepted, (t.history "m").map (·.status))) =
        some ([note "m"], [.delivered, .sending, .queued, .sending, .queued]) := by decide
  obtain ⟨t, ran, facts⟩ := Option.map_eq_some_iff.1 facts
  obtain ⟨accepted, shown⟩ := Prod.mk.inj facts
  have fresh : t.ids.Nodup := by
    rw [ids, accepted]
    exact List.nodup_singleton "m"
  have unsent : ∀ m ∈ t.accepted, m.deliveredAt = none := by
    rw [accepted]
    exact List.forall_mem_singleton.2 rfl
  have entered : note "m" ∈ t.accepted := accepted ▸ List.mem_singleton_self _
  obtain ⟨-, -, records⟩ := (messages_live_once ran fresh unsent).2 _ entered
  exact ⟨t, ran, fresh, accepted, shown, records⟩

end Traffic

end MailRelay
