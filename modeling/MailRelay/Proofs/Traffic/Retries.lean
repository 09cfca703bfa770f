import MailRelay.Proofs.Traffic.Books

set_option autoImplicit false

namespace MailRelay

structure WorkerSettings.Allows (w : WorkerSettings) (r : Message) : Prop where
  bounded : r.retryCount ≤ w.maxRetries
  spent : r.status = .failed → r.retryCount = w.maxRetries

theorem Worker.held_of_retry {s : WorkerSettings} {h : Hub} {w : Worker} {e : WorkerEvent}
    {id reason : String} (request : w.request? s h e = some (.markFailed id reason true)) :
    ∃ m ∈ w.held, m.id = id ∧ m.retryCount < s.maxRetries := by
  unfold request? at request
  split at request
  · cases request
  · split at request <;> cases request
  · next m outcome rest =>
    have settled := settled?_booking s m outcome
    have retries := QueueCall.room_of_booking s m outcome
    rw [Option.some.inj request] at settled retries
    exact ⟨m, List.mem_cons_self, (Option.some.inj settled).symm, retries rfl⟩
  · cases request

section Booking

variable {w : WorkerSettings} {m : Message} (allows : w.Allows m) (now : Instant) (base : Duration)

include allows

theorem WorkerSettings.Allows.booking (outcome : Except AttemptError Unit) :
    w.Allows ((Hub.booking w m outcome).1.settle now base m) := by
  cases outcome with
  | ok => exact ⟨allows.bounded, by simp [Hub.booking, QueueCall.settle, Backlog.delivered]⟩
  | error e =>
    by_cases left : m.retryCount < w.maxRetries
    · have within : (m.retryCount + 1).toNat ≤ w.maxRetries.toNat := by
        rw [toNat_retryCount_succ left]
        exact left
      simp only [Hub.booking, left, decide_true, QueueCall.settle, Backlog.putOff]
      exact ⟨UInt32.le_iff_toNat_le.2 within, by simp⟩
    · simp only [Hub.booking, left, decide_false, QueueCall.settle, Backlog.failed]
      exact ⟨allows.bounded, fun _ => UInt32.le_antisymm allows.bounded (UInt32.not_lt.1 left)⟩

theorem failed_of_booking_iff (outcome : Except AttemptError Unit) :
    ((Hub.booking w m outcome).1.settle now base m).status = .failed ↔
      ∃ e, outcome = .error e ∧ m.retryCount = w.maxRetries := by
  cases outcome with
  | ok => simp [Hub.booking, QueueCall.settle, Backlog.delivered]
  | error e =>
    by_cases left : m.retryCount < w.maxRetries
    · have unspent : m.retryCount ≠ w.maxRetries := UInt32.ne_of_lt left
      simp [Hub.booking, left, QueueCall.settle, Backlog.putOff, unspent]
    · have spent := UInt32.le_antisymm allows.bounded (UInt32.not_lt.1 left)
      simp [Hub.booking, QueueCall.settle, Backlog.failed, spent]

end Booking

namespace Standing

variable {w : WorkerSettings} {now : Instant} {s s' : Standing}
  {booked : Option (Message × Except AttemptError Unit)}

/-- The limit allows the record of a message, provided that no message comes with retries behind
it. -/
def Bounded (w : WorkerSettings) (id : String) (s : Standing) : Prop :=
  (∀ m ∈ s.accepted, m.retryCount = 0) → ∀ r, s.spool.record? id = some r → w.Allows r

section

variable {id : String} (sound : s.Sound) (custody : s.Custody id) (bounded : s.Bounded w id)

include sound custody bounded

theorem Bounded.settle {m : Message} {c : QueueCall} (holds : m ∈ s.held)
    (settled : c.settled? = some m.id)
    (allows : w.Allows m → w.Allows (c.settle now s.spool.queue.retryDelay m)) :
    (s.call now c).Bounded w id := by
  intro unspent r shown
  by_cases same : m.id = id
  · subst same
    have record := (sound.stored (custody.of_mem holds).1).shown
    obtain ⟨-, settles⟩ := MailRelay.Custody.call_answered settled now custody holds
    obtain rfl := Option.some.inj (settles.symm.trans shown)
    exact allows (bounded unspent _ record)
  · simp only [call] at shown
    rw [(Spool.call_elsewhere now sound.filed settled (Ne.symm same)).2] at shown
    exact bounded unspent r shown

theorem Bounded.turn (turn : s.Turn w now booked s') : s'.Bounded w id := by
  cases turn with
  | rest | begin | count | tally => exact bounded
  | accept m called =>
    intro unspent r shown
    obtain ⟨old, new⟩ := List.forall_mem_append.1 unspent
    rw [Spool.record?_letIn] at shown
    split at shown
    · obtain rfl := Option.some.inj shown
      constructor <;> simp [new m]
    · exact bounded old r shown
  | poll =>
    intro unspent r shown
    simp only [call] at shown
    rw [Spool.record?_call_dequeue now w.batchSize sound.filed, Queue.get?_dequeue] at shown
    split at shown
    · obtain ⟨old, found, rfl⟩ := Option.map_eq_some_iff.1 shown
      exact ⟨(bounded unspent old (sound.stored found).shown).bounded, by simp [Queue.startSending]⟩
    · exact bounded unspent r shown
  | release m held holds =>
    exact Bounded.settle sound custody bounded (holds ▸ Multiset.mem_cons_self m held) rfl
      fun allows => ⟨allows.bounded, by simp [QueueCall.settle, Backlog.released]⟩
  | book m outcome held current holds busy =>
    exact Bounded.settle sound custody bounded (holds ▸ Multiset.mem_cons_self m held)
      (settled?_booking ..) fun allows => allows.booking ..

def Failed (s : Standing) (id : String) : Prop :=
  ∃ r, s.spool.record? id = some r ∧ r.status = .failed

theorem failed_by_turn_iff (unspent : ∀ m ∈ s.accepted, m.retryCount = 0)
    (turn : s.Turn w now booked s') (once : s'.ids.count id ≤ 1) (entered : id ∈ s.ids) :
    (s'.Failed id ∧ ¬ s.Failed id) ↔
      ∃ m e, booked = some (m, .error e) ∧ m.id = id ∧ m.retryCount = w.maxRetries := by
  cases turn with
  | rest | begin | count | tally => exact iff_of_false (fun both => both.2 both.1) (by simp)
  | accept m called =>
    have other : m.id ≠ id := by
      rintro rfl
      have before := List.count_pos_iff.2 entered
      simp only [ids, List.map_append, List.map_cons, List.map_nil, List.count_append,
        List.count_singleton_self] at before once
      omega
    simp [Failed, Spool.record?_letIn, other]
  | poll =>
    have record := Spool.record?_call_dequeue now w.batchSize sound.filed id
    simp only [Failed, call, record, reduceCtorEq, false_and, exists_false, iff_false, not_and,
      not_not]
    rintro ⟨r, shown, failed⟩
    rw [Queue.get?_dequeue] at shown
    split at shown
    · -- What is handed out shows as being sent.
      obtain ⟨old, -, rfl⟩ := Option.map_eq_some_iff.1 shown
      cases failed
    · exact ⟨r, shown, failed⟩
  | release m held holds =>
    simp only [Failed, call, reduceCtorEq, false_and, exists_false, iff_false, not_and, not_not]
    rintro ⟨r, shown, failed⟩
    rcases Spool.settles_or_misses now sound.filed (c := .release m.id) rfl with
      ⟨-, missed⟩ | ⟨entry, after, named, -, called, settles⟩
    · rw [missed] at shown
      exact ⟨r, shown, failed⟩
    · rw [called, settles.record?] at shown
      split at shown
      · obtain rfl := Option.some.inj shown
        cases failed
      · exact ⟨r, shown, failed⟩
  | book m outcome held current holds busy =>
    have settled := settled?_booking w m outcome
    by_cases same : m.id = id
    · subst same
      have taken : m ∈ s.held := holds ▸ Multiset.mem_cons_self m held
      obtain ⟨stored, sending⟩ := custody.of_mem taken
      have shown := (sound.stored stored).shown
      obtain ⟨-, settles⟩ := MailRelay.Custody.call_answered settled now custody taken
      have fails :=
        failed_of_booking_iff (bounded unspent _ shown) now s.spool.queue.retryDelay outcome
      simp [Failed, call, settles, shown, sending, fails]
    · have elsewhere := (Spool.call_elsewhere now sound.filed settled (Ne.symm same)).2
      simp [Failed, call, elsewhere, same]

end

end Standing

namespace Traffic

def retries (t : Traffic) (id : String) : Nat := Ledger.bookedFor t.calls .retried id

def failures (t : Traffic) (id : String) : Nat := t.retries id + Ledger.bookedFor t.calls .failed id

variable {rules : TrafficRules} {capacity : Nat} {retryDelay cacheTtl : Duration}
  {moves : List (Clock × Move)} {t : Traffic}

theorem bounded_of_run (ran : (opening capacity retryDelay cacheTtl).run rules moves = some t)
    {id : String} (once : t.ids.count id ≤ 1) : t.standing.Bounded rules.worker id := by
  refine standing_of_run_once ran once (fun _ r shown => ?_)
    fun sound custody bounded turn _ => Standing.Bounded.turn sound custody bounded turn
  cases shown

theorem messages_fail_when_retries_are_spent
    (ran : (opening capacity retryDelay cacheTtl).run rules moves = some t) (fresh : t.ids.Nodup)
    (unspent : ∀ m ∈ t.accepted, m.retryCount = 0) :
    (∀ id ∈ t.ids, ∃ r, t.record? id = some r ∧
      (∀ stored, t.queue.get? id = some stored → stored = r) ∧
      r.retryCount.toNat = t.retries id ∧ r.retryCount ≤ rules.worker.maxRetries ∧
      (r.status = .failed ↔ t.failures id = rules.worker.maxRetries.toNat + 1)) ∧
    -- A message fails by the booking of an attempt for which it has no retry left, and only so.
    (∀ clock move t', t.step rules clock move = some t' → t'.ids.Nodup → ∀ id ∈ t.ids,
      ((∃ r, t'.record? id = some r ∧ r.status = .failed) ∧
          ¬ ∃ r, t.record? id = some r ∧ r.status = .failed) ↔
        ∃ m e, t.books? move = some (m, .error e) ∧ m.id = id ∧
          m.retryCount = rules.worker.maxRetries) ∧
    -- The count that a worker has the queue raise can be raised.
    (∀ w ∈ t.workers, ∀ e id reason,
      w.request? rules.worker t.hub e = some (.markFailed id reason true) →
        ∃ stored, t.queue.get? id = some stored ∧ stored.retryCount.toNat + 1 < UInt32.size) := by
  have once := List.nodup_iff_count_le_one.1 fresh
  have sound := sound_of_run ran
  have custody (id : String) := custody_of_run ran (once id)
  have bounded (id : String) := bounded_of_run ran (once id)
  refine ⟨fun id entered => ?_, fun clock move t' stepped fresh id entered => ?_, ?_⟩
  · obtain ⟨r, shown⟩ := sound.shown entered
    obtain ⟨m, accepted, named⟩ := List.mem_map.1 entered
    have allows := bounded id unspent r shown
    have weight (kind : Tally) (counts : kind ≠ .nothing) :
        kind.weight r =
          kind.weight { m with status := .queued } + Ledger.bookedFor t.calls kind id :=
      (recorded_of_run ran (once id)).recorded m accepted named r shown kind counts
    have retried : r.retryCount.toNat = t.retries id := by
      simpa [retries, Tally.weight, unspent m accepted] using weight .retried (by decide)
    have failed : (if r.status = .failed then 1 else 0) = Ledger.bookedFor t.calls .failed id := by
      simpa [Tally.weight] using weight .failed (by decide)
    refine ⟨r, shown, fun stored found => ?_, retried, allows.bounded, ?_⟩
    · exact Option.some.inj ((sound.stored found).shown.symm.trans shown)
    · have bound : r.retryCount.toNat ≤ rules.worker.maxRetries.toNat := allows.bounded
      rw [failures, ← retried, ← failed]
      -- Only the last failure is booked without a retry, and then the retries are spent.
      by_cases ended : r.status = .failed
      · simp [ended, allows.spent ended]
      · simp only [ended, if_false, false_iff]
        omega
  · have custody : t.standing.Custody id := by
      rw [Standing.Custody, standing_held]
      exact custody id
    have within : t'.ids.count id ≤ 1 := List.nodup_iff_count_le_one.1 fresh id
    exact Standing.failed_by_turn_iff (s := t.standing) sound custody (bounded id) unspent
      (turn_of_step stepped) within entered
  · intro w working e id reason request
    obtain ⟨m, held, rfl, left⟩ := Worker.held_of_retry request
    have stored := ((custody m.id).of_mem (List.mem_flatMap.2 ⟨w, working, held⟩)).1
    have less : m.retryCount.toNat < rules.worker.maxRetries.toNat := left
    have limit := rules.worker.maxRetries.toNat_lt
    exact ⟨m, stored, by rw [UInt32.size]; omega⟩

-- Without retries the only attempt is the last one, even if the flag goes up before it gets anywhere.
theorem interrupted_message_fails_without_retries :
    let now : Clock := ⟨.min, 0⟩
    let moves := [(now, .join), (now, .submit (note "m")), (now, .work 0 .poll),
      (now, .work 0 .proceed), (now, .raise), (now, .work 0 .proceed), (now, .work 0 .proceed)]
    ∃ t, (opening 1 .zero .zero).run ⟨.default, ⟨1, 0⟩⟩ moves = some t ∧ t.ids.Nodup ∧
      (∀ m ∈ t.accepted, m.retryCount = 0) ∧ t.failures "m" = 1 ∧
      ∃ r, t.record? "m" = some r ∧ r.status = .failed ∧ r.retryCount = 0 := by
  intro now moves
  have facts : ((opening 1 .zero .zero).run ⟨.default, ⟨1, 0⟩⟩ moves).map (fun t =>
      (t.ids, t.accepted.map (·.retryCount), (t.record? "m").map (·.status))) =
        some (["m"], [0], some .failed) := by decide
  obtain ⟨t, ran, facts⟩ := Option.map_eq_some_iff.1 facts
  simp only [Prod.mk.injEq] at facts
  obtain ⟨ids, unspent, status⟩ := facts
  have fresh : t.ids.Nodup := ids ▸ List.nodup_singleton "m"
  have unspent : ∀ m ∈ t.accepted, m.retryCount = 0 :=
    fun m accepted => by simpa [unspent] using List.mem_map_of_mem (f := (·.retryCount)) accepted
  obtain ⟨r, shown, -, -, bounded, failed⟩ :=
    (messages_fail_when_retries_are_spent ran fresh unspent).1 "m" (ids ▸ List.mem_singleton_self _)
  have ended : r.status = .failed := by simpa [shown] using status
  exact ⟨t, ran, fresh, unspent, failed.1 ended, r, shown, ended,
    UInt32.le_antisymm bounded UInt32.zero_le⟩

end Traffic

end MailRelay
