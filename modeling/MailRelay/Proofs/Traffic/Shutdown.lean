import MailRelay.Proofs.Traffic.Books
import MailRelay.Proofs.Traffic.Breakdown
import MailRelay.Proofs.Traffic.Holding

set_option autoImplicit false

namespace MailRelay

namespace Standing

variable {w : WorkerSettings} {now : Instant} {s s' : Standing}
  {booked : Option (Message × Except AttemptError Unit)} {readings : List Instant}

def Attended (s : Standing) : Prop :=
  ∀ id m, s.spool.queue.get? id = some m → m.status = .sending → ∃ n ∈ s.held, n.id = id

-- If two messages came with one identifier, whoever settles the first one settles the second one too.
theorem Attended.settle (attended : s.Attended) (sound : s.Sound) {m : Message}
    {held : Multiset Message} (holds : s.held = m ::ₘ held) {c : QueueCall}
    (settled : c.settled? = some m.id) (current : Multiset Message) (owed : Multiset Tally) :
    { s.call now c with held, current, owed : Standing }.Attended := by
  intro id stored found sending
  obtain ⟨last, placed, rfl⟩ := Queue.get?_eq_some_iff.1 found
  obtain ⟨entry, before, -, ⟨rfl, other⟩ | ⟨queued, -⟩⟩ :=
    Spool.entry_of_call now sound.filed settled placed
  · obtain ⟨n, member, rfl⟩ :=
      attended id last.message (Queue.get?_eq_some_iff.2 ⟨last, before, rfl⟩) sending
    rcases Multiset.mem_cons.1 (holds ▸ member) with rfl | rest
    · exact absurd rfl other
    · exact ⟨n, rest, rfl⟩
  · simp [sending] at queued

theorem Attended.turn (attended : s.Attended) (sound : s.Sound) (turn : s.Turn w now booked s') :
    s'.Attended := by
  cases turn with
  | rest | count | begin | tally => exact attended
  | accept m called =>
    intro id stored found sending
    rw [Spool.get?_letIn] at found
    split at found
    · obtain rfl := Option.some.inj found
      cases sending
    · exact attended id stored found sending
  | poll =>
    intro id m found sending
    simp only [call, Spool.queue_call_dequeue] at found ⊢
    have handed := Queue.mem_dequeue_iff sound.filed w.batchSize now (m := m)
    rw [Queue.get?_dequeue] at found
    split at found
    · next due =>
      obtain ⟨old, stored, rfl⟩ := Option.map_eq_some_iff.1 found
      obtain rfl : old.id = id := sound.filed.id_of_get? stored
      exact ⟨_, Multiset.mem_add.2 (.inl (handed.2 ⟨due, found⟩)), rfl⟩
    · obtain ⟨n, member, named⟩ := attended id m found sending
      exact ⟨n, Multiset.mem_add.2 (.inr member), named⟩
  | release m held holds => exact attended.settle sound holds rfl s.current s.owed
  | book m outcome held current holds busy =>
    exact attended.settle sound holds (settled?_booking ..) _ _

def Stamped (readings : List Instant) (s : Standing) : Prop :=
  ∀ id m, s.spool.queue.get? id = some m → m.updatedAt ∈ readings

theorem Stamped.settle (stamped : s.Stamped readings) (sound : s.Sound) (read : now ∈ readings)
    {c : QueueCall} {about : String} (settled : c.settled? = some about) :
    (s.call now c).Stamped readings := by
  intro id m found
  obtain ⟨last, placed, rfl⟩ := Queue.get?_eq_some_iff.1 found
  obtain ⟨entry, before, -, ⟨rfl, -⟩ | ⟨-, updated⟩⟩ :=
    Spool.entry_of_call now sound.filed settled placed
  · exact stamped id last.message (Queue.get?_eq_some_iff.2 ⟨last, before, rfl⟩)
  · exact updated ▸ read

theorem Stamped.turn (stamped : s.Stamped readings) (sound : s.Sound) (read : now ∈ readings)
    (turn : s.Turn w now booked s') : s'.Stamped readings := by
  cases turn with
  | rest | count | begin | tally => exact stamped
  | accept m called =>
    intro id stored found
    rw [Spool.get?_letIn] at found
    split at found
    · obtain rfl := Option.some.inj found
      exact read
    · exact stamped id stored found
  | poll =>
    intro id m found
    simp only [call, Spool.queue_call_dequeue, Queue.get?_dequeue] at found
    split at found
    · obtain ⟨old, -, rfl⟩ := Option.map_eq_some_iff.1 found
      exact read
    · exact stamped id m found
  | release m => exact stamped.settle sound read (c := .release m.id) rfl
  | book m outcome => exact stamped.settle sound read (settled?_booking w m outcome)

structure Spared (start : Standing) (id : String) (entry : QueueEntry) (later : List Instant)
    (s : Standing) : Prop where
  idle : ∀ m ∈ s.current, m.id ≠ id
  unbooked : ∀ kind, kind ≠ .nothing →
    Ledger.bookedFor s.calls kind id = Ledger.bookedFor start.calls kind id
  kept : ∃ status updatedAt, (status = .queued → updatedAt ∈ later) ∧
    s.spool.queue.entries.get? id =
      some ⟨entry.ticket, { entry.message with status, updatedAt }⟩

/-- A message keeps its place for as long as it is in the queue, and is spared until it is
attempted. -/
structure Since (start : Standing) (id : String) (entry : QueueEntry) (later : List Instant)
    (s : Standing) : Prop where
  entered : id ∈ s.ids
  place : ∀ last, s.spool.queue.entries.get? id = some last → last.ticket = entry.ticket
  begun : start.begun.count id ≤ s.begun.count id
  spared : s.begun.count id = start.begun.count id → Spared start id entry later s

namespace Since

variable {start : Standing} {id : String} {entry : QueueEntry} {later : List Instant}
  (since : Since start id entry later s)

include since

theorem accept {m : Message} (once : (s.ids ++ [m.id]).count id ≤ 1) :
    Since start id entry later
      { s with
        spool := s.spool.letIn now m
        uncounted := s.uncounted + 1
        accepted := s.accepted ++ [m] } := by
  have other : id ≠ m.id := by
    rintro rfl
    have before := List.count_pos_iff.2 since.entered
    simp only [List.count_append, List.count_singleton_self] at before once
    omega
  have entries : (s.spool.letIn now m).queue.entries.get? id = s.spool.queue.entries.get? id :=
    (Queue.entry?_append ..).trans (if_neg other)
  refine ⟨?_, fun last stored => since.place last (entries ▸ stored), since.begun, fun same => ?_⟩
  · rw [ids, List.map_append]
    exact List.mem_append_left _ since.entered
  · have spared := since.spared same
    exact ⟨spared.idle, spared.unbooked, entries.symm ▸ spared.kept⟩

theorem poll (held : Multiset Message) (max : Nat) :
    Since start id entry later { s.call now (.dequeue max) with held } := by
  have entries : (s.spool.call now (.dequeue max)).1.queue.entries.get? id =
      if id ∈ s.spool.queue.due now max then
        (s.spool.queue.entries.get? id).map (·.alter (Queue.startSending now))
      else s.spool.queue.entries.get? id := by
    rw [Spool.queue_call_dequeue, Queue.entry?_dequeue]
  refine ⟨since.entered, fun last stored => ?_, since.begun, fun same => ?_⟩
  · simp only [call, entries] at stored
    split at stored
    · obtain ⟨old, found, rfl⟩ := Option.map_eq_some_iff.1 stored
      exact since.place old found
    · exact since.place last stored
  · have spared := since.spared same
    refine ⟨spared.idle, fun kind counts => ?_, ?_⟩
    · exact (Ledger.bookedFor_silent _ _ rfl counts id).trans (spared.unbooked kind counts)
    · obtain ⟨status, updatedAt, read, kept⟩ := spared.kept
      simp only [call, entries, kept]
      split
      · exact ⟨.sending, now, by simp, rfl⟩
      · exact ⟨status, updatedAt, read, rfl⟩

theorem begin (m : Message) :
    Since start id entry later { s with current := m ::ₘ s.current, begun := m.id :: s.begun } := by
  have more := since.begun
  refine ⟨since.entered, since.place, ?_, fun same => ?_⟩
  · rw [List.count_cons]
    omega
  · rw [List.count_cons] at same
    -- An attempt of the message itself would make a difference to the count.
    have other : m.id ≠ id := by
      rintro rfl
      simp at same
      omega
    have spared := since.spared (by omega)
    exact ⟨Multiset.forall_mem_cons.2 ⟨other, spared.idle⟩, spared.unbooked, spared.kept⟩

variable (sound : s.Sound)

include sound

theorem settle {c : QueueCall} {about : String} (settled : c.settled? = some about)
    {held current : Multiset Message} {owed : Multiset Tally}
    (spares : Spared start id entry later s →
      Spared start id entry later { s.call now c with held, current, owed }) :
    Since start id entry later { s.call now c with held, current, owed } := by
  refine ⟨since.entered, fun last stored => ?_, since.begun, fun same => spares (since.spared same)⟩
  obtain ⟨before, found, ticket, -⟩ := Spool.entry_of_call now sound.filed settled stored
  exact ticket.trans (since.place before found)

-- Giving a message back is the only way of settling it that spares it.
theorem release (read : now ∈ later) (m : Message) (held : Multiset Message) :
    Since start id entry later { s.call now (.release m.id) with held } := by
  refine since.settle sound (c := .release m.id) rfl
    fun spared => ⟨spared.idle, fun kind counts => ?_, ?_⟩
  · exact (Ledger.bookedFor_silent _ _ rfl counts id).trans (spared.unbooked kind counts)
  · obtain ⟨status, updatedAt, waits, kept⟩ := spared.kept
    by_cases same : m.id = id
    · subst same
      rcases Spool.settles_or_misses now sound.filed (c := .release m.id) rfl with
        ⟨missing, -⟩ | ⟨last, after, named, found, called, settles⟩
      · simp [Queue.get?, kept] at missing
      · obtain rfl := Option.some.inj (kept.symm.trans found)
        refine ⟨.queued, now, fun _ => read, ?_⟩
        simp only [call, called]
        rw [settles.entries, if_pos named.symm]
        rfl
    · have elsewhere :=
        (Spool.call_elsewhere now sound.filed (c := .release m.id) rfl (Ne.symm same)).1
      exact ⟨status, updatedAt, waits, elsewhere.trans kept⟩

theorem book {m : Message} {c : QueueCall} (settled : c.settled? = some m.id)
    {held current : Multiset Message} (busy : s.current = m ::ₘ current) (owed : Multiset Tally) :
    Since start id entry later { s.call now c with held, current, owed } := by
  refine since.settle sound settled fun spared => ?_
  obtain ⟨other, idle⟩ := Multiset.forall_mem_cons.1 (busy ▸ spared.idle)
  have elsewhere := (Spool.call_elsewhere now sound.filed settled (Ne.symm other)).1
  refine ⟨idle, fun kind counts => ?_, ?_⟩
  · have apart : c.settled? ≠ some id := by simp [settled, other]
    exact (Ledger.bookedFor_other _ _ apart kind).trans (spared.unbooked kind counts)
  · obtain ⟨status, updatedAt, waits, kept⟩ := spared.kept
    exact ⟨status, updatedAt, waits, elsewhere.trans kept⟩

theorem turn (read : now ∈ later) (turn : s.Turn w now booked s') (once : s'.ids.count id ≤ 1) :
    Since start id entry later s' := by
  cases turn with
  | rest => exact since
  | count | tally =>
    refine ⟨since.entered, since.place, since.begun, fun same => ?_⟩
    have spared := since.spared same
    exact ⟨spared.idle, spared.unbooked, spared.kept⟩
  | accept m called =>
    rw [ids, List.map_append] at once
    exact since.accept once
  | poll => exact since.poll _ w.batchSize
  | begin m holds => exact since.begin m
  | release m held holds => exact since.release sound read m held
  | book m outcome held current holds busy =>
    exact since.book sound (settled?_booking ..) busy _

end Since

theorem since_of_poll {t t' : Traffic} {rules : TrafficRules} {clock : Clock} {i : Nat}
    {entry : QueueEntry} {id : String} (sound : t.standing.Sound) (custody : t.standing.Custody id)
    (worked : t.work rules clock i .poll = some t')
    (due : id ∈ t.queue.due clock.wall rules.worker.batchSize)
    (found : t.queue.entries.get? id = some entry) (queued : entry.message.status = .queued)
    (later : List Instant) : Since t.standing id entry later t'.standing := by
  have stored : t.queue.get? id = some entry.message := Queue.get?_eq_some_iff.2 ⟨entry, found, rfl⟩
  have sent :
      (t.hub.spool.call clock.wall (.dequeue rules.worker.batchSize)).1.queue.entries.get? id =
        some (entry.alter (Queue.startSending clock.wall)) := by
    rw [Spool.queue_call_dequeue, Queue.entry?_dequeue]
    exact (if_pos due).trans (Option.map_eq_some_iff.2 ⟨entry, found, rfl⟩)
  rw [Traffic.standing_of_poll worked]
  refine ⟨(sound.stored stored).entered, fun last placed => ?_, Nat.le_refl _, fun _ => ⟨?_, ?_, ?_⟩⟩
  · obtain rfl := Option.some.inj (sent.symm.trans placed)
    rfl
  · -- The message waits until the poll, so that nobody holds it, let alone attempts it.
    intro n busy same
    obtain ⟨m, held, sending⟩ := custody.holds_iff.1 ⟨n, Traffic.mem_held_of_current busy, same⟩
    obtain rfl : m = entry.message := Option.some.inj (held.symm.trans stored)
    simp [sending] at queued
  · exact fun kind counts => Ledger.bookedFor_silent _ _ rfl counts id
  · exact ⟨.sending, clock.wall, by simp, sent⟩

end Standing

namespace Operation

/-- What has become of a message that was handed out after some earlier moment: it waits at its old
place, or has ended. If its attempt did not begin since, it is as it was, and nothing counts for
it. -/
structure Cleared (ahead o : Operation) (id : String) (entry : QueueEntry) (later : List Instant) :
    Prop where
  placed : (∃ m, o.traffic.queue.entries.get? id = some ⟨entry.ticket, m⟩ ∧ m.status = .queued) ∨
    o.traffic.queue.get? id = none ∧
      ∃ r, o.traffic.record? id = some r ∧ (r.status = .delivered ∨ r.status = .failed)
  spared : o.traffic.begun.count id = ahead.traffic.begun.count id →
    (∃ updatedAt ∈ later, o.traffic.queue.entries.get? id =
      some ⟨entry.ticket, { entry.message with updatedAt }⟩) ∧
    ∀ kind, kind ≠ .nothing →
      Ledger.bookedFor o.traffic.calls kind id = Ledger.bookedFor ahead.traffic.calls kind id

section

variable {o : Operation} (staffed : o.Staffed) (stopped : o.state = .stopped)

include staffed stopped

theorem owed_of_stopped : ∀ w ∈ o.traffic.workers, w.owed = [] := by
  intro w working
  have done := staffed.stopped stopped w working
  cases w with
  | ended | aborted => rfl
  | waiting | working | turning | trying | counting => cases done

theorem held_of_stopped : o.traffic.held = [] ↔ ¬ o.HasAborted := by
  rw [Traffic.held, List.flatMap_eq_nil_iff]
  constructor
  · rintro none ⟨w, working, broken⟩
    cases w with
    | aborted m rest => cases none _ working
    | waiting | working | turning | trying | counting | ended => cases broken
  · intro whole w working
    have done := staffed.stopped stopped w working
    cases w with
    | ended => rfl
    | aborted => exact absurd ⟨_, working, rfl⟩ whole
    | waiting | working | turning | trying | counting => cases done

end

theorem active_of_attended {o : Operation} (sound : o.traffic.standing.Sound)
    (attended : o.traffic.standing.Attended) {id : String} {m : Message}
    (stored : o.traffic.queue.get? id = some m) :
    m.status = .queued ∨ m.status = .sending ∧ ∃ n ∈ o.traffic.held, n.id = id := by
  refine (sound.stored stored).active.imp_right fun sending => ⟨sending, ?_⟩
  obtain ⟨n, held, named⟩ := attended id m stored sending
  exact ⟨n, Traffic.mem_standing_held.1 held, named⟩

theorem cleared_of_since {ahead o : Operation} {id : String} {entry : QueueEntry}
    {later : List Instant} (sound : o.traffic.standing.Sound)
    (waits : ∀ m, o.traffic.queue.get? id = some m → m.status = .queued)
    (queued : entry.message.status = .queued)
    (since : Standing.Since ahead.traffic.standing id entry later o.traffic.standing) :
    Cleared ahead o id entry later := by
  refine ⟨?_, fun same => ?_⟩
  · cases found : o.traffic.queue.get? id with
    | some m =>
      obtain ⟨last, stored, rfl⟩ := Queue.get?_eq_some_iff.1 found
      have place : last.ticket = entry.ticket := since.place last stored
      exact .inl ⟨last.message, place ▸ stored, waits _ found⟩
    | none => exact .inr ⟨rfl, sound.ended id since.entered found⟩
  · have spared := since.spared same
    obtain ⟨status, updatedAt, read, kept⟩ := spared.kept
    have back : status = .queued := waits _ (Queue.get?_eq_some_iff.2 ⟨_, kept, rfl⟩)
    refine ⟨⟨updatedAt, read back, ?_⟩, spared.unbooked⟩
    rw [back, ← queued] at kept
    exact kept

variable {settings : DeliverySettings} {limits : Limits} {capacity : Nat} {retryDelay : Duration}
  {occasions : List (Clock × Occasion)} {o : Operation}

theorem moves_of_opening
    (ran : (opening settings limits capacity retryDelay).run occasions = some o) :
    o.Staffed ∧ ∃ moves : List (Clock × Move), moves.map (·.1.wall) ⊆ occasions.map (·.1.wall) ∧
      (Traffic.opening capacity retryDelay settings.dnsCacheTtl).run o.rules moves =
        some o.traffic := by
  obtain ⟨staffed, rules, moves, clocks, moved⟩ :=
    moves_of_run (staffed_opening settings limits capacity retryDelay) ran
  exact ⟨staffed, moves, clocks, rules ▸ moved⟩

theorem stamped_of_run (ran : (opening settings limits capacity retryDelay).run occasions = some o) :
    o.traffic.standing.Stamped (occasions.map (·.1.wall)) := by
  obtain ⟨-, moves, clocks, moved⟩ := moves_of_opening ran
  refine (Traffic.standing_keeps (fun read sound stamped turn => ?_) (Traffic.sound_opening ..) ?_
    moved).2
  · exact Standing.Stamped.turn stamped sound (clocks read) turn
  · intro id m found
    cases found

theorem attended_of_run
    (ran : (opening settings limits capacity retryDelay).run occasions = some o) :
    o.traffic.standing.Attended := by
  obtain ⟨-, moves, -, moved⟩ := moves_of_opening ran
  refine Traffic.standing_of_run (P := Standing.Attended) moved (fun id m found => ?_)
    fun sound attended turn => attended.turn sound turn
  cases found

theorem since_of_run {before after : List (Clock × Occasion)} {clock : Clock} {i : Nat}
    {ahead : Operation}
    (earlier : (opening settings limits capacity retryDelay).run before = some ahead)
    (ran : ahead.run ((clock, .work i .poll) :: after) = some o) {id : String}
    (due : id ∈ ahead.traffic.queue.due clock.wall ahead.settings.batchSize)
    (once : o.traffic.ids.count id ≤ 1) :
    ∃ entry, ahead.traffic.queue.entries.get? id = some entry ∧ entry.message.status = .queued ∧
      Standing.Since ahead.traffic.standing id entry (after.map (·.1.wall)) o.traffic.standing := by
  obtain ⟨staffed, moves, -, moved⟩ := moves_of_opening earlier
  obtain ⟨-, -, all, -, whole⟩ := moves_of_run staffed ran
  have first := ((Traffic.sublist_ids_of_run whole).count_le id).trans once
  have sound : ahead.traffic.standing.Sound := Traffic.sound_of_run moved
  have custody : ahead.traffic.standing.Custody id := by
    rw [Standing.Custody, Traffic.standing_held]
    exact Traffic.custody_of_run moved first
  obtain ⟨-, stored, found, queued, -⟩ := Queue.of_mem_due due
  obtain ⟨entry, placed, rfl⟩ := Queue.get?_eq_some_iff.1 found
  refine ⟨entry, placed, queued, ?_⟩
  -- The poll sets the message apart; what comes after it keeps it so.
  obtain ⟨next, stepped, later⟩ := Option.bind_eq_some_iff.1 ran
  have event := event_of_step stepped
  obtain ⟨traffic, worked, rfl⟩ := Option.map_eq_some_iff.1 stepped
  obtain ⟨-, -, others, clocks, moved⟩ := moves_of_run (staffed.event event) later
  have turn := Traffic.turn_of_step worked
  have second := ((Traffic.sublist_ids_of_run moved).count_le id).trans once
  exact (Traffic.standing_keeps_once
    (fun read sound _ since turn once => Standing.Since.turn since sound (clocks read) turn once)
    (sound.turn turn) (custody.turn sound turn second)
    (Standing.since_of_poll sound custody worked due placed queued _) moved once).2

theorem stopped_of_run {o o' : Operation} {later : List (Clock × Occasion)}
    (stopped : o.state = .stopped) (ran : o.run later = some o') : o'.state = .stopped := by
  induction later generalizing o with
  | nil =>
    cases ran
    exact stopped
  | cons occasion rest ih =>
    obtain ⟨next, stepped, others⟩ := Option.bind_eq_some_iff.1 ran
    exact ih (stopped_of_event (event_of_step stepped) stopped) others

theorem start_of_stopped (stopped : o.state = .stopped) :
    o.service.start = .error (.notIdle .stopped) ∧ ∀ clock, o.step clock .start = some o := by
  have refused : o.service.start = .error (.notIdle .stopped) := by
    simp [Service.start, service, stopped]
  exact ⟨refused, fun clock => by rw [step, refused]⟩

/-- A message that a stopped service leaves as being sent is one that a worker held when it broke off,
and workers break off exactly if hosts come too late to be kept for their time to live. -/
theorem stopped_service_has_cleared_its_batches_iff
    (ran : (opening settings limits capacity retryDelay).run occasions = some o)
    (stopped : o.state = .stopped) :
    (o.traffic.held = [] ↔
      ∀ event ∈ occasions, ¬ event.2.Overruns settings.dnsCacheTtl event.1) ∧
      (∀ id m, o.traffic.queue.get? id = some m →
        m.status = .queued ∨ m.status = .sending ∧ ∃ n ∈ o.traffic.held, n.id = id) ∧
      (∀ n ∈ o.traffic.held, o.traffic.ids.count n.id ≤ 1 →
        ∃ m, o.traffic.queue.get? n.id = some m ∧ m.status = .sending) ∧
      -- Whatever has left the queue has ended.
      (∀ id ∈ o.traffic.ids, o.traffic.queue.get? id = none →
        ∃ r, o.traffic.record? id = some r ∧ (r.status = .delivered ∨ r.status = .failed)) ∧
      -- Every other message was settled as often as it was handed out, and the counters are the
      -- bookings.
      (∀ id, Ledger.handedOut o.traffic.calls id =
          Ledger.settledFor o.traffic.calls id + (o.traffic.held.map (·.id)).count id ∧
        (o.traffic.ids.count id ≤ 1 → ∀ call ∈ o.traffic.calls, call.2 ≠ .refused (.notFound id))) ∧
      (o.traffic.stats.sent + o.traffic.uncounted = o.traffic.accepted.length ∧
        ∀ kind, kind ≠ .nothing → o.traffic.stats.of kind = Ledger.booked o.traffic.calls kind) ∧
      -- The queue is in the order of the submissions, and every batch has been cleared but for what
      -- is left.
      (o.traffic.ids.Nodup → o.traffic.accepted.length < UInt64.size →
        o.traffic.queue.messages.map (·.id) =
          o.traffic.ids.filter fun id => (o.traffic.queue.get? id).isSome) ∧
      (∀ before clock i after ahead, occasions = before ++ (clock, .work i .poll) :: after →
        (opening settings limits capacity retryDelay).run before = some ahead →
        ∀ m ∈ (ahead.traffic.queue.dequeue ahead.settings.batchSize clock.wall).2,
          m.id ∈ o.traffic.ids ∧ (o.traffic.ids.count m.id ≤ 1 →
            ∃ entry, ahead.traffic.queue.entries.get? m.id = some entry ∧
              (m.id ∉ o.traffic.held.map (·.id) →
                Cleared ahead o m.id entry (after.map (·.1.wall))) ∧
              ((occasions.map (·.1.wall)).Pairwise (fun a b => a.le b) →
                ∀ now ∈ after.map (·.1.wall), entry.message.updatedAt.le now))) ∧
      -- From now on a start is refused and changes nothing.
      ∀ later o', o.run later = some o' → o'.state = .stopped ∧
        o'.service.start = .error (.notIdle .stopped) ∧ ∀ clock, o'.step clock .start = some o' := by
  obtain ⟨staffed, moves, -, moved⟩ := moves_of_opening ran
  have paid := owed_of_stopped staffed stopped
  have sound := Traffic.sound_of_run moved
  have active (id : String) (m : Message) (stored : o.traffic.queue.get? id = some m) :=
    active_of_attended sound (attended_of_run ran) stored
  refine ⟨?_, active, fun n held once => ?_, sound.ended, fun id => ⟨?_, Traffic.answered_of_run moved⟩,
    ⟨(Traffic.counted_of_run moved).sent, Traffic.stats_of_paid moved paid⟩,
    fun fresh few => (Traffic.inOrder_of_run moved few).ids_messages fresh, ?_,
    fun later o' ran => ?_⟩
  · have aborts := hasAborted_of_run (staffed_opening settings limits capacity retryDelay) ran
    have nobody : ¬ (opening settings limits capacity retryDelay).HasAborted := by
      rintro ⟨w, working, -⟩
      cases working
    rw [held_of_stopped staffed stopped, aborts]
    simp only [nobody, false_or, not_exists, not_and]
    rfl
  · exact (Traffic.custody_of_run moved once).holds_iff.1 ⟨n, held, rfl⟩
  · have matched := Traffic.matched_of_run moved id
    rwa [Traffic.standing_held, Multiset.map_coe, Multiset.coe_count] at matched
  · intro before clock i after ahead split earlier m taken
    rw [split, run_append, earlier] at ran
    obtain ⟨first, moves, -, moved⟩ := moves_of_opening earlier
    obtain ⟨-, -, others, -, rest⟩ := moves_of_run first ran
    have begun := Traffic.sound_of_run moved
    have due := ((Queue.mem_dequeue_iff begun.filed _ _).1 taken).1
    obtain ⟨-, stored, found, -⟩ := Queue.of_mem_due due
    refine ⟨(Traffic.sublist_ids_of_run rest).subset (begun.stored found).entered, fun once => ?_⟩
    obtain ⟨entry, placed, queued, since⟩ := since_of_run earlier ran due once
    refine ⟨entry, placed, fun free => ?_, fun ordered now read => ?_⟩
    · refine cleared_of_since sound (fun last found => ?_) queued since
      refine (active m.id last found).resolve_right fun ⟨_, n, held, same⟩ => free ?_
      exact List.mem_map.2 ⟨n, held, same⟩
    · -- The entry was last changed before the poll, and all moments in `after` are later.
      have stamp := stamped_of_run earlier m.id _ (Queue.get?_eq_some_iff.2 ⟨entry, placed, rfl⟩)
      rw [split, List.map_append] at ordered
      exact (List.pairwise_append.1 ordered).2.2 _ stamp now (List.mem_cons_of_mem _ read)
  · have still := stopped_of_run stopped ran
    exact ⟨still, start_of_stopped still⟩

-- The channel closes while the first message of a batch is attempted; the second one is given back.
theorem stopped_service_gives_back_unattempted_messages :
    let settings : DeliverySettings := { DeliverySettings.default with workers := 2 }
    let now : Clock := ⟨.min, 0⟩
    let before := [(now, .submit (note "m")), (now, .submit (note "n")), (now, .start)]
    let after := [(now, .work 0 .proceed), (now, .notice .closed), (now, .work 1 .interrupted),
      (now, .work 0 .proceed), (now, .work 0 .proceed), (now, .work 0 .proceed),
      (now, .work 0 .proceed), (now, .work 0 .proceed), (now, .work 0 .interrupted), (now, .finish)]
    ∃ ahead o entry, (opening settings .default 2 .zero).run before = some ahead ∧
      (opening settings .default 2 .zero).run (before ++ (now, .work 0 .poll) :: after) = some o ∧
      o.state = .stopped ∧ ahead.traffic.queue.entries.get? "n" = some entry ∧
      ∃ updatedAt, o.traffic.queue.entries.get? "n" =
        some ⟨entry.ticket, { entry.message with updatedAt }⟩ := by
  intro settings now before after
  have first : ((opening settings .default 2 .zero).run before).map (fun ahead =>
      ((ahead.traffic.queue.dequeue ahead.settings.batchSize now.wall).2.map (·.id),
        ahead.traffic.begun)) = some (["m", "n"], []) := by decide
  have last : ((opening settings .default 2 .zero).run (before ++ (now, .work 0 .poll) :: after)).map
      (fun o => (o.state, o.traffic.begun, o.traffic.ids, o.traffic.held.map (·.id))) =
        some (.stopped, ["m"], ["m", "n"], []) := by decide
  obtain ⟨ahead, earlier, facts⟩ := Option.map_eq_some_iff.1 first
  obtain ⟨batch, unbegun⟩ := Prod.mk.inj facts
  obtain ⟨o, ran, facts⟩ := Option.map_eq_some_iff.1 last
  simp only [Prod.mk.injEq] at facts
  obtain ⟨stopped, begun, ids, free⟩ := facts
  obtain ⟨m, taken, named⟩ :=
    List.mem_map.1 (batch ▸ List.mem_cons_of_mem "m" (List.mem_singleton_self "n"))
  have facts := stopped_service_has_cleared_its_batches_iff ran stopped
  obtain ⟨-, fate⟩ :=
    facts.2.2.2.2.2.2.2.1 _ _ _ _ _ rfl earlier m taken
  rw [named, ids, free] at fate
  obtain ⟨entry, found, cleared, -⟩ := fate (by decide)
  obtain ⟨⟨updatedAt, -, kept⟩, -⟩ := (cleared (by simp)).spared (by simp [begun, unbegun])
  exact ⟨ahead, o, entry, earlier, ran, stopped, found, updatedAt, kept⟩

-- The lookup succeeds, but its answer can never expire; then the channel closes.
theorem message_of_aborted_worker_stays_sending :
    let settings : DeliverySettings :=
      { DeliverySettings.default with workers := 1, dnsCacheSecs := 18446744073709551615 }
    let config : Config := { Config.default with
      hostname := "relay.test", api := { ApiSettings.default with token := "secret" }
      delivery := settings }
    let now : Clock := ⟨.min, 0⟩
    let occasions := [(now, .submit (note "m")), (now, .start), (now, .work 0 .poll),
      (now, .work 0 .proceed), (now, .work 0 .proceed),
      (now, .work 0 (.resolved (.ok [⟨"mx.example.org", 10⟩]))), (now, .notice .closed),
      (now, .finish)]
    config.validate = .ok () ∧
      ∃ o m, (opening settings config.limits 1 .zero).run occasions = some o ∧ o.state = .stopped ∧
        o.traffic.queue.get? "m" = some m ∧ m.status = .sending := by
  intro settings config now occasions
  have accepted : config.validate = .ok () := by decide
  have ran : ((opening settings config.limits 1 .zero).run occasions).map (fun o =>
      (o.state, (o.traffic.queue.get? "m").map (·.status))) = some (.stopped, some .sending) := by
    decide
  obtain ⟨o, ran, facts⟩ := Option.map_eq_some_iff.1 ran
  obtain ⟨stopped, left⟩ := Prod.mk.inj facts
  obtain ⟨m, stored, sending⟩ := Option.map_eq_some_iff.1 left
  exact ⟨accepted, o, m, ran, stopped, stored, sending⟩

end Operation

end MailRelay
