import MailRelay.Proofs.Traffic.Standing

set_option autoImplicit false

namespace MailRelay

namespace Tally

-- What a message counts for.
def weight : Tally → Message → Nat
  | delivered, m => if m.status == .delivered then 1 else 0
  | failed, m => if m.status == .failed then 1 else 0
  | retried, m => m.retryCount.toNat
  | nothing, _ => 0

theorem weight_startSending (k : Tally) (now : Instant) {m : Message}
    (queued : m.status = .queued) :
    k.weight (Queue.startSending now m) = k.weight m := by
  cases k <;> simp [weight, Queue.startSending, queued]

end Tally

def Stats.of (s : Stats) : Tally → Nat
  | .delivered => s.delivered
  | .failed => s.failed
  | .retried => s.retried
  | .nothing => 0

theorem Stats.of_count (s : Stats) (k : Tally) {kind : Tally} (counts : kind ≠ .nothing) :
    (s.count k).of kind = s.of kind + if k = kind then 1 else 0 := by
  cases k <;> cases kind <;> first | rfl | exact absurd rfl counts

theorem toNat_retryCount_succ {m : Message} {limit : UInt32} (left : m.retryCount < limit) :
    (m.retryCount + 1).toNat = m.retryCount.toNat + 1 := by
  have bound := limit.toNat_lt
  have less : m.retryCount.toNat < limit.toNat := left
  rw [UInt32.toNat_add, UInt32.toNat_one]
  omega

namespace QueueCall

theorem weight_settle (now : Instant) (base : Duration) {c : QueueCall} {m : Message} {id : String}
    (settled : c.settled? = some id) (sending : m.status = .sending)
    (room : c.tally = .retried → (m.retryCount + 1).toNat = m.retryCount.toNat + 1) {kind : Tally}
    (counts : kind ≠ .nothing) :
    kind.weight (c.settle now base m) = kind.weight m + if c.tally = kind then 1 else 0 := by
  cases c with
  | enqueue | dequeue => simp [settled?] at settled
  | markDelivered =>
    cases kind <;> simp_all [Tally.weight, settle, tally, Backlog.delivered]
  | markFailed _ reason retry =>
    cases retry <;> cases kind <;>
      simp_all [Tally.weight, settle, tally, Backlog.failed, Backlog.putOff]
  | release => cases kind <;> simp_all [Tally.weight, settle, tally, Backlog.released]

theorem room_of_booking (w : WorkerSettings) (m : Message) (outcome : Except AttemptError Unit)
    (retries : (Hub.booking w m outcome).1.tally = .retried) : m.retryCount < w.maxRetries := by
  cases outcome with
  | ok => cases retries
  | error e =>
    by_contra spent
    simp [Hub.booking, spent, tally] at retries

end QueueCall

abbrev Ledger := List (QueueCall × QueueReply)

namespace Ledger

def booked (calls : Ledger) (kind : Tally) : Nat :=
  calls.countP fun call => call.1.tally = kind ∧ call.2 = .done

def bookedFor (calls : Ledger) (kind : Tally) (id : String) : Nat :=
  calls.countP fun call => (call.1.tally = kind ∧ call.2 = .done) ∧ call.1.settled? = some id

def settledFor (calls : Ledger) (id : String) : Nat :=
  calls.countP fun call => call.1.settled? = some id

def handedOut : Ledger → String → Nat
  | [], _ => 0
  | (_, .batch batch) :: rest, id => (batch.map (·.id)).count id + handedOut rest id
  | _ :: rest, id => handedOut rest id

variable (calls : Ledger) {c : QueueCall} (reply : QueueReply) {id : String}

theorem booked_silent (silent : c.tally = .nothing) {kind : Tally} (counts : kind ≠ .nothing) :
    booked ((c, reply) :: calls) kind = calls.booked kind := by
  simp [booked, silent, Ne.symm counts]

theorem bookedFor_silent (silent : c.tally = .nothing) {kind : Tally} (counts : kind ≠ .nothing)
    (id : String) : bookedFor ((c, reply) :: calls) kind id = calls.bookedFor kind id := by
  simp [bookedFor, silent, Ne.symm counts]

theorem bookedFor_other (other : c.settled? ≠ some id) (kind : Tally) :
    bookedFor ((c, reply) :: calls) kind id = calls.bookedFor kind id := by
  simp [bookedFor, other]

theorem bookedFor_settled (settled : c.settled? = some id) (kind : Tally) :
    bookedFor ((c, .done) :: calls) kind id =
      calls.bookedFor kind id + if c.tally = kind then 1 else 0 := by
  simp [bookedFor, List.countP_cons, settled]

theorem bookedFor_unknown {calls : Ledger} (unknown : ∀ call ∈ calls, call.1.settled? ≠ some id)
    (kind : Tally) : calls.bookedFor kind id = 0 :=
  List.countP_eq_zero.2 fun call member => by simp [unknown call member]

theorem settledFor_settled (settled : c.settled? = some id) (other : String) :
    settledFor ((c, reply) :: calls) other =
      calls.settledFor other + if other = id then 1 else 0 := by
  simp [settledFor, List.countP_cons, settled, eq_comm]

theorem settledFor_dequeue (max : Nat) :
    settledFor ((.dequeue max, reply) :: calls) id = calls.settledFor id := by
  simp [settledFor, QueueCall.settled?]

theorem handedOut_settled (settled : c.settled? = some id) (s : Spool) (now : Instant)
    (other : String) :
    handedOut ((c, (s.call now c).2) :: calls) other = calls.handedOut other := by
  have known := s.reply_call_ne_batch now settled
  cases answer : (s.call now c).2 with
  | done | refused e => rfl
  | batch messages => exact absurd answer (known messages)

end Ledger

namespace Standing

variable {w : WorkerSettings} {now : Instant} {s s' : Standing}
  {booked : Option (Message × Except AttemptError Unit)}

/-- The counters are the numbers of bookings, but for those that are not counted yet. -/
structure Counted (s : Standing) : Prop where
  sent : s.spool.stats.sent + s.uncounted = s.accepted.length
  booked : ∀ kind, kind ≠ .nothing →
    s.spool.stats.of kind + s.owed.count kind = Ledger.booked s.calls kind

theorem Counted.turn (counted : s.Counted) (turn : s.Turn w now booked s') : s'.Counted := by
  have sent := counted.sent
  have stats (c : QueueCall) := Spool.stats_call (s := s.spool) now c
  cases turn with
  | rest | begin => exact ⟨sent, counted.booked⟩
  | accept m called =>
    refine ⟨?_, counted.booked⟩
    rw [List.length_append, List.length_singleton, ← sent]
    exact (Nat.add_assoc ..).symm
  | count n left =>
    refine ⟨?_, fun kind counts => ?_⟩
    · rw [← sent, left]
      exact Nat.succ_add ..
    · rw [← counted.booked kind counts]
      cases kind <;> rfl
  | poll | release m held holds =>
    refine ⟨?_, fun kind counts => ?_⟩
    · simp only [call, stats]
      exact sent
    · simp only [call, stats]
      rw [Ledger.booked_silent _ _ rfl counts]
      exact counted.booked kind counts
  | book m outcome held current holds busy =>
    refine ⟨?_, fun kind counts => ?_⟩
    · simp only [call, stats]
      exact sent
    · simp only [call, stats]
      rw [Ledger.booked, List.countP_cons, Multiset.count_cons, ← Nat.add_assoc,
        counted.booked kind counts]
      congr 1
      -- A refused call is not counted, neither here nor there.
      by_cases done : (s.spool.call now (Hub.booking w m outcome).1).2 = .done
      · simp [owing, done, eq_comm]
      · simp [owing, done, counts]
  | tally k owed owes =>
    refine ⟨?_, fun kind counts => ?_⟩
    · rw [← sent]
      cases k <;> rfl
    · rw [← counted.booked kind counts, owes, Multiset.count_cons, Stats.of_count _ _ counts]
      simp only [eq_comm (a := kind)]
      omega

/-- The latest record of a message counts the bookings for it. -/
structure Recorded (id : String) (s : Standing) : Prop where
  unknown : id ∉ s.ids → ∀ call ∈ s.calls, call.1.settled? ≠ some id
  recorded : ∀ m ∈ s.accepted, m.id = id → ∀ r, s.spool.record? id = some r →
    ∀ kind, kind ≠ .nothing →
      kind.weight r = kind.weight { m with status := .queued } + Ledger.bookedFor s.calls kind id

namespace Recorded

variable {id : String} (recorded : s.Recorded id) (sound : s.Sound) (custody : s.Custody id)

include recorded sound custody

theorem settle {m : Message} {c : QueueCall} (holds : m ∈ s.held) (settled : c.settled? = some m.id)
    (room : c.tally = .retried → (m.retryCount + 1).toNat = m.retryCount.toNat + 1)
    (held current : Multiset Message) (owed : Multiset Tally) :
    { s.call now c with held, current, owed : Standing }.Recorded id := by
  by_cases same : m.id = id
  · subst same
    obtain ⟨stored, sending⟩ := custody.of_mem holds
    obtain ⟨entered, record, -⟩ := sound.stored stored
    obtain ⟨answered, settles⟩ := MailRelay.Custody.call_answered settled now custody holds
    refine ⟨fun absent => absurd entered absent, fun n member named r shown kind counts => ?_⟩
    -- The record was the held message, and is now what the call has made of it.
    simp only [call, answered] at shown ⊢
    obtain rfl := Option.some.inj (settles.symm.trans shown)
    rw [Ledger.bookedFor_settled _ settled,
      QueueCall.weight_settle now _ settled sending room counts,
      recorded.recorded n member named _ record kind counts, Nat.add_assoc]
  · have other : c.settled? ≠ some id := by simp [settled, same]
    refine ⟨fun absent => ?_, fun n member named r shown kind counts => ?_⟩
    · exact List.forall_mem_cons.2 ⟨other, recorded.unknown absent⟩
    · simp only [call] at shown ⊢
      rw [(Spool.call_elsewhere now sound.filed settled (Ne.symm same)).2] at shown
      rw [Ledger.bookedFor_other _ _ other]
      exact recorded.recorded n member named r shown kind counts

theorem turn (turn : s.Turn w now booked s') (once : s'.ids.count id ≤ 1) : s'.Recorded id := by
  cases turn with
  | rest | begin | count | tally => exact ⟨recorded.unknown, recorded.recorded⟩
  | accept m called =>
    simp only [ids, List.map_append, List.map_cons, List.map_nil] at once
    refine ⟨fun absent => recorded.unknown fun old => absent ?_,
      fun n member named r shown kind counts => ?_⟩
    · rw [ids, List.map_append]
      exact List.mem_append_left _ old
    · rw [Spool.record?_letIn] at shown
      by_cases same : m.id = id
      · -- No call was about an identifier before its message came.
        have new : id ∉ s.ids := by
          rw [ids, ← List.count_eq_zero]
          simpa [same] using once
        rw [if_pos same] at shown
        obtain rfl := Option.some.inj shown
        rcases List.mem_append.1 member with old | last
        · exact absurd (named ▸ List.mem_map_of_mem old) new
        · obtain rfl := List.mem_singleton.1 last
          rw [Ledger.bookedFor_unknown (recorded.unknown new)]
          cases kind <;> rfl
      · rw [if_neg same] at shown
        rcases List.mem_append.1 member with old | last
        · exact recorded.recorded n old named r shown kind counts
        · obtain rfl := List.mem_singleton.1 last
          exact absurd named same
  | poll =>
    refine ⟨fun absent => List.forall_mem_cons.2
      ⟨by simp [QueueCall.settled?], recorded.unknown absent⟩, fun n member named r shown kind counts => ?_⟩
    simp only [call] at shown ⊢
    rw [Ledger.bookedFor_silent _ _ rfl counts]
    rw [Spool.record?_call_dequeue now w.batchSize sound.filed, Queue.get?_dequeue] at shown
    by_cases due : id ∈ s.spool.queue.due now w.batchSize
    · obtain ⟨-, old, found, queued, -⟩ := Queue.of_mem_due due
      simp only [if_pos due, found, Option.map_some, Option.some.injEq] at shown
      subst shown
      rw [Tally.weight_startSending _ _ queued]
      exact recorded.recorded n member named old (sound.stored found).shown kind counts
    · rw [if_neg due] at shown
      exact recorded.recorded n member named r shown kind counts
  | release m held holds =>
    have taken : m ∈ s.held := holds ▸ Multiset.mem_cons_self m held
    exact recorded.settle sound custody taken rfl (by simp [QueueCall.tally]) held s.current s.owed
  | book m outcome held current holds busy =>
    have taken : m ∈ s.held := holds ▸ Multiset.mem_cons_self m held
    refine recorded.settle sound custody taken (settled?_booking ..) (fun retries => ?_) ..
    exact toNat_retryCount_succ (QueueCall.room_of_booking _ _ _ retries)

end Recorded

def Matched (s : Standing) : Prop :=
  ∀ id, Ledger.handedOut s.calls id = Ledger.settledFor s.calls id + (s.held.map (·.id)).count id

theorem Matched.settle (matched : s.Matched) {m : Message} {c : QueueCall}
    {held : Multiset Message} (holds : s.held = m ::ₘ held) (settled : c.settled? = some m.id)
    (current : Multiset Message) (owed : Multiset Tally) :
    { s.call now c with held, current, owed : Standing }.Matched := by
  intro id
  have before := matched id
  rw [holds, Multiset.map_cons, Multiset.count_cons] at before
  simp only [call, Ledger.handedOut_settled _ settled, Ledger.settledFor_settled _ _ settled]
  omega

theorem Matched.turn (matched : s.Matched) (turn : s.Turn w now booked s') : s'.Matched := by
  cases turn with
  | rest | begin | count | tally | accept => exact matched
  | poll =>
    intro id
    have before := matched id
    simp only [call, Spool.reply_call_dequeue, Ledger.handedOut, Ledger.settledFor_dequeue,
      Multiset.map_add, Multiset.count_add, Multiset.map_coe, Multiset.coe_count]
    omega
  | release m held holds => exact matched.settle holds rfl s.current s.owed
  | book m outcome held current holds busy => exact matched.settle holds (settled?_booking ..) _ _

end Standing

namespace Traffic

/-- Nobody stands between a call of the queue and the counting of what it did. -/
def Settled (t : Traffic) : Prop := t.uncounted = 0 ∧ ∀ w ∈ t.workers, w.owed = []

variable {rules : TrafficRules} {capacity : Nat} {retryDelay cacheTtl : Duration}
  {moves : List (Clock × Move)} {t : Traffic}
  (ran : (opening capacity retryDelay cacheTtl).run rules moves = some t)

include ran

theorem counted_of_run : t.standing.Counted := by
  refine standing_of_run (P := fun s => s.Counted) ran ⟨rfl, fun kind _ => ?_⟩
    (fun _ counted turn => counted.turn turn)
  cases kind <;> rfl

theorem recorded_of_run {id : String} (once : t.ids.count id ≤ 1) : t.standing.Recorded id :=
  standing_of_run_once ran once ⟨fun _ => List.forall_mem_nil _, List.forall_mem_nil _⟩
    fun sound custody recorded turn once => recorded.turn sound custody turn once

theorem matched_of_run : t.standing.Matched :=
  standing_of_run (P := fun s => s.Matched) ran (fun _ => rfl)
    fun _ matched turn => matched.turn turn

theorem stats_of_paid (paid : ∀ w ∈ t.workers, w.owed = []) (kind : Tally)
    (counts : kind ≠ .nothing) : t.stats.of kind = Ledger.booked t.calls kind := by
  have none : t.standing.owed = 0 := by
    refine Multiset.eq_zero_of_forall_notMem fun k member => ?_
    obtain ⟨w, working, owes⟩ := mem_standing_owed.1 member
    simp [paid w working] at owes
  have booked := (counted_of_run ran).booked kind counts
  rwa [none] at booked

/-- The counters fit into the 64 bits that they have, as long as the numbers of messages and calls
do. -/
theorem stats_lt_size (few : t.accepted.length < UInt64.size)
    (short : t.calls.length < UInt64.size) :
    t.stats.sent < UInt64.size ∧ ∀ kind, t.stats.of kind < UInt64.size := by
  have counted := counted_of_run ran
  constructor
  · have sent : t.stats.sent + t.uncounted = t.accepted.length := counted.sent
    omega
  · intro kind
    by_cases counts : kind = .nothing
    · rw [counts]
      exact Nat.zero_lt_succ _
    · have booked : t.stats.of kind + t.standing.owed.count kind = Ledger.booked t.calls kind :=
        counted.booked kind counts
      have bounded : Ledger.booked t.calls kind ≤ t.calls.length := List.countP_le_length
      omega

end Traffic

end MailRelay
