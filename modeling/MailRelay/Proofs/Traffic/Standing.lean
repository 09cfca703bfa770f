import MailRelay.Proofs.Traffic.Custody

set_option autoImplicit false

namespace MailRelay

def QueueCall.tally : QueueCall → Tally
  | markDelivered _ => .delivered
  | markFailed _ _ true => .retried
  | markFailed _ _ false => .failed
  | _ => .nothing

theorem settled?_booking (w : WorkerSettings) (m : Message) (outcome : Except AttemptError Unit) :
    (Hub.booking w m outcome).1.settled? = some m.id := by
  cases outcome <;> rfl

theorem tally_booking (w : WorkerSettings) (m : Message) (outcome : Except AttemptError Unit) :
    (Hub.booking w m outcome).1.tally = (Hub.booking w m outcome).2 := by
  cases outcome with
  | ok => rfl
  | error e =>
    by_cases left : m.retryCount < w.maxRetries <;> simp [Hub.booking, left, QueueCall.tally]

structure Standing where
  spool : Spool
  held : Multiset Message
  current : Multiset Message
  owed : Multiset Tally
  uncounted : Nat
  accepted : List Message
  calls : List (QueueCall × QueueReply)
  begun : List String

namespace Standing

def ids (s : Standing) : List String := s.accepted.map (·.id)

def Sound (s : Standing) : Prop := MailRelay.Sound s.ids s.spool

def Custody (s : Standing) (id : String) : Prop := MailRelay.Custody s.held s.spool.queue id

def call (s : Standing) (now : Instant) (c : QueueCall) : Standing :=
  { s with
    spool := (s.spool.call now c).1
    calls := (c, (s.spool.call now c).2) :: s.calls }

def owing (s : Standing) (now : Instant) (c : QueueCall) : Tally :=
  if (s.spool.call now c).2 = .done then c.tally else .nothing

/-- What one move can change, and the attempt whose outcome it books. -/
inductive Turn (w : WorkerSettings) (now : Instant) (s : Standing) :
    Option (Message × Except AttemptError Unit) → Standing → Prop where
  | rest : Turn w now s none s
  | accept (m : Message) (called : s.spool.call now (.enqueue m) = (s.spool.letIn now m, .done)) :
    Turn w now s none
      { s with
        spool := s.spool.letIn now m
        uncounted := s.uncounted + 1
        accepted := s.accepted ++ [m] }
  | count (n : Nat) (left : s.uncounted = n + 1) :
    Turn w now s none
      { s with spool := { s.spool with stats := s.spool.stats.countSent }, uncounted := n }
  | poll :
    Turn w now s none
      { s.call now (.dequeue w.batchSize) with
        held := (s.spool.queue.dequeue w.batchSize now).2 + s.held }
  | begin (m : Message) (holds : m ∈ s.held) :
    Turn w now s none { s with current := m ::ₘ s.current, begun := m.id :: s.begun }
  | release (m : Message) (held : Multiset Message) (holds : s.held = m ::ₘ held) :
    Turn w now s none { s.call now (.release m.id) with held }
  | book (m : Message) (outcome : Except AttemptError Unit) (held current : Multiset Message)
      (holds : s.held = m ::ₘ held) (busy : s.current = m ::ₘ current) :
    Turn w now s (some (m, outcome))
      { s.call now (Hub.booking w m outcome).1 with
        held
        current
        owed := s.owing now (Hub.booking w m outcome).1 ::ₘ s.owed }
  | tally (k : Tally) (owed : Multiset Tally) (owes : s.owed = k ::ₘ owed) :
    Turn w now s none { s with spool := { s.spool with stats := s.spool.stats.count k }, owed }

end Standing

namespace Traffic

def standing (t : Traffic) : Standing where
  spool := t.hub.spool
  held := (t.workers : Multiset Worker).bind fun w => w.held
  current := (t.workers : Multiset Worker).bind fun w => w.current
  owed := (t.workers : Multiset Worker).bind fun w => w.owed
  uncounted := t.uncounted
  accepted := t.accepted
  calls := t.calls
  begun := t.begun

theorem standing_held (t : Traffic) : t.standing.held = t.held :=
  Multiset.coe_bind ..

theorem mem_standing_held {t : Traffic} {m : Message} : m ∈ t.standing.held ↔ m ∈ t.held := by
  rw [standing_held, Multiset.mem_coe]

theorem mem_held_of_current {t : Traffic} {m : Message} (busy : m ∈ t.standing.current) :
    m ∈ t.standing.held := by
  simp only [standing, Multiset.mem_bind, Multiset.mem_coe] at busy ⊢
  obtain ⟨w, working, tries⟩ := busy
  refine ⟨w, working, ?_⟩
  cases w <;> simp_all [Worker.current, Worker.held]

theorem mem_standing_owed {t : Traffic} {k : Tally} :
    k ∈ t.standing.owed ↔ ∃ w ∈ t.workers, k ∈ w.owed := by
  simp [standing]

-- Apart from the worker that acts, the workers stay the same.
theorem coe_set {workers : List Worker} {i : Nat} {w : Worker} (w' : Worker)
    (placed : workers[i]? = some w) :
    ∃ others : Multiset Worker,
      (workers : Multiset Worker) = w ::ₘ others ∧
        (workers.set i w' : Multiset Worker) = w' ::ₘ others := by
  induction workers generalizing i with
  | nil => simp at placed
  | cons first rest ih =>
    cases i with
    | zero =>
      obtain rfl : first = w := by simpa using placed
      exact ⟨rest, rfl, rfl⟩
    | succ i =>
      obtain ⟨others, before, after⟩ := ih (by simpa using placed)
      refine ⟨first ::ₘ others, ?_, ?_⟩
      · rw [← Multiset.cons_coe, before, Multiset.cons_swap]
      · rw [List.set_cons_succ, ← Multiset.cons_coe, after, Multiset.cons_swap]

-- Of what the workers have, one part is with the worker that acts.
theorem standing_parts {t : Traffic} {i : Nat} {w : Worker} (w' : Worker)
    (placed : t.workers[i]? = some w) :
    ∃ held current owed,
      t.standing = ⟨t.hub.spool, w.held + held, w.current + current, w.owed + owed, t.uncounted,
        t.accepted, t.calls, t.begun⟩ ∧
      ∀ hub calls begun,
        { t with hub, workers := t.workers.set i w', calls, begun : Traffic }.standing =
          ⟨hub.spool, w'.held + held, w'.current + current, w'.owed + owed, t.uncounted,
            t.accepted, calls, begun⟩ := by
  obtain ⟨others, before, after⟩ := coe_set w' placed
  refine ⟨others.bind fun w => w.held, others.bind fun w => w.current, others.bind fun w => w.owed,
    ?_, fun hub calls begun => ?_⟩
  · simp only [standing, before, Multiset.cons_bind]
  · simp only [standing, after, Multiset.cons_bind]

theorem standing_of_poll {rules : TrafficRules} {t t' : Traffic} {clock : Clock} {i : Nat}
    (worked : t.work rules clock i .poll = some t') :
    t'.standing =
      { t.standing.call clock.wall (.dequeue rules.worker.batchSize) with
        held := (t.queue.dequeue rules.worker.batchSize clock.wall).2 + t.standing.held } := by
  obtain ⟨w, w', hub, placed, deed, rfl⟩ := of_work worked
  obtain ⟨held, current, owed, before, later⟩ := standing_parts w' placed
  rw [before, later]
  cases deed with
  | poll => simp [Worker.held, Worker.current, Worker.owed, Worker.request?, Worker.begins?,
      Hub.call, queue, Standing.call]
  | wait cache other => exact absurd rfl other

-- What a worker counts is what it called for, if the queue knew the message.
theorem book_eq (h : Hub) (s : WorkerSettings) (now : Instant) (m : Message)
    (outcome : Except AttemptError Unit) :
    h.book s now m outcome =
      ((h.call now (Hub.booking s m outcome).1).1,
        if (h.call now (Hub.booking s m outcome).1).2 = .done then (Hub.booking s m outcome).1.tally
        else .nothing) := by
  have known := h.spool.reply_call_ne_batch now (settled?_booking s m outcome)
  rw [tally_booking]
  cases called : h.spool.call now (Hub.booking s m outcome).1 with
  | mk spool reply =>
    cases reply with
    | done | refused e => simp [Hub.book, Hub.call, called]
    | batch messages => exact absurd (congrArg Prod.snd called) (known messages)

theorem turn_of_work {rules : TrafficRules} {t t' : Traffic} {clock : Clock} {i : Nat}
    {e : WorkerEvent} (worked : t.work rules clock i e = some t') :
    t.standing.Turn rules.worker clock.wall (t.books? (.work i e)) t'.standing := by
  obtain ⟨w, w', hub, placed, deed, rfl⟩ := of_work worked
  -- What the others hold, attempt and owe is the same before and after.
  obtain ⟨held, current, owed, before, later⟩ := standing_parts w' placed
  have books : t.books? (.work i e) = w.books? e := by simp [Traffic.books?, placed]
  rw [before, later, books]
  cases deed with
  | poll =>
    simp only [Worker.held, Worker.current, Worker.owed, Multiset.coe_nil, zero_add]
    exact .poll
  | release m rest raised =>
    simp only [Worker.held, Worker.current, Worker.owed, Multiset.coe_nil, zero_add,
      ← Multiset.cons_coe, Multiset.cons_add, Worker.request?, Worker.begins?, raised, if_true]
    exact .release m (rest + held) rfl
  | begin m rest down =>
    simp only [Worker.held, Worker.current, Worker.owed, Multiset.coe_nil, zero_add,
      ← Multiset.cons_coe, Multiset.cons_add, Worker.request?, Worker.begins?, down]
    exact .begin m (Multiset.mem_cons_self ..)
  | book m outcome rest =>
    simp only [Worker.held, Worker.current, Worker.owed, Multiset.coe_nil, zero_add,
      ← Multiset.cons_coe, Multiset.cons_add, Worker.request?, Worker.books?, book_eq]
    exact .book m outcome (rest + held) current rfl rfl
  | count k rest =>
    simp only [Worker.held, Worker.current, Worker.owed, Multiset.coe_nil, zero_add,
      ← Multiset.cons_coe, Multiset.cons_add]
    exact .tally k owed rfl
  | wait cache other same busy tallies silent begins idle =>
    rw [same, busy, tallies, silent, begins, idle]
    exact .rest

theorem turn_of_step {rules : TrafficRules} {t t' : Traffic} {clock : Clock} {move : Move}
    (stepped : t.step rules clock move = some t') :
    t.standing.Turn rules.worker clock.wall (t.books? move) t'.standing := by
  cases move with
  | join =>
    cases stepped
    have same : ({ t with workers := t.workers ++ [.waiting] } : Traffic).standing = t.standing := by
      simp [standing, ← Multiset.coe_add, Worker.held, Worker.current, Worker.owed]
    rw [same]
    exact .rest
  | work i e => exact turn_of_work stepped
  | submit m =>
    obtain rfl := Option.some.inj stepped
    rw [submit]
    split
    · exact .rest
    · rw [Hub.call]
      have called := t.hub.spool.call_enqueue clock.wall m
      split at called
      · rw [called]
        exact .rest
      · rw [called]
        exact .accept m called
  | count =>
    simp only [step] at stepped
    split at stepped
    · cases stepped
    · next some_left =>
      obtain rfl := Option.some.inj stepped
      exact .count (t.uncounted - 1) (Nat.succ_pred_eq_of_ne_zero some_left).symm
  | raise =>
    cases stepped
    exact .rest

end Traffic

namespace Standing

variable {w : WorkerSettings} {now : Instant} {s s' : Standing}
  {booked : Option (Message × Except AttemptError Unit)} {id : String}

theorem Sound.turn (sound : s.Sound) (turn : s.Turn w now booked s') : s'.Sound := by
  cases turn with
  | rest | begin => exact sound
  | count | tally => exact sound.recount _
  | accept m called => simpa [Sound, ids] using sound.letIn now m
  | poll => exact sound.poll now w.batchSize
  | release m => exact sound.settle now (c := .release m.id) rfl
  | book m outcome => exact sound.settle now (settled?_booking w m outcome)

theorem tracked_turn (tracked : s.spool.Tracked) (turn : s.Turn w now booked s') :
    s'.spool.Tracked := by
  cases turn with
  | rest | begin | count | tally => exact tracked
  | accept m called => simpa only [called] using tracked.call now (.enqueue m)
  | poll | release | book => exact tracked.call now _

-- Nothing that was let in is taken back.
theorem sublist_ids_of_turn (turn : s.Turn w now booked s') : s.ids.Sublist s'.ids := by
  cases turn with
  | accept m called =>
    rw [ids, ids, List.map_append]
    exact List.sublist_append_left ..
  | _ => exact List.Sublist.refl _

-- A second message with the identifier would find the first one.
theorem new_of_accept {m : Message} (sound : s.Sound) (once : (s.ids ++ [m.id]).count id ≤ 1)
    (same : id = m.id) : s.spool.queue.get? id = none := by
  refine Option.eq_none_iff_forall_ne_some.2 fun stored found => ?_
  have before := List.count_pos_iff.2 (sound.stored found).entered
  simp only [List.count_append, same, List.count_singleton_self] at before once
  omega

theorem Custody.turn (custody : s.Custody id) (sound : s.Sound) (turn : s.Turn w now booked s')
    (once : s'.ids.count id ≤ 1) : s'.Custody id := by
  have filed := sound.filed
  cases turn with
  | rest | begin | count | tally => exact custody
  | accept m called =>
    rw [ids, List.map_append] at once
    exact custody.letIn now (new_of_accept sound once)
  | poll =>
    rw [Custody, call, Spool.queue_call_dequeue]
    exact custody.poll filed now w.batchSize
  | release m held holds =>
    rw [Custody, holds] at custody
    exact MailRelay.Custody.settle (c := .release m.id) rfl now custody filed
  | book m outcome held current holds busy =>
    rw [Custody, holds] at custody
    exact MailRelay.Custody.settle (settled?_booking w m outcome) now custody filed

end Standing

namespace Traffic

variable {rules : TrafficRules} {P : Standing → Prop} {t t' : Traffic} {moves : List (Clock × Move)}

theorem standing_keeps
    (keeps : ∀ {s now booked s'}, now ∈ moves.map (·.1.wall) → s.Sound → P s →
      s.Turn rules.worker now booked s' → P s')
    (sound : t.standing.Sound) (start : P t.standing) (ran : t.run rules moves = some t') :
    t'.standing.Sound ∧ P t'.standing := by
  refine run_keeps (P := fun t => t.standing.Sound ∧ P t.standing) ?_ ⟨sound, start⟩ ran
  rintro before move after member ⟨sound, held⟩ stepped
  have turn := turn_of_step stepped
  exact ⟨sound.turn turn, keeps (List.mem_map.2 ⟨move, member, rfl⟩) sound held turn⟩

-- While no second message comes with an identifier, custody of its message helps to keep things.
theorem standing_keeps_once {id : String}
    (keeps : ∀ {s now booked s'}, now ∈ moves.map (·.1.wall) → s.Sound → s.Custody id → P s →
      s.Turn rules.worker now booked s' → s'.ids.count id ≤ 1 → P s')
    (sound : t.standing.Sound) (custody : t.standing.Custody id) (start : P t.standing)
    (ran : t.run rules moves = some t') (once : t'.ids.count id ≤ 1) :
    t'.standing.Custody id ∧ P t'.standing := by
  refine (standing_keeps (P := fun s => s.ids.count id ≤ 1 → s.Custody id ∧ P s)
    (fun read sound before turn once => ?_) sound (fun _ => ⟨custody, start⟩) ran).2 once
  -- Identifiers are never taken back: if there is one message at the end, there were not two before.
  obtain ⟨custody, held⟩ := before (((Standing.sublist_ids_of_turn turn).count_le id).trans once)
  exact ⟨custody.turn sound turn once, keeps read sound custody held turn once⟩

theorem sublist_ids_of_run (ran : t.run rules moves = some t') : t.ids.Sublist t'.ids :=
  run_keeps (P := fun later => t.ids.Sublist later.ids)
    (fun _ _ _ _ part stepped => part.trans (Standing.sublist_ids_of_turn (turn_of_step stepped)))
    (.refl _) ran

theorem sound_opening (capacity : Nat) (retryDelay cacheTtl : Duration) :
    (opening capacity retryDelay cacheTtl).standing.Sound :=
  MailRelay.Sound.opening capacity retryDelay

theorem custody_opening (capacity : Nat) (retryDelay cacheTtl : Duration) (id : String) :
    (opening capacity retryDelay cacheTtl).standing.Custody id := rfl

section

variable {capacity : Nat} {retryDelay cacheTtl : Duration}
  (ran : (opening capacity retryDelay cacheTtl).run rules moves = some t)

include ran

theorem standing_of_run (start : P (opening capacity retryDelay cacheTtl).standing)
    (keeps : ∀ {s now booked s'}, s.Sound → P s → s.Turn rules.worker now booked s' → P s') :
    P t.standing :=
  (standing_keeps (fun _ => keeps) (sound_opening ..) start ran).2

theorem sound_of_run : MailRelay.Sound t.ids t.hub.spool :=
  standing_of_run ran (sound_opening ..) fun sound _ turn => sound.turn turn

section

variable {id : String} (once : t.ids.count id ≤ 1)

include once

theorem standing_of_run_once (start : P (opening capacity retryDelay cacheTtl).standing)
    (keeps : ∀ {s now booked s'}, s.Sound → s.Custody id → P s →
      s.Turn rules.worker now booked s' → s'.ids.count id ≤ 1 → P s') : P t.standing :=
  (standing_keeps_once (fun _ => keeps) (sound_opening ..) (custody_opening ..) start ran once).2

theorem custody_of_run : MailRelay.Custody t.held t.queue id := by
  rw [← standing_held]
  exact standing_of_run_once (P := fun s => s.Custody id) ran once (custody_opening ..)
    fun sound custody _ turn once => custody.turn sound turn once

end

theorem get?_tracker (id : String) : t.hub.spool.tracker.get? id = t.record? id :=
  standing_of_run (P := fun s => s.spool.Tracked) ran (Spool.tracked_new capacity retryDelay)
    (fun _ tracked turn => Standing.tracked_turn tracked turn) id

end

end Traffic

end MailRelay
