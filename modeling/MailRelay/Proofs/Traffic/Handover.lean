import MailRelay.Proofs.Queue.History
import MailRelay.Proofs.Traffic.Standing

set_option autoImplicit false

namespace MailRelay

theorem QueueCall.delivered_of_settle {c : QueueCall} {id : String} (now : Instant)
    (base : Duration) (m : Message) (settled : c.settled? = some id)
    (delivered : (c.settle now base m).status = .delivered) : c = .markDelivered id := by
  cases c with
  | enqueue | dequeue => cases settled
  | markDelivered => rw [Option.some.inj settled]
  | markFailed _ reason retry => cases retry <;> cases delivered
  | release => cases delivered

namespace Worker

/-- The host that a worker waits for, and the message that it hands to it. -/
def offer? : Worker → Option (String × Message)
  | trying m (.delivering host _) _ => some (host, m)
  | _ => none

/-- The message that an exchanger has accepted, until that is booked. -/
def accepted? : Worker → Option Message
  | trying m (.decided (.ok ())) _ => some m
  | _ => none

variable {s : WorkerSettings} {h h' : Hub} {clock : Clock} {w w' : Worker} {e : WorkerEvent}
  {m : Message} {host : String}

theorem mem_held_of_offer? (offers : w.offer? = some (host, m)) : m ∈ w.held := by
  unfold offer? at offers
  split at offers <;> cases offers
  exact List.mem_cons_self

theorem mem_held_of_accepted? (accepted : w.accepted? = some m) : m ∈ w.held := by
  unfold accepted? at accepted
  split at accepted <;> cases accepted
  exact List.mem_cons_self

theorem offer?_of_accepted? (accepted : w.accepted? = some m) : w.offer? = none := by
  unfold accepted? at accepted
  split at accepted <;> cases accepted
  rfl

theorem accepted?_of_books? (books : w.books? e = some (m, .ok ())) : w.accepted? = some m := by
  unfold books? at books
  split at books <;> cases books
  rfl

theorem books?_of_accepted? (accepted : w.accepted? = some m)
    (stepped : w.step s h clock e = some (h', w')) :
    e = .proceed ∧ w.books? e = some (m, .ok ()) := by
  unfold accepted? at accepted
  split at accepted <;> cases accepted
  cases e <;> first | exact ⟨rfl, rfl⟩ | cases stepped

theorem step_of_accepted? (accepted : w.accepted? = some m) (s : WorkerSettings) (h : Hub)
    (clock : Clock) : ∃ next, w.step s h clock .proceed = some next := by
  unfold accepted? at accepted
  split at accepted <;> cases accepted
  exact ⟨_, rfl⟩

theorem offer?_of_handed (stepped : w.step s h clock (.handed (.ok ())) = some (h', w')) :
    h' = h ∧ ∃ host m, w.offer? = some (host, m) ∧ w'.accepted? = some m := by
  cases w with
  | trying m attempt rest =>
    cases attempt with
    | delivering host others =>
      simp only [step] at stepped
      split at stepped <;> cases stepped
      exact ⟨rfl, host, m, rfl, rfl⟩
    | _ => cases stepped
  | _ => cases stepped

-- Neither an answer about a domain nor the cache makes an attempt succeed.
theorem turnTo_ne_ok (domain : String) (hosts : List Exchanger) :
    Attempt.turnTo domain hosts ≠ .decided (.ok ()) := by
  cases hosts <;> simp [Attempt.turnTo, Attempt.failed]

theorem start_ne_ok (cancelled : Bool) (cache : ExchangerCache) (now : Nat) (m : Message) :
    (Attempt.start cancelled cache now m).1 ≠ .decided (.ok ()) := by
  unfold Attempt.start
  split
  · simp [Attempt.failed]
  split
  · simp [Attempt.failed]
  split
  · simp [Attempt.failed]
  split
  · exact turnTo_ne_ok _ _
  · simp

theorem resolved_ne_ok {cache cache' : ExchangerCache} {now : Nat} {domain : String}
    {answer : Except DnsError (List Exchanger)} {attempt : Attempt}
    (resolved : Attempt.resolved? cache now domain answer = some (attempt, cache')) :
    attempt ≠ .decided (.ok ()) := by
  cases answer with
  | ok hosts =>
    obtain ⟨stored, -, same⟩ := Option.map_eq_some_iff.1 resolved
    cases same
    exact turnTo_ne_ok domain hosts
  | error e =>
    cases resolved
    simp [Attempt.failed]

theorem handed_eq_ok {others : List String} {result : Except TransportError Unit}
    (accepts : Attempt.handed others result = .decided (.ok ())) : result = .ok () := by
  cases result with
  | ok => rfl
  | error e => cases others <;> simp [Attempt.handed, Attempt.failed] at accepts

theorem handed_of_accepted? (stepped : w.step s h clock e = some (h', w'))
    (accepted : w'.accepted? = some m) :
    e = .handed (.ok ()) ∧ ∃ host, w.offer? = some (host, m) := by
  unfold accepted? at accepted
  split at accepted <;> cases accepted
  unfold step at stepped
  split at stepped
  · cases stepped
  · split at stepped <;> cases stepped
  · next batch =>
    cases batch with
    | nil => cases stepped
    | cons m rest =>
      rw [begin] at stepped
      split at stepped <;> cases stepped
  · simp only [Option.some.injEq, Prod.mk.injEq, trying.injEq] at stepped
    exact absurd stepped.2.2.1 (start_ne_ok _ _ _ _)
  · split at stepped
    · cases stepped
    split at stepped
    · next resolved =>
      simp only [Option.some.injEq, Prod.mk.injEq, trying.injEq] at stepped
      exact absurd stepped.2.2.1 (resolved_ne_ok resolved)
    · cases stepped
  · split at stepped
    · cases stepped
    · simp only [Option.some.injEq, Prod.mk.injEq, trying.injEq] at stepped
      obtain ⟨-, rfl, accepts, -⟩ := stepped
      rw [handed_eq_ok accepts]
      exact ⟨rfl, _, rfl⟩
  · cases stepped
  · split at stepped <;> simp [Attempt.failed] at stepped
  · split at stepped <;> simp [Attempt.failed] at stepped
  · cases stepped
  · cases stepped

end Worker

namespace Standing

variable {w : WorkerSettings} {now : Instant} {s s' : Standing}
  {booked : Option (Message × Except AttemptError Unit)} {id : String}

theorem untouched_of_call {m : Message} {c : QueueCall} (sound : s.Sound)
    (settled : c.settled? = some m.id) (other : id ≠ m.id) :
    (s.call now c).spool.history id = s.spool.history id ∧
      (s.call now c).spool.queue.get? id = s.spool.queue.get? id := by
  rw [call]
  rcases Spool.settles_or_misses now sound.filed settled with
    ⟨-, missed⟩ | ⟨entry, after, named, -, called, settles⟩
  · rw [missed]
    exact ⟨rfl, rfl⟩
  · rw [called, settles.history, settles.get?, named, if_neg other, if_neg other]
    exact ⟨rfl, rfl⟩

theorem untouched_of_turn (sound : s.Sound) (custody : s.Custody id) (entered : id ∈ s.ids)
    (started : ∀ m, s.spool.queue.get? id = some m → m.status ≠ .queued)
    (kept : ∀ m ∈ s.held, m.id = id → m ∈ s'.held) (turn : s.Turn w now booked s')
    (once : s'.ids.count id ≤ 1) :
    s'.spool.history id = s.spool.history id ∧
      s'.spool.queue.get? id = s.spool.queue.get? id := by
  -- A worker that lets go of a message was the only one to hold it.
  have elsewhere {m : Message} {held : Multiset Message} (holds : s.held = m ::ₘ held)
      (kept : ∀ m ∈ s.held, m.id = id → m ∈ held) : id ≠ m.id := by
    rintro rfl
    have free := (holds ▸ custody : MailRelay.Custody (m ::ₘ held) s.spool.queue m.id).free
    have again := kept m (holds ▸ Multiset.mem_cons_self m held) rfl
    exact Multiset.filter_eq_nil.1 free m again rfl
  cases turn with
  | rest | begin | count | tally => exact ⟨rfl, rfl⟩
  | accept m called =>
    have other : id ≠ m.id := by
      rintro rfl
      have before := List.count_pos_iff.2 entered
      simp only [ids, List.map_append, List.count_append, List.map_cons, List.map_nil,
        List.count_singleton_self] at before once
      omega
    rw [Spool.history_letIn, Spool.get?_letIn, if_neg other, if_neg other.symm]
    exact ⟨rfl, rfl⟩
  | poll =>
    have undue : id ∉ s.spool.queue.due now w.batchSize := by
      intro due
      obtain ⟨-, m, found, queued, -⟩ := Queue.of_mem_due due
      exact started m found queued
    simp only [call, Spool.history_call_dequeue s.spool now sound.filed undue,
      Spool.queue_call_dequeue, Queue.get?_dequeue, if_neg undue, and_self]
  | release m held holds =>
    exact untouched_of_call sound (c := .release m.id) rfl (elsewhere holds kept)
  | book m outcome held current holds busy =>
    exact untouched_of_call sound (settled?_booking w m outcome) (elsewhere holds kept)

theorem delivered_of_turn (sound : s.Sound) (turn : s.Turn w now booked s') {r : Message}
    (shown : r ∈ s'.spool.journal) (delivered : r.status = .delivered) :
    r ∈ s.spool.journal ∨ ∃ m, booked = some (m, .ok ()) ∧ m.id = r.id := by
  have settle {about : String} {c : QueueCall} (settled : c.settled? = some about)
      (shown : r ∈ (s.spool.call now c).1.journal) :
      r ∈ s.spool.journal ∨ c = .markDelivered r.id := by
    rcases Spool.settles_or_misses now sound.filed settled with
      ⟨-, missed⟩ | ⟨entry, after, named, -, called, settles⟩
    · rw [missed] at shown
      exact .inl shown
    · rw [called, settles.journal] at shown
      rcases List.mem_cons.1 shown with rfl | old
      · refine .inr ?_
        rw [QueueCall.id_settle, named]
        exact c.delivered_of_settle now _ _ settled delivered
      · exact .inl old
  cases turn with
  | rest | begin | count | tally => exact .inl shown
  | accept m called =>
    rcases List.mem_cons.1 shown with rfl | old
    · cases delivered
    · exact .inl old
  | poll =>
    rw [call, Spool.journal_call_dequeue, List.mem_append, List.mem_reverse] at shown
    refine .inl (shown.resolve_left fun taken => ?_)
    obtain ⟨-, sent⟩ := (Queue.mem_dequeue_iff sound.filed w.batchSize now).1 taken
    obtain ⟨old, -, rfl⟩ := Option.map_eq_some_iff.1 sent
    cases delivered
  | release m held holds =>
    rcases settle (c := .release m.id) rfl shown with old | ends
    · exact .inl old
    · cases ends
  | book m outcome held current holds busy =>
    rcases settle (settled?_booking w m outcome) shown with old | ends
    · exact .inl old
    · cases outcome with
      | ok => exact .inr ⟨m, rfl, by injection ends⟩
      | error e => cases ends

theorem delivered_of_booked {m : Message} (sound : s.Sound) (custody : s.Custody m.id)
    (turn : s.Turn w now (some (m, .ok ())) s') :
    m.id ∈ s'.ids ∧ s'.spool.queue.get? m.id = none ∧
      s'.spool.history m.id = Backlog.delivered now m :: s.spool.history m.id := by
  cases turn with
  | book _ _ held current holds busy =>
    have taken : m ∈ s.held := holds ▸ Multiset.mem_cons_self m held
    obtain ⟨stored, -⟩ := custody.of_mem taken
    have entered : m.id ∈ s.ids := (sound.stored stored).entered
    obtain ⟨entry, after, rfl, called, settles⟩ :=
      MailRelay.Custody.call_settles (c := .markDelivered m.id) rfl now custody taken
    simp only [call, Hub.booking, called, settles.get?, settles.history, QueueCall.isFinal, if_true]
    exact ⟨entered, trivial, rfl⟩

end Standing

namespace Traffic

def history (t : Traffic) (id : String) : List Message := t.hub.spool.history id

def offer? (t : Traffic) (i : Nat) : Option (String × Message) :=
  t.workers[i]?.bind (·.offer?)

inductive Entrusted (i : Nat) (m : Message) (shown : List Message) (t : Traffic) : Prop where
  | pending (w : Worker) (placed : t.workers[i]? = some w) (accepted : w.accepted? = some m)
      (same : t.history m.id = shown)
  | booked (now : Instant) (entered : m.id ∈ t.ids) (left : t.queue.get? m.id = none)
      (shows : t.history m.id = Backlog.delivered now m :: shown)

variable {rules : TrafficRules} {t t' : Traffic} {clock : Clock} {move : Move} {i : Nat}
  {w : Worker} {m : Message} {shown : List Message}

theorem acted_of_work {e : WorkerEvent} (worked : t.work rules clock i e = some t') :
    ∃ w w', t.workers[i]? = some w ∧ w.step rules.worker t.hub clock e = some (t'.hub, w') ∧
      t'.workers = t.workers.set i w' := by
  obtain ⟨w, placed, rest⟩ := Option.bind_eq_some_iff.1 worked
  obtain ⟨⟨hub, w'⟩, acted, made⟩ := Option.bind_eq_some_iff.1 rest
  obtain rfl := Option.some.inj made
  exact ⟨w, w', placed, acted, rfl⟩

theorem placed_of_step (placed : t.workers[i]? = some w)
    (stepped : t.step rules clock move = some t') :
    t'.workers[i]? = some w ∨ ∃ e, move = .work i e := by
  cases move with
  | join =>
    cases stepped
    exact .inl (List.getElem?_append_left (List.getElem?_eq_some_iff.1 placed).1 ▸ placed)
  | work j e =>
    obtain ⟨_, _, -, -, workers⟩ := acted_of_work stepped
    by_cases same : i = j
    · exact .inr ⟨e, same ▸ rfl⟩
    · rw [workers, List.getElem?_set_ne (Ne.symm same)]
      exact .inl placed
  | submit n =>
    obtain rfl := Option.some.inj stepped
    rw [workers_submit]
    exact .inl placed
  | count =>
    rw [step] at stepped
    split at stepped <;> cases stepped
    exact .inl placed
  | raise =>
    cases stepped
    exact .inl placed

theorem mem_held_of_placed (placed : t.workers[i]? = some w) (holds : m ∈ w.held) : m ∈ t.held :=
  List.mem_flatMap.2 ⟨w, List.mem_of_getElem? placed, holds⟩

-- What one worker holds, no other worker holds.
theorem eq_of_placed {j : Nat} {v : Worker} {n : Message} (once : (t.held.map (·.id)).Nodup)
    (placed : t.workers[i]? = some w) (holds : m ∈ w.held) (other : t.workers[j]? = some v)
    (takes : n ∈ v.held) (same : n.id = m.id) : i = j := by
  rw [held, List.map_flatMap, List.nodup_flatMap] at once
  have apart {i j : Nat} {w v : Worker} {m n : Message} (before : i < j)
      (placed : t.workers[i]? = some w) (holds : m ∈ w.held) (other : t.workers[j]? = some v)
      (takes : n ∈ v.held) : m.id ≠ n.id := by
    obtain ⟨within, rfl⟩ := List.getElem?_eq_some_iff.1 placed
    obtain ⟨within', rfl⟩ := List.getElem?_eq_some_iff.1 other
    have disjoint := List.pairwise_iff_getElem.1 once.2 i j within within' before
    intro named
    exact disjoint (List.mem_map_of_mem holds) (named ▸ List.mem_map_of_mem takes)
  rcases Nat.lt_trichotomy i j with before | rfl | after
  · exact absurd same.symm (apart before placed holds other takes)
  · rfl
  · exact absurd same (apart after other takes placed holds)

theorem delivered_of_work {e : WorkerEvent} (sound : t.standing.Sound)
    (custody : t.standing.Custody m.id) (placed : t.workers[i]? = some w)
    (accepted : w.accepted? = some m) (stepped : t.step rules clock (.work i e) = some t') :
    m.id ∈ t'.ids ∧ t'.queue.get? m.id = none ∧
      t'.history m.id = Backlog.delivered clock.wall m :: t.history m.id := by
  obtain ⟨v, w', placed', acted, -⟩ := acted_of_work stepped
  obtain rfl := Option.some.inj (placed.symm.trans placed')
  obtain ⟨rfl, books⟩ := Worker.books?_of_accepted? accepted acted
  have booked : t.books? (.work i .proceed) = some (m, .ok ()) := by
    simp [Traffic.books?, placed, books]
  have turn := turn_of_step stepped
  rw [booked] at turn
  exact Standing.delivered_of_booked sound custody turn

theorem step_of_accepted (placed : t.workers[i]? = some w) (accepted : w.accepted? = some m)
    (rules : TrafficRules) (clock : Clock) :
    ∃ next, t.step rules clock (.work i .proceed) = some next := by
  obtain ⟨next, acted⟩ := Worker.step_of_accepted? accepted rules.worker t.hub clock
  simp [step, work, placed, acted]

theorem accepted_of_books (books : t.books? move = some (m, .ok ())) :
    ∃ w ∈ t.workers, w.accepted? = some m := by
  cases move with
  | work i e =>
    obtain ⟨w, placed, books⟩ := Option.bind_eq_some_iff.1 books
    exact ⟨w, List.mem_of_getElem? placed, Worker.accepted?_of_books? books⟩
  | _ => cases books

-- Only the word of an exchanger makes a worker take a message for accepted.
theorem told_of_step (stepped : t.step rules clock move = some t') (working : w ∈ t'.workers)
    (accepted : w.accepted? = some m) :
    w ∈ t.workers ∨
      ∃ i host, move = .work i (.handed (.ok ())) ∧ t.offer? i = some (host, m) := by
  cases move with
  | join =>
    cases stepped
    rcases List.mem_append.1 working with old | new
    · exact .inl old
    · obtain rfl := List.mem_singleton.1 new
      cases accepted
  | work i e =>
    obtain ⟨v, v', placed, acted, workers⟩ := acted_of_work stepped
    rw [workers] at working
    rcases List.mem_or_eq_of_mem_set working with old | rfl
    · exact .inl old
    · obtain ⟨rfl, host, offers⟩ := Worker.handed_of_accepted? acted accepted
      refine .inr ⟨i, host, rfl, ?_⟩
      rw [offer?, placed]
      exact offers
  | submit n =>
    obtain rfl := Option.some.inj stepped
    rw [workers_submit] at working
    exact .inl working
  | count =>
    rw [step] at stepped
    split at stepped <;> cases stepped
    exact .inl working
  | raise =>
    cases stepped
    exact .inl working

namespace Entrusted

theorem no_offer (entrusted : t.Entrusted i m shown) (custody : ∀ id, t.standing.Custody id)
    {j : Nat} {host : String} {n : Message} (offers : t.offer? j = some (host, n)) :
    n.id ≠ m.id := by
  intro named
  obtain ⟨v, other, offers⟩ := Option.bind_eq_some_iff.1 offers
  have takes := Worker.mem_held_of_offer? offers
  cases entrusted with
  | pending w placed accepted same =>
    have once : (t.held.map (·.id)).Nodup := Custody.nodup_held fun id => by
      rw [← standing_held]
      exact custody id
    obtain rfl := eq_of_placed once placed (Worker.mem_held_of_accepted? accepted) other takes named
    obtain rfl := Option.some.inj (placed.symm.trans other)
    rw [Worker.offer?_of_accepted? accepted] at offers
    cases offers
  | booked now entered left shows =>
    have taken := mem_standing_held.2 (mem_held_of_placed other takes)
    obtain ⟨stored, -⟩ := Custody.of_mem (custody n.id) taken
    rw [named] at stored
    cases left.symm.trans stored

theorem step (entrusted : t.Entrusted i m shown) (sound : t.standing.Sound)
    (custody : t.standing.Custody m.id) (stepped : t.step rules clock move = some t')
    (fresh : t'.ids.Nodup) : t'.Entrusted i m shown := by
  have once := List.nodup_iff_count_le_one.1 fresh m.id
  have turn := turn_of_step stepped
  cases entrusted with
  | pending w placed accepted same =>
    have mine := Worker.mem_held_of_accepted? accepted
    obtain ⟨stored, sending⟩ := Custody.of_mem custody
      (mem_standing_held.2 (mem_held_of_placed placed mine))
    rcases placed_of_step placed stepped with still | ⟨e, rfl⟩
    · have started (n : Message) (found : t.queue.get? m.id = some n) : n.status ≠ .queued := by
        obtain rfl := Option.some.inj (stored.symm.trans found)
        simp [sending]
      have kept (n : Message) (holds : n ∈ t.standing.held) (named : n.id = m.id) :
          n ∈ t'.standing.held := by
        -- Whoever holds a message of this identifier holds the stored one, which is `m`.
        have found := (Custody.of_mem (named.symm ▸ custody) holds).1
        rw [named] at found
        obtain rfl := Option.some.inj (stored.symm.trans found)
        exact mem_standing_held.2 (mem_held_of_placed still mine)
      obtain ⟨quiet, -⟩ := Standing.untouched_of_turn sound custody (sound.stored stored).entered
        started kept turn once
      exact .pending w still accepted (quiet.trans same)
    · obtain ⟨entered, left, shows⟩ := delivered_of_work sound custody placed accepted stepped
      exact .booked clock.wall entered left (same ▸ shows)
  | booked now entered left shows =>
    have gone (n : Message) (found : t.queue.get? m.id = some n) : False := by
      cases left.symm.trans found
    have unheld (n : Message) (holds : n ∈ t.standing.held) (named : n.id = m.id) : False := by
      have found := (Custody.of_mem (named.symm ▸ custody) holds).1
      rw [named] at found
      exact gone n found
    obtain ⟨quiet, stays⟩ := Standing.untouched_of_turn sound custody entered
      (fun n found => (gone n found).elim) (fun n holds named => (unheld n holds named).elim) turn
      once
    exact .booked now ((Standing.sublist_ids_of_turn turn).subset entered) (stays.trans left)
      (quiet.trans shows)

end Entrusted

section

variable {capacity : Nat} {retryDelay cacheTtl : Duration} {moves : List (Clock × Move)}

theorem entrusted_of_run {before after : List (Clock × Move)} {told : Clock}
    (ran : (opening capacity retryDelay cacheTtl).run rules
      (before ++ (told, .work i (.handed (.ok ()))) :: after) = some t) (fresh : t.ids.Nodup) :
    ∃ ahead host m, (opening capacity retryDelay cacheTtl).run rules before = some ahead ∧
      ahead.offer? i = some (host, m) ∧ t.Entrusted i m (ahead.history m.id) := by
  rw [run_append] at ran
  obtain ⟨ahead, earlier, rest⟩ := Option.bind_eq_some_iff.1 ran
  obtain ⟨next, heard, later⟩ := Option.bind_eq_some_iff.1 rest
  obtain ⟨w, w', placed, acted, workers⟩ := acted_of_work heard
  obtain ⟨same, host, m, offers, accepted⟩ := Worker.offer?_of_handed acted
  refine ⟨ahead, host, m, earlier, ?_, ?_⟩
  · rw [offer?, placed]
    exact offers
  · refine run_induction (P := fun _ t => t.ids.Nodup → t.Entrusted i m (ahead.history m.id))
      (fun _ => ?_) (fun {moves t clock move t'} since entrusted stepped fresh => ?_) later fresh
    · refine .pending w' ?_ accepted (congrArg (·.spool.history m.id) same)
      rw [workers]
      exact List.getElem?_set_self (List.getElem?_eq_some_iff.1 placed).1
    · have whole : (opening capacity retryDelay cacheTtl).run rules
          (before ++ (told, .work i (.handed (.ok ()))) :: moves) = some t := by
        rw [run_append, earlier, Option.bind_some, run, heard]
        exact since
      have once := fresh.sublist (Standing.sublist_ids_of_turn (turn_of_step stepped))
      have custody := custody_of_run whole (List.nodup_iff_count_le_one.1 once m.id)
      rw [← standing_held] at custody
      exact (entrusted once).step (sound_of_run whole) custody stepped fresh

def Heard (rules : TrafficRules) (start : Traffic) (moves : List (Clock × Move)) (id : String) :
    Prop :=
  ∃ before told i after ahead host m,
    moves = before ++ (told, .work i (.handed (.ok ()))) :: after ∧
    start.run rules before = some ahead ∧ ahead.offer? i = some (host, m) ∧ m.id = id

theorem Heard.append {start : Traffic} {id : String} (heard : Heard rules start moves id)
    (more : List (Clock × Move)) : Heard rules start (moves ++ more) id := by
  obtain ⟨before, told, i, after, ahead, host, m, rfl, rest⟩ := heard
  exact ⟨before, told, i, after ++ more, ahead, host, m, by simp, rest⟩

theorem heard_of_run (ran : (opening capacity retryDelay cacheTtl).run rules moves = some t) :
    (∀ w ∈ t.workers, ∀ m, w.accepted? = some m →
      Heard rules (opening capacity retryDelay cacheTtl) moves m.id) ∧
    ∀ r ∈ t.hub.spool.journal, r.status = .delivered →
      Heard rules (opening capacity retryDelay cacheTtl) moves r.id := by
  refine run_induction (P := fun moves t => (∀ w ∈ t.workers, ∀ m, w.accepted? = some m →
      Heard rules (opening capacity retryDelay cacheTtl) moves m.id) ∧
    ∀ r ∈ t.hub.spool.journal, r.status = .delivered →
      Heard rules (opening capacity retryDelay cacheTtl) moves r.id)
    ⟨List.forall_mem_nil _, List.forall_mem_nil _⟩
    (fun {moves t clock move t'} ran before stepped => ?_) ran
  obtain ⟨pending, shown⟩ := before
  constructor
  · intro w working m accepted
    rcases told_of_step stepped working accepted with still | ⟨i, host, rfl, offers⟩
    · exact (pending w still m accepted).append _
    · exact ⟨moves, clock, i, [], t, host, m, rfl, ran, offers, rfl⟩
  · intro r member delivered
    have sound : t.standing.Sound := sound_of_run ran
    rcases Standing.delivered_of_turn sound (turn_of_step stepped) member delivered with
      old | ⟨m, booked, named⟩
    · exact (shown r old delivered).append _
    · obtain ⟨w, working, accepted⟩ := accepted_of_books booked
      rw [← named]
      exact (pending w working m accepted).append _

theorem accepted_messages_are_delivered_once
    (ran : (opening capacity retryDelay cacheTtl).run rules moves = some t) (fresh : t.ids.Nodup) :
    (∀ before told i after, moves = before ++ (told, .work i (.handed (.ok ()))) :: after →
      ∃ ahead host m, (opening capacity retryDelay cacheTtl).run rules before = some ahead ∧
        ahead.offer? i = some (host, m) ∧
        (∀ j host n, t.offer? j = some (host, n) → n.id ≠ m.id) ∧
        -- The next snapshot that is shown of the message is the last one.
        ((∃ now, t.history m.id = Backlog.delivered now m :: ahead.history m.id) ∨
          t.history m.id = ahead.history m.id ∧
            ∀ clock, ∃ next, t.step rules clock (.work i .proceed) = some next ∧
              next.history m.id = Backlog.delivered clock.wall m :: ahead.history m.id)) ∧
    ∀ r ∈ t.hub.spool.journal, r.status = .delivered →
      ∃ before told i after ahead host m,
        moves = before ++ (told, .work i (.handed (.ok ()))) :: after ∧
        (opening capacity retryDelay cacheTtl).run rules before = some ahead ∧
        ahead.offer? i = some (host, m) ∧ m.id = r.id := by
  have custody (id : String) : t.standing.Custody id := by
    rw [Standing.Custody, standing_held]
    exact custody_of_run ran (List.nodup_iff_count_le_one.1 fresh id)
  refine ⟨?_, (heard_of_run ran).2⟩
  rintro before told i after rfl
  obtain ⟨ahead, host, m, earlier, offers, entrusted⟩ := entrusted_of_run ran fresh
  refine ⟨ahead, host, m, earlier, offers, fun j host n => entrusted.no_offer custody, ?_⟩
  cases entrusted with
  | booked now entered left shows => exact .inl ⟨now, shows⟩
  | pending w placed accepted same =>
    refine .inr ⟨same, fun clock => ?_⟩
    obtain ⟨next, stepped⟩ := step_of_accepted placed accepted rules clock
    obtain ⟨-, -, shows⟩ :=
      delivered_of_work (sound_of_run ran) (custody m.id) placed accepted stepped
    exact ⟨next, stepped, same ▸ shows⟩

end

-- The first of two exchangers fails, the second one accepts the message.
theorem second_exchanger_is_the_last_one_offered_a_message :
    let now : Clock := ⟨.min, 0⟩
    let before := [(now, .join), (now, .submit (note "m")), (now, .work 0 .poll),
      (now, .work 0 .proceed), (now, .work 0 .proceed),
      (now, .work 0 (.resolved (.ok [⟨"a.example.org", 1⟩, ⟨"b.example.org", 2⟩]))),
      (now, .work 0 (.handed (.error .cancelled)))]
    let after := [(now, .work 0 .proceed), (now, .work 0 .proceed), (now, .work 0 .proceed),
      (now, .work 0 .poll)]
    ∃ ahead t, (opening 1 .zero .zero).run ⟨.default, ⟨1, 3⟩⟩ before = some ahead ∧
      (opening 1 .zero .zero).run ⟨.default, ⟨1, 3⟩⟩
        (before ++ (now, .work 0 (.handed (.ok ()))) :: after) = some t ∧ t.ids.Nodup ∧
      (∀ j host n, t.offer? j = some (host, n) → n.id ≠ "m") ∧
      ∃ told m, t.history "m" = Backlog.delivered told m :: ahead.history "m" := by
  intro now before after
  have first : ((opening 1 .zero .zero).run ⟨.default, ⟨1, 3⟩⟩ before).map (fun ahead =>
      ((ahead.offer? 0).map (·.2.id), (ahead.history "m").map (·.status))) =
        some (some "m", [.sending, .queued]) := by decide
  have last : ((opening 1 .zero .zero).run ⟨.default, ⟨1, 3⟩⟩
      (before ++ (now, .work 0 (.handed (.ok ()))) :: after)).map (fun t =>
        (t.ids, (t.history "m").map (·.status))) =
        some (["m"], [.delivered, .sending, .queued]) := by decide
  obtain ⟨ahead, earlier, facts⟩ := Option.map_eq_some_iff.1 first
  obtain ⟨offered, seen⟩ := Prod.mk.inj facts
  obtain ⟨t, ran, facts⟩ := Option.map_eq_some_iff.1 last
  obtain ⟨ids, shown⟩ := Prod.mk.inj facts
  have fresh : t.ids.Nodup := ids ▸ List.nodup_singleton "m"
  obtain ⟨ahead', host, m, earlier', offers, no_more, fate⟩ :=
    (accepted_messages_are_delivered_once ran fresh).1 before now 0 after rfl
  obtain rfl := Option.some.inj (earlier.symm.trans earlier')
  have named : m.id = "m" := by simpa [offers] using offered
  rw [named] at no_more fate
  refine ⟨ahead, t, earlier, ran, fresh, no_more, ?_⟩
  rcases fate with ⟨told, shows⟩ | ⟨same, -⟩
  · exact ⟨told, m, shows⟩
  · simp [same, seen] at shown

end Traffic

end MailRelay
