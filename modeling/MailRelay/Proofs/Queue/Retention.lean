import MailRelay.Api.Service
import MailRelay.Relay
import MailRelay.Proofs.Queue.History
import MailRelay.Proofs.Traffic.Custody

set_option autoImplicit false

namespace MailRelay

theorem Instant.lt_min (t : Instant) : t.lt .min = false := by
  simp [lt, min, Int.not_lt.2 t.lower]

def Message.isExpired (now : Instant) (retention : Duration) (r : Message) : Bool :=
  r.status.isTerminal && (now.sub? retention).any r.updatedAt.lt

theorem Message.not_isExpired {r : Message} (active : r.status = .queued ∨ r.status = .sending)
    (now : Instant) (retention : Duration) : r.isExpired now retention = false := by
  rcases active with queued | sending
  · simp [isExpired, queued, Status.isTerminal]
  · simp [isExpired, sending, Status.isTerminal]

namespace Tracker

-- No record is older than the first instant, which stands for a limit before it.
theorem isStale_eq (now : Instant) (retention : Duration) (r : Message) :
    isStale ((now.sub? retention).getD .min) r = r.isExpired now retention := by
  cases limit : now.sub? retention <;> simp [isStale, Message.isExpired, limit, Instant.lt_min]

variable (t : Tracker) (retention : Duration) (now : Instant)

theorem get?_prune (id : String) :
    (t.prune retention now).1.get? id = (t.get? id).filter (!·.isExpired now retention) := by
  simp only [get?, prune, SortedMap.get?_filter, isStale_eq]

theorem prune_count :
    (t.prune retention now).2 = t.records.values.countP (·.isExpired now retention) := by
  have parts := t.records.entries.length_eq_countP_add_countP
    (p := fun e => !e.2.isExpired now retention)
  simp only [prune, isStale_eq, size, SortedMap.size, SortedMap.filter, SortedMap.values,
    List.countP_map, ← List.countP_eq_length_filter, parts]
  simp [Function.comp_def]

end Tracker

inductive SpoolStep where
  | call (c : QueueCall)
  | prune (retention : Duration)

namespace Spool

def step (s : Spool) (now : Instant) : SpoolStep → Spool
  | .call c => (s.call now c).1
  | .prune retention => { s with tracker := (s.tracker.prune retention now).1 }

theorem spool_upkeep (h : Hub) (settings : StatusSettings) (clock : Clock) :
    (h.upkeep settings clock).1.spool = h.spool.step clock.wall (.prune settings.retention) := rfl

def follow (s : Spool) (steps : List (Instant × SpoolStep)) : Spool :=
  steps.foldl (fun s step => s.step step.1 step.2) s

theorem follow_cons (s : Spool) (now : Instant) (first : SpoolStep)
    (rest : List (Instant × SpoolStep)) :
    s.follow ((now, first) :: rest) = (s.step now first).follow rest := rfl

theorem follow_append (s : Spool) (first second : List (Instant × SpoolStep)) :
    s.follow (first ++ second) = (s.follow first).follow second :=
  List.foldl_append ..

/-- What has happened to a message between two states: its history grew at the front or is the same,
and the tracker has the latest snapshot if there is a new one. -/
structure Advances (id : String) (s s' : Spool) : Prop where
  grown : s.history id <:+ s'.history id
  kept : s'.history id = s.history id → s'.tracker.get? id = s.tracker.get? id
  shown : s'.history id ≠ s.history id → s'.tracker.get? id = s'.record? id

namespace Advances

variable {s s' s'' : Spool} {id : String}

-- The queue itself is not shown.
theorem requeue (s : Spool) (queue : Queue) : s.Advances id { s with queue } :=
  ⟨List.suffix_rfl, fun _ => rfl, fun new => absurd rfl new⟩

theorem trans (first : s.Advances id s') (second : s'.Advances id s'') : s.Advances id s'' := by
  have grown := first.grown.trans second.grown
  by_cases last : s''.history id = s'.history id
  · have record : s''.record? id = s'.record? id := by rw [record?_eq_head?, last, record?_eq_head?]
    refine ⟨grown, fun same => ?_, fun new => ?_⟩
    · rw [second.kept last, first.kept (last.symm.trans same)]
    · rw [second.kept last, record, first.shown (last ▸ new)]
  · refine ⟨grown, fun same => absurd ?_ last, fun _ => second.shown last⟩
    -- A history that comes back to what it was has not grown in between.
    have length : (s''.history id).length ≤ (s'.history id).length := same ▸ first.grown.length_le
    exact (second.grown.eq_of_length_le length).symm

theorem notify (s : Spool) (m : Message) : s.Advances id (s.notify m) := by
  have history := history_notify s m id
  have tracker : (s.notify m).tracker.get? id =
      if id = m.id then some m else s.tracker.get? id := SortedMap.get?_insert ..
  by_cases same : m.id = id
  · rw [if_pos same] at history
    rw [if_pos same.symm] at tracker
    refine ⟨history ▸ List.suffix_cons .., fun kept => ?_, fun _ => ?_⟩
    · simp [history] at kept
    · rw [tracker, record?_notify, if_pos same]
  · rw [if_neg same] at history
    rw [if_neg (Ne.symm same)] at tracker
    exact ⟨history ▸ List.suffix_rfl, fun _ => tracker, fun new => absurd history new⟩

theorem call (s : Spool) (now : Instant) (c : QueueCall) : s.Advances id (s.call now c).1 := by
  have settle (outcome : Except QueueError (Queue × Message)) :
      s.Advances id (s.settle outcome).1 := by
    cases outcome with
    | error e => exact requeue s s.queue
    | ok changed => exact (requeue s changed.1).trans (notify _ changed.2)
  cases c with
  | dequeue max =>
    have all (batch : List Message) (s : Spool) : s.Advances id (batch.foldl Spool.notify s) := by
      induction batch generalizing s with
      | nil => exact requeue s s.queue
      | cons m rest ih => exact (notify s m).trans (ih _)
    exact (requeue s (s.queue.dequeue max now).1).trans (all _ _)
  | _ => exact settle _

end Advances

theorem history_grows (s : Spool) (steps : List (Instant × SpoolStep)) (id : String) :
    s.history id <:+ (s.follow steps).history id := by
  induction steps generalizing s with
  | nil => exact List.suffix_rfl
  | cons first rest ih =>
    obtain ⟨now, step⟩ := first
    apply List.IsSuffix.trans _ (ih _)
    cases step with
    | call c => exact (Advances.call s now c).grown
    | prune retention => exact List.suffix_rfl

/-- Since the last snapshot of a message was shown, it was once found old enough to be forgotten. -/
def Forgotten (start : Spool) (steps : List (Instant × SpoolStep)) (id : String) : Prop :=
  ∃ before now retention after r, steps = before ++ (now, .prune retention) :: after ∧
    (start.follow before).history id = (start.follow steps).history id ∧
    (start.follow steps).record? id = some r ∧ r.isExpired now retention

section

variable {start : Spool} {steps : List (Instant × SpoolStep)} {id : String}

theorem forgotten_snoc_iff (now : Instant) (last : SpoolStep) :
    start.Forgotten (steps ++ [(now, last)]) id ↔
      (∃ retention r, last = .prune retention ∧ (start.follow steps).record? id = some r ∧
        r.isExpired now retention) ∨
      ((start.follow steps).step now last).history id = (start.follow steps).history id ∧
        start.Forgotten steps id := by
  have whole : start.follow (steps ++ [(now, last)]) = (start.follow steps).step now last :=
    follow_append ..
  constructor
  · rintro ⟨before, moment, retention, after, r, split, same, shown, expired⟩
    rw [whole] at same shown
    rcases List.eq_nil_or_concat after with rfl | ⟨after, final, rfl⟩
    · obtain ⟨rfl, found⟩ := List.append_inj' split rfl
      cases found
      exact .inl ⟨retention, r, rfl, shown, expired⟩
    · rw [List.concat_eq_append, ← List.cons_append, ← List.append_assoc] at split
      obtain ⟨split, -⟩ := List.append_inj' split rfl
      -- What was shown lies between two histories that are the same.
      have early : (start.follow before).history id <:+ (start.follow steps).history id := by
        rw [split, follow_append]
        exact history_grows ..
      have late : (start.follow steps).history id <:+
          ((start.follow steps).step now last).history id :=
        history_grows _ [(now, last)] id
      have still := late.eq_of_length_le (same ▸ early.length_le)
      refine .inr ⟨still.symm, before, moment, retention, after, r, split, same.trans still.symm,
        ?_, expired⟩
      rw [record?_eq_head?, still, ← record?_eq_head?, shown]
  · rintro (⟨retention, r, rfl, shown, expired⟩ |
      ⟨still, before, moment, retention, after, r, rfl, same, shown, expired⟩)
    · rw [Forgotten, whole]
      exact ⟨steps, now, retention, [], r, rfl, rfl, shown, expired⟩
    · refine ⟨before, moment, retention, after ++ [(now, last)], r, by simp, ?_, ?_, expired⟩
      · rw [whole, still, same]
      · rw [whole, record?_eq_head?, still, ← record?_eq_head?, shown]

theorem tracker_of_follow (tracked : start.Tracked) (steps : List (Instant × SpoolStep))
    (id : String) :
    (start.Forgotten steps id → (start.follow steps).tracker.get? id = none) ∧
      (¬ start.Forgotten steps id →
        (start.follow steps).tracker.get? id = (start.follow steps).record? id) := by
  induction steps using List.reverseRecOn with
  | nil =>
    refine ⟨?_, fun _ => tracked id⟩
    rintro ⟨before, now, retention, after, r, split, -⟩
    cases before <;> cases split
  | append_singleton steps last ih =>
    obtain ⟨now, last⟩ := last
    obtain ⟨gone, kept⟩ := ih
    have whole : start.follow (steps ++ [(now, last)]) = (start.follow steps).step now last :=
      follow_append ..
    rw [forgotten_snoc_iff, whole]
    generalize start.follow steps = s at gone kept ⊢
    cases last with
    | call c =>
      have advances : s.Advances id (s.step now (.call c)) := Advances.call s now c
      by_cases still : (s.step now (.call c)).history id = s.history id
      · have record : (s.step now (.call c)).record? id = s.record? id := by
          rw [record?_eq_head?, still, record?_eq_head?]
        rw [advances.kept still, record]
        simpa [still] using And.intro gone kept
      · simpa [still] using advances.shown still
    | prune retention =>
      have found : (s.step now (.prune retention)).tracker.get? id =
          (s.tracker.get? id).filter (!·.isExpired now retention) := Tracker.get?_prune ..
      have record : (s.step now (.prune retention)).record? id = s.record? id := rfl
      have still : (s.step now (.prune retention)).history id = s.history id := rfl
      rw [found, record]
      by_cases before : start.Forgotten steps id
      · simp [still, before, gone before]
      · rw [kept before]
        cases shown : s.record? id with
        | none => simp
        | some r => cases expired : r.isExpired now retention <;> simp [still, before, expired]

end

def Traceable (s : Spool) : Prop := ∃ ids, Sound ids s ∧ ∀ r ∈ s.journal, r.id ∈ ids

theorem traceable_new (capacity : Nat) (retryDelay : Duration) :
    (new capacity retryDelay).Traceable :=
  ⟨[], .opening capacity retryDelay, List.forall_mem_nil _⟩

theorem Traceable.step {s : Spool} (traceable : s.Traceable) (now : Instant) (step : SpoolStep) :
    (s.step now step).Traceable := by
  obtain ⟨ids, sound, listed⟩ := traceable
  have settle {c : QueueCall} {id : String} (settled : c.settled? = some id) :
      (s.call now c).1.Traceable := by
    refine ⟨ids, sound.settle now settled, ?_⟩
    rcases settles_or_misses now sound.filed settled with
      ⟨-, missed⟩ | ⟨entry, after, named, found, called, settles⟩
    · rw [missed]
      exact listed
    · have entered := (sound.stored (Queue.get?_eq_some_iff.2 ⟨entry, found, rfl⟩)).entered
      rw [called, settles.journal, List.forall_mem_cons, QueueCall.id_settle, named]
      exact ⟨entered, listed⟩
  cases step with
  | prune retention => exact ⟨ids, sound.congr rfl rfl, listed⟩
  | call c =>
    cases c with
    | enqueue m =>
      rw [Spool.step, call_enqueue]
      split
      · exact ⟨ids, sound, listed⟩
      · refine ⟨_, sound.letIn now m, List.forall_mem_cons.2 ⟨by simp, fun r shown => ?_⟩⟩
        exact List.mem_append_left _ (listed r shown)
    | dequeue max =>
      refine ⟨ids, sound.poll now max, fun r shown => ?_⟩
      rw [Spool.step, journal_call_dequeue, List.mem_append, List.mem_reverse] at shown
      rcases shown with taken | old
      · obtain ⟨-, sent⟩ := (Queue.mem_dequeue_iff sound.filed max now).1 taken
        obtain ⟨m, found, -⟩ := Option.map_eq_some_iff.1 sent
        exact (sound.stored found).entered
      · exact listed r old
    | markDelivered id => exact settle (c := .markDelivered id) rfl
    | markFailed id reason retry => exact settle (c := .markFailed id reason retry) rfl
    | release id => exact settle (c := .release id) rfl

theorem traceable_of_follow {start : Spool} (traceable : start.Traceable)
    (steps : List (Instant × SpoolStep)) : (start.follow steps).Traceable := by
  induction steps generalizing start with
  | nil => exact traceable
  | cons first rest ih => exact ih (traceable.step first.1 first.2)

theorem left_of_call {s : Spool} (filed : s.queue.Filed) {now : Instant} {c : QueueCall}
    {id : String} {r : Message} (left : (s.call now c).1.queue.get? id = none)
    (shown : (s.call now c).1.record? id = some r) :
    (s.queue.get? id = none ∧ s.record? id = some r) ∨
      c.settled? = some id ∧ c.isFinal = true ∧ ∃ m, s.queue.get? id = some m ∧
        r = c.settle now s.queue.retryDelay m := by
  have settle {about : String} (settled : c.settled? = some about) :
      (s.queue.get? id = none ∧ s.record? id = some r) ∨
        c.settled? = some id ∧ c.isFinal = true ∧ ∃ m, s.queue.get? id = some m ∧
          r = c.settle now s.queue.retryDelay m := by
    rcases settles_or_misses now filed settled with
      ⟨-, missed⟩ | ⟨entry, after, rfl, found, called, settles⟩
    · rw [missed] at left shown
      exact .inl ⟨left, shown⟩
    rw [called, settles.get?] at left
    rw [called, settles.record?] at shown
    by_cases same : id = entry.message.id
    · rw [if_pos same] at left shown
      split at left
      · next final =>
        refine .inr ⟨same ▸ settled, final, entry.message, ?_, (Option.some.inj shown).symm⟩
        exact same ▸ Queue.get?_eq_some_iff.2 ⟨entry, found, rfl⟩
      · cases left
    · rw [if_neg same] at left shown
      exact .inl ⟨left, shown⟩
  cases c with
  | enqueue m =>
    rw [call_enqueue] at left shown
    split at left
    · next full => exact .inl ⟨left, by rwa [if_pos full] at shown⟩
    · next room =>
      rw [if_neg room] at shown
      rw [get?_letIn] at left
      rw [record?_letIn] at shown
      by_cases same : id = m.id
      · simp [same] at left
      · rw [if_neg same] at left
        rw [if_neg (Ne.symm same)] at shown
        exact .inl ⟨left, shown⟩
  | dequeue max =>
    rw [queue_call_dequeue, Queue.get?_dequeue] at left
    rw [record?_call_dequeue now max filed] at shown
    by_cases due : id ∈ s.queue.due now max
    · obtain ⟨-, m, found, -⟩ := Queue.of_mem_due due
      simp [due, found] at left
    · rw [if_neg due] at left shown
      exact .inl ⟨left, shown⟩
  | markDelivered | markFailed | release => exact settle rfl

def Departed (start : Spool) (steps : List (Instant × SpoolStep)) (id : String) (r : Message) :
    Prop :=
  ∃ before now c after m, steps = before ++ (now, .call c) :: after ∧ c.settled? = some id ∧
    c.isFinal = true ∧ (start.follow before).queue.get? id = some m ∧
    r = c.settle now (start.follow before).queue.retryDelay m

theorem departed_of_follow {start : Spool} (traceable : start.Traceable)
    (unshown : ∀ id, start.record? id = none) {steps : List (Instant × SpoolStep)} {id : String}
    {r : Message} (left : (start.follow steps).queue.get? id = none)
    (shown : (start.follow steps).record? id = some r) : start.Departed steps id r := by
  induction steps using List.reverseRecOn with
  | nil => cases (unshown id).symm.trans shown
  | append_singleton steps last ih =>
    obtain ⟨latest, last⟩ := last
    have extend (departed : start.Departed steps id r) :
        start.Departed (steps ++ [(latest, last)]) id r := by
      obtain ⟨before, now, c, after, m, rfl, rest⟩ := departed
      exact ⟨before, now, c, after ++ [(latest, last)], m, by simp, rest⟩
    obtain ⟨ids, sound, -⟩ := traceable_of_follow traceable steps
    rw [follow_append] at left shown
    cases last with
    | prune retention => exact extend (ih left shown)
    | call c =>
      rcases left_of_call sound.filed left shown with ⟨left, shown⟩ | ⟨settled, final, m, rest⟩
      · exact extend (ih left shown)
      · exact ⟨steps, latest, c, [], m, rfl, settled, final, rest⟩

theorem shown_of_accepted {start : Spool} (before after : List (Instant × SpoolStep))
    {now : Instant} {m : Message}
    (accepted : ((start.follow before).call now (.enqueue m)).2 = .done) :
    ∃ r, (start.follow (before ++ (now, .call (.enqueue m)) :: after)).record? m.id = some r := by
  have grown := history_grows ((start.follow before).step now (.call (.enqueue m))) after m.id
  rw [call_enqueue] at accepted
  split at accepted
  · cases accepted
  · next room =>
    rw [step, call_enqueue, if_neg room] at grown
    rw [follow_append, follow_cons, step, call_enqueue, if_neg room, record?_eq_head?]
    obtain ⟨later, whole⟩ := history_letIn (start.follow before) now m m.id ▸ grown
    rw [if_pos rfl] at whole
    cases later <;> simp [← whole]

theorem tracker_knows_every_message_until_it_expires (capacity : Nat) (retryDelay : Duration)
    (steps : List (Instant × SpoolStep)) :
    let start := new capacity retryDelay
    let s := start.follow steps
    -- Messages in the queue are known as they stand there.
    (∀ id m, s.queue.get? id = some m → s.tracker.get? id = some m) ∧
      (∀ id r, s.queue.get? id = none → s.record? id = some r →
        start.Departed steps id r ∧ (r.status = .delivered ∨ r.status = .failed) ∧
        (start.Forgotten steps id → s.tracker.get? id = none) ∧
        (¬ start.Forgotten steps id → s.tracker.get? id = some r)) ∧
      (∀ id, s.record? id = none → s.queue.get? id = none ∧ s.tracker.get? id = none) ∧
      -- Exactly the expired records go, and they are counted.
      (∀ now retention,
        (∀ id r, (s.tracker.prune retention now).1.get? id = some r ↔
          s.tracker.get? id = some r ∧ r.isExpired now retention = false) ∧
        (s.tracker.prune retention now).2 =
          s.tracker.records.values.countP (·.isExpired now retention)) ∧
      -- The status report knows every message that was let in.
      ∀ before now m after, steps = before ++ (now, .call (.enqueue m)) :: after →
        ((start.follow before).call now (.enqueue m)).2 = .done →
        ∃ r, s.record? m.id = some r ∧
          (¬ start.Forgotten steps m.id →
            ∀ (reception : Reception) (segment : String), reception.spool = s →
              Utf8.decode (Route.decodePercent segment.toList) = .ok m.id.toList →
              Api.status reception segment = .json 200 (Api.statusReport r)) := by
  intro start s
  obtain ⟨ids, sound, listed⟩ := traceable_of_follow (traceable_new capacity retryDelay) steps
  have tracker (id : String) := tracker_of_follow (tracked_new capacity retryDelay) steps id
  have active {id : String} {m : Message} (found : s.queue.get? id = some m) :
      ¬ start.Forgotten steps id := by
    rintro ⟨before, now, retention, after, r, -, -, shown, expired⟩
    have stored := sound.stored found
    obtain rfl := Option.some.inj (stored.shown.symm.trans shown)
    rw [Message.not_isExpired stored.active] at expired
    cases expired
  refine ⟨fun id m found => ?_, fun id r left shown => ⟨?_, ?_, ?_, ?_⟩,
    fun id unseen => ⟨?_, ?_⟩, fun now retention => ⟨fun id r => ?_, Tracker.prune_count ..⟩, ?_⟩
  · rw [(tracker id).2 (active found)]
    exact (sound.stored found).shown
  · exact departed_of_follow (traceable_new capacity retryDelay) (fun _ => rfl) left shown
  · have named := id_of_record? shown
    obtain ⟨last, shown', ended⟩ :=
      sound.ended id (named ▸ listed r (List.mem_of_find?_eq_some shown)) left
    obtain rfl := Option.some.inj (shown.symm.trans shown')
    exact ended
  · exact (tracker id).1
  · exact fun kept => ((tracker id).2 kept).trans shown
  · refine Option.eq_none_iff_forall_ne_some.2 fun m found => ?_
    cases unseen.symm.trans (sound.stored found).shown
  · by_cases forgotten : start.Forgotten steps id
    · exact (tracker id).1 forgotten
    · exact ((tracker id).2 forgotten).trans unseen
  · rw [Tracker.get?_prune, Option.filter_eq_some_iff]
    simp
  · rintro before now m after rfl accepted
    obtain ⟨r, shown⟩ := shown_of_accepted before after accepted
    refine ⟨r, shown, fun kept reception segment same decoded => ?_⟩
    have found : reception.spool.tracker.get? m.id = some r :=
      same ▸ ((tracker m.id).2 kept).trans shown
    simp [Api.status, decoded, found]

-- The message has left the queue, and nothing was forgotten yet.
theorem delivered_message_is_reported :
    let steps := [(Instant.min, .call (.enqueue (note "m"))), (.min, .call (.dequeue 1)),
      (.min, .call (.markDelivered "m"))]
    let s := (new 1 .zero).follow steps
    s.queue.get? "m" = none ∧ ∃ r, r.status = .delivered ∧
      Api.status (.new .default s) "m" = .json 200 (Api.statusReport r) := by
  intro steps s
  obtain ⟨-, -, -, -, reported⟩ := tracker_knows_every_message_until_it_expires 1 .zero steps
  have gone : s.queue.get? "m" = none := by decide
  have status : (s.record? "m").map (·.status) = some .delivered := by decide
  obtain ⟨r, shown, report⟩ := reported [] .min (note "m") _ rfl (by decide)
  have kept : ¬ (new 1 .zero).Forgotten steps "m" := by
    rintro ⟨before, now, retention, after, -, split, -⟩
    have pruned : (now, SpoolStep.prune retention) ∈ steps :=
      split ▸ List.mem_append_right _ List.mem_cons_self
    simp [steps] at pruned
  refine ⟨gone, r, ?_, report kept _ "m" rfl (by decide +kernel)⟩
  rw [show s.record? "m" = some r from shown] at status
  exact Option.some.inj status

end Spool

end MailRelay
