import MailRelay.Proofs.Queue.Alteration
import MailRelay.Proofs.Queue.Schedule

set_option autoImplicit false

namespace MailRelay

def QueueCall.concerns (ids : List String) (c : QueueCall) : Bool :=
  c.subject?.any ids.contains

def callsElsewhere (ids : List String) (calls : List (Instant × QueueCall)) :
    List (Instant × QueueCall) :=
  calls.filter fun entry => !entry.2.concerns ids

def lastReturn? (calls : List (Instant × QueueCall)) (id : String) : Option Instant :=
  (calls.reverse.find? fun entry => entry.2 = .release id).map (·.1)

theorem lastReturn?_snoc (calls : List (Instant × QueueCall)) (t : Instant) (c : QueueCall)
    (id : String) :
    lastReturn? (calls ++ [(t, c)]) id =
      if c = .release id then some t else lastReturn? calls id := by
  by_cases given : c = .release id <;> simp [lastReturn?, given]

theorem lastReturn?_of_mem {calls : List (Instant × QueueCall)} {t : Instant} {id : String}
    (given : (t, .release id) ∈ calls) : ∃ u, lastReturn? calls id = some u := by
  have listed : (calls.reverse.find? fun entry => entry.2 = .release id).isSome := by
    rw [List.find?_isSome]
    exact ⟨_, List.mem_reverse.2 given, by simp⟩
  obtain ⟨entry, found⟩ := Option.isSome_iff_exists.1 listed
  exact ⟨entry.1, by rw [lastReturn?, found]; rfl⟩

namespace Queue

/-- What a message looks like that was handed out at `now` and has been given back, if at all, at
another time. -/
def lent (now : Instant) : Option Instant → Message → Message
  | some t => Backlog.released t
  | none => startSending now

def restamped (ids : List String) (times : String → Option Instant) (id : String) (m : Message) :
    Message :=
  if id ∈ ids then { m with updatedAt := (times id).getD m.updatedAt } else m

variable {q : Queue} {now : Instant} {max : Nat}

theorem due_restamped (ids : List String) (times : String → Option Instant) :
    (q.altered (restamped ids times)).due now max = q.due now max := by
  have ready (id : String) : (q.altered (restamped ids times)).isReady now id = q.isReady now id := by
    rw [isReady, isReady, get?_altered]
    cases q.get? id with
    | none => rfl
    | some m =>
      simp only [Option.map_some, restamped]
      split <;> rfl
  rw [due, due, funext ready]
  rfl

-- The time of the last change is overwritten when a message is handed out again.
theorem dequeue_restamped (times : String → Option Instant) :
    (q.altered (restamped (q.due now max) times)).dequeue max now = q.dequeue max now := by
  have sending (id : String) (m : Message) :
      startSending now (restamped (q.due now max) times id m) = startSending now m := by
    unfold restamped
    split <;> rfl
  refine Prod.ext ?_ ?_
  · rw [dequeue_eq_altered, dequeue_eq_altered, due_restamped, altered_altered]
    refine altered_congr fun id m _ => ?_
    rw [sending]
    split
    · rfl
    · next absent => exact if_neg absent
  · show (send now ((q.altered (restamped (q.due now max) times)).due now max) _).2 =
      (send now (q.due now max) q).2
    rw [due_restamped, send_answer, send_answer]
    refine List.filterMap_congr fun id _ => ?_
    rw [get?_altered, Option.map_map]
    exact Option.map_congr fun m _ => sending id m

end Queue

namespace Spool

/-- One spool is like another one, but for a batch that was handed out of it at `now`, and of which
some messages have been given back by the calls made since. -/
structure Lends (s : Spool) (now : Instant) (ids : List String) (made : List (Instant × QueueCall))
    (s' : Spool) : Prop where
  queue : s'.queue = s.queue.altered fun id m =>
    if id ∈ ids then Queue.lent now (lastReturn? made id) m else m
  filed : s.queue.Filed
  waiting : ∀ id ∈ ids, ∃ m, s.queue.get? id = some m ∧ m.status = .queued

theorem lends_dequeue {s : Spool} (filed : s.queue.Filed) (now : Instant) (max : Nat) :
    s.Lends now (s.queue.due now max) [] (s.call now (.dequeue max)).1 where
  queue := by
    rw [queue_call_dequeue, Queue.dequeue_eq_altered]
    rfl
  filed := filed
  waiting id member := by
    obtain ⟨-, m, found, queued, -⟩ := Queue.of_mem_due member
    exact ⟨m, found, queued⟩

theorem get?_call_elsewhere {s : Spool} (filed : s.queue.Filed) (now : Instant) {c : QueueCall}
    {id other : String} (about : c.subject? = some id) (elsewhere : other ≠ id) :
    (s.call now c).1.queue.get? other = s.queue.get? other := by
  rcases QueueCall.enqueue_or_settled about with ⟨m, rfl, rfl⟩ | settled
  · rw [call_enqueue]
    split
    · rfl
    · rw [get?_letIn, if_neg elsewhere]
  · rw [Queue.get?, (call_elsewhere now filed settled elsewhere).1, Queue.get?]

namespace Lends

variable {s s' : Spool} {now : Instant} {ids : List String} {made : List (Instant × QueueCall)}
  (lends : s.Lends now ids made s')

include lends

theorem other {c : QueueCall} {id : String} (about : c.subject? = some id) (elsewhere : id ∉ ids)
    (t : Instant) :
    (s.call t c).1.Lends now ids (made ++ [(t, c)]) (s'.call t c).1 ∧
      (s'.call t c).2 = (s.call t c).2 := by
  obtain ⟨queue, reply⟩ := call_altered lends.queue (fun m => if_neg elsewhere) t about
  refine ⟨⟨?_, filed_call t lends.filed c, fun held member => ?_⟩, reply⟩
  · rw [queue]
    refine Queue.altered_congr fun held m _ => ?_
    by_cases member : held ∈ ids
    · have not_given : c ≠ .release held := by
        rintro rfl
        obtain rfl := Option.some.inj about
        exact elsewhere member
      rw [lastReturn?_snoc, if_neg not_given]
    · simp only [member, if_false]
  · have apart : held ≠ id := fun same => elsewhere (same ▸ member)
    rw [get?_call_elsewhere lends.filed t about apart]
    exact lends.waiting held member

theorem release {id : String} (member : id ∈ ids) (t : Instant) :
    s.Lends now ids (made ++ [(t, .release id)]) (s'.call t (.release id)).1 ∧
      (s'.call t (.release id)).2 = .done := by
  obtain ⟨m, found, -⟩ := lends.waiting id member
  have held : s'.queue.get? id = some (Queue.lent now (lastReturn? made id) m) := by
    rw [lends.queue, Queue.get?_altered, found]
    simp [member]
  rw [call_found held t (c := .release id) rfl]
  refine ⟨⟨?_, lends.filed, lends.waiting⟩, rfl⟩
  show s'.queue.altered (Queue.only id (Backlog.released t)) = _
  rw [lends.queue, Queue.altered_altered]
  refine Queue.altered_congr fun other n _ => ?_
  rw [lastReturn?_snoc]
  by_cases same : other = id
  · subst same
    -- Giving a message back undoes its being handed out and any earlier return.
    have last : Backlog.released t (Queue.lent now (lastReturn? made other) n) =
        Backlog.released t n := by
      cases lastReturn? made other <;> rfl
    simp only [Queue.only, member, if_true, last]
    rfl
  · have differs : QueueCall.release id ≠ .release other := fun given =>
      same (QueueCall.release.inj given).symm
    simp [Queue.only, same, differs]

theorem run {calls : List (Instant × QueueCall)}
    (proper : ∀ entry ∈ calls, ∃ id, entry.2.subject? = some id ∧
      (id ∈ ids → entry.2 = .release id)) :
    (s.run (callsElsewhere ids calls)).1.Lends now ids (made ++ calls) (s'.run calls).1 ∧
      (calls.zip (s'.run calls).2).filter (fun reply => !reply.1.2.concerns ids) =
        (callsElsewhere ids calls).zip (s.run (callsElsewhere ids calls)).2 ∧
      ∀ reply ∈ calls.zip (s'.run calls).2, reply.1.2.concerns ids → reply.2 = .done := by
  induction calls generalizing s s' made with
  | nil =>
    rw [List.append_nil]
    exact ⟨lends, rfl, fun _ absent => absurd absent List.not_mem_nil⟩
  | cons entry rest ih =>
    obtain ⟨t, c⟩ := entry
    obtain ⟨id, about, giving⟩ := proper _ List.mem_cons_self
    have later := fun entry member => proper entry (List.mem_cons_of_mem _ member)
    have split : made ++ (t, c) :: rest = (made ++ [(t, c)]) ++ rest := by simp
    have ran : (s'.run ((t, c) :: rest)) =
      (((s'.call t c).1.run rest).1, (s'.call t c).2 :: ((s'.call t c).1.run rest).2) := rfl
    rw [split, ran, List.zip_cons_cons]
    by_cases member : id ∈ ids
    · obtain rfl : c = .release id := giving member
      have own : (QueueCall.release id).concerns ids = true := by
        simp [QueueCall.concerns, QueueCall.subject?, member]
      have skipped : callsElsewhere ids ((t, .release id) :: rest) = callsElsewhere ids rest :=
        List.filter_cons_of_neg (by simp [own])
      obtain ⟨next, done⟩ := lends.release member t
      obtain ⟨lends, same, given⟩ := ih next later
      rw [skipped, List.filter_cons_of_neg (by simp [own])]
      exact ⟨lends, same, List.forall_mem_cons.2 ⟨fun _ => done, given⟩⟩
    · have foreign : c.concerns ids = false := by
        simp [QueueCall.concerns, about, member]
      have kept : callsElsewhere ids ((t, c) :: rest) = (t, c) :: callsElsewhere ids rest :=
        List.filter_cons_of_pos (by simp [foreign])
      obtain ⟨next, reply⟩ := lends.other about member t
      obtain ⟨lends, same, given⟩ := ih next later
      rw [kept, List.filter_cons_of_pos (by simp [foreign])]
      refine ⟨lends, ?_, List.forall_mem_cons.2 ⟨fun own => ?_, given⟩⟩
      · rw [same, reply]
        rfl
      · simp [foreign] at own

theorem ended (returned : ∀ id ∈ ids, ∃ t, (t, .release id) ∈ made) :
    s'.queue = s.queue.altered (Queue.restamped ids (lastReturn? made)) := by
  rw [lends.queue]
  refine Queue.altered_congr fun id m found => ?_
  unfold Queue.restamped
  split
  · next member =>
    obtain ⟨t, given⟩ := returned id member
    obtain ⟨u, last⟩ := lastReturn?_of_mem given
    obtain ⟨held, stored, queued⟩ := lends.waiting id member
    obtain rfl : held = m := Option.some.inj (stored.symm.trans found)
    rw [last, Queue.lent, Backlog.released, ← queued, Option.getD_some]
  · rfl

end Lends

/-- A batch is handed out, and each of its messages is given back at least once, in any order, while
other messages come in, are settled or are given back themselves. All that is left of it then is the
time of the last change of its messages: the other calls are answered as if the batch had not been
handed out, and leave the same queue. If there are no other calls, handing out a batch again at the
same instant gives the same batch and leaves the same queue as the first time. -/
theorem returned_batch_was_never_handed_out (capacity : Nat) (retryDelay : Duration)
    (requests : List (Instant × QueueRequest)) {s : Spool}
    (reached : s.queue = ((new capacity retryDelay).serve requests).1.queue)
    {now : Instant} {max : Nat} {calls : List (Instant × QueueCall)} {batch : List Message}
    {replies : List QueueReply} {ids : List String}
    (told : (s.run ((now, .dequeue max) :: calls)).2 = .batch batch :: replies)
    (named : batch.map (·.id) = ids)
    (proper : ∀ entry ∈ calls, ∃ id, entry.2.subject? = some id ∧
      (id ∈ ids → entry.2 = .release id))
    (returned : ∀ id ∈ ids, ∃ t, (t, .release id) ∈ calls) :
    (calls.zip replies).filter (fun reply => !reply.1.2.concerns ids) =
        (callsElsewhere ids calls).zip (s.run (callsElsewhere ids calls)).2 ∧
      (∀ reply ∈ calls.zip replies, reply.1.2.concerns ids → reply.2 = .done) ∧
      (s.run ((now, .dequeue max) :: calls)).1.queue =
        (s.run (callsElsewhere ids calls)).1.queue.altered
          (Queue.restamped ids (lastReturn? calls)) ∧
      (callsElsewhere ids calls = [] →
        (s.run ((now, .dequeue max) :: calls)).1.queue.dequeue max now = s.queue.dequeue max now) := by
  have filed : s.queue.Filed := reached ▸ filed_serve (Queue.filed_new capacity retryDelay) requests
  have ran : s.run ((now, .dequeue max) :: calls) =
      (((s.call now (.dequeue max)).1.run calls).1,
        .batch (s.queue.dequeue max now).2 :: ((s.call now (.dequeue max)).1.run calls).2) := rfl
  rw [ran] at told ⊢
  obtain ⟨handed, rfl⟩ := List.cons.inj told
  obtain rfl : (s.queue.dequeue max now).2 = batch := QueueReply.batch.inj handed
  obtain rfl : s.queue.due now max = ids := (Queue.map_id_dequeue filed max now).symm.trans named
  obtain ⟨whole, answers, given⟩ := (lends_dequeue filed now max).run proper
  have ended := whole.ended returned
  refine ⟨answers, given, ended, fun alone => ?_⟩
  rw [alone] at ended
  rw [ended]
  exact Queue.dequeue_restamped _

-- The second message of the batch is given back first, while another one comes in and the one in
-- front of them is delivered; the first one has failed before.
theorem batch_is_returned_among_other_calls :
    let m := Message.new "m" "a@example.com" ["b@example.org"] "s" .min
    let early : Instant := ⟨Instant.minSeconds, 9, by decide, by decide, by decide⟩
    let late : Instant := ⟨Instant.minSeconds, 10, by decide, by decide, by decide⟩
    let requests := [(.min, .call (.enqueue m)), (.min, .call (.enqueue { m with id := "n" })),
      (.min, .call (.enqueue { m with id := "o" })), (.min, .call (.dequeue 2)),
      (.min, .call (.markFailed "n" "refused" true))]
    let s := ((new 9 .zero).serve requests).1
    let calls := [(early, .enqueue { m with id := "p" }), (early, .release "o"),
      (early, .markDelivered "m"), (late, .markFailed "m" "late" true), (late, .release "n")]
    let failed := { m with
      id := "n", retryCount := 1, lastError := some "refused", scheduledAt := some .min }
    (s.run ((.min, .dequeue 2) :: calls)).2 =
        [.batch [{ failed with status := .sending }, { m with id := "o", status := .sending }],
          .done, .done, .done, .refused (.notFound "m"), .done] ∧
      (∀ entry ∈ calls, ∃ id, entry.2.subject? = some id ∧
        (id ∈ ["n", "o"] → entry.2 = .release id)) ∧
      (∀ id ∈ ["n", "o"], ∃ t, (t, .release id) ∈ calls) ∧
      (s.run ((.min, .dequeue 2) :: calls)).1.queue =
        (s.run (callsElsewhere ["n", "o"] calls)).1.queue.altered
          (Queue.restamped ["n", "o"] (lastReturn? calls)) ∧
      (s.run (callsElsewhere ["n", "o"] calls)).1.queue.messages =
        [{ failed with status := .queued }, { m with id := "o", status := .queued },
          { m with id := "p", status := .queued, updatedAt := early }] := by
  intro m early late requests s calls failed
  have told : (s.run ((.min, .dequeue 2) :: calls)).2 =
      [.batch [{ failed with status := .sending }, { m with id := "o", status := .sending }],
        .done, .done, .done, .refused (.notFound "m"), .done] := by decide
  have proper : ∀ entry ∈ calls, ∃ id, entry.2.subject? = some id ∧
      (id ∈ ["n", "o"] → entry.2 = .release id) := by
    simp [calls, QueueCall.subject?]
  have returned : ∀ id ∈ ["n", "o"], ∃ t, (t, .release id) ∈ calls := by
    simp [calls]
  have named : [{ failed with status := .sending }, { m with id := "o", status := .sending }].map
      (·.id) = ["n", "o"] := rfl
  obtain ⟨-, -, left, -⟩ :=
    returned_batch_was_never_handed_out 9 .zero requests (s := s) rfl told named proper returned
  exact ⟨told, proper, returned, left, by decide⟩

end Spool

end MailRelay
