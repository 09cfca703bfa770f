import MailRelay.Proofs.Traffic.Books
import Mathlib.Algebra.BigOperators.Group.List.Basic
import Mathlib.Algebra.GroupWithZero.Nat

set_option autoImplicit false

namespace MailRelay

theorem sum_map_ite_one {A : Type} (p : A → Bool) (l : List A) :
    (l.map fun a => if p a then 1 else 0).sum = l.countP p := by
  induction l with
  | nil => rfl
  | cons a rest ih => simp [List.countP_cons, ih, Nat.add_comm]

theorem sum_map_raise {ids : List String} {id : String} {before after : String → Nat} {n : Nat}
    (fresh : ids.Nodup) (member : id ∈ ids) (here : after id = before id + n)
    (elsewhere : ∀ other, other ≠ id → after other = before other) :
    (ids.map after).sum = (ids.map before).sum + n := by
  have raised : after = fun other => before other + if other = id then n else 0 := by
    funext other
    by_cases same : other = id
    · simp [same, here]
    · simp [same, elsewhere other same]
  have once : (ids.map fun other => if other = id then n else 0).sum = n := by
    rw [List.sum_map_eq_nsmul_single id _ fun other ne _ => if_neg ne,
      List.count_eq_one_of_mem fresh member]
    simp
  rw [raised, List.sum_map_add, once]

theorem Ledger.sum_bookedFor {calls : Ledger} {ids : List String} (fresh : ids.Nodup)
    (known : ∀ call ∈ calls, ∀ id, call.1.settled? = some id → id ∈ ids) {kind : Tally}
    (counts : kind ≠ .nothing) :
    (ids.map (calls.bookedFor kind)).sum = calls.booked kind := by
  induction calls with
  | nil =>
    refine List.sum_eq_zero fun n member => ?_
    obtain ⟨id, -, rfl⟩ := List.mem_map.1 member
    rfl
  | cons call rest ih =>
    have before := ih fun call member => known call (List.mem_cons_of_mem _ member)
    obtain ⟨c, reply⟩ := call
    by_cases books : c.tally = kind ∧ reply = .done
    · obtain ⟨rfl, rfl⟩ := books
      obtain ⟨id, settled⟩ : ∃ id, c.settled? = some id := by
        cases c <;> first | exact ⟨_, rfl⟩ | exact absurd rfl counts
      have member := known (c, .done) List.mem_cons_self id settled
      have raised : booked ((c, .done) :: rest) c.tally = booked rest c.tally + 1 := by
        simp [booked]
      rw [raised, ← before]
      refine sum_map_raise fresh member ?_ fun other ne => ?_
      · simp [bookedFor_settled _ settled]
      · exact bookedFor_other _ _ (by simp [settled, Ne.symm ne]) _
    · -- A call that does not count changes neither side.
      have same : bookedFor ((c, reply) :: rest) kind = bookedFor rest kind := by
        funext id
        simp [bookedFor, books]
      rw [same, before]
      simp [booked, books]

theorem Sound.size_queue {ids : List String} {s : Spool} (sound : Sound ids s) (fresh : ids.Nodup) :
    s.queue.size = (ids.filter fun id => (s.queue.get? id).isSome).length := by
  -- Both sides list each identifier once, the entries in the order of the keys.
  have stored : s.queue.entries.keys.Perm (ids.filter fun id => (s.queue.get? id).isSome) := by
    refine (List.perm_ext_iff_of_nodup s.queue.entries.nodup_keys (fresh.filter _)).2 ?_
    intro id
    rw [List.mem_filter, SortedMap.mem_keys_iff]
    constructor
    · rintro ⟨entry, found⟩
      have stored : s.queue.get? id = some entry.message :=
        Queue.get?_eq_some_iff.2 ⟨entry, found, rfl⟩
      exact ⟨(sound.stored stored).entered, by rw [stored]; rfl⟩
    · rintro ⟨-, stored⟩
      obtain ⟨m, found⟩ := Option.isSome_iff_exists.1 stored
      obtain ⟨entry, found, -⟩ := Queue.get?_eq_some_iff.1 found
      exact ⟨entry, found⟩
  rw [← stored.length_eq, SortedMap.keys, List.length_map]
  rfl

namespace Traffic

def latest (t : Traffic) : List Message := t.accepted.filterMap fun m => t.record? m.id

def departed (t : Traffic) : List Message :=
  t.latest.filter fun r => (t.queue.get? r.id).isNone

section

variable {rules : TrafficRules} {capacity : Nat} {retryDelay cacheTtl : Duration}
  {moves : List (Clock × Move)} {t : Traffic}

section

variable (sound : Sound t.ids t.hub.spool) (fresh : t.ids.Nodup)

theorem latest_spec {r : Message} (member : r ∈ t.latest) :
    r.id ∈ t.ids ∧ t.record? r.id = some r := by
  obtain ⟨m, accepted, shown⟩ := List.mem_filterMap.1 member
  have named := Spool.id_of_record? shown
  exact ⟨named ▸ List.mem_map_of_mem accepted, named ▸ shown⟩

include sound

theorem map_id_latest : t.latest.map (·.id) = t.ids := by
  have each (l : List Message) (entered : ∀ m ∈ l, m.id ∈ t.ids) :
      (l.filterMap fun m => t.record? m.id).map (·.id) = l.map (·.id) := by
    induction l with
    | nil => rfl
    | cons m rest ih =>
      obtain ⟨r, shown⟩ : ∃ r, t.record? m.id = some r := sound.shown (entered m List.mem_cons_self)
      have named := Spool.id_of_record? shown
      simp [shown, named, ih fun other member => entered other (List.mem_cons_of_mem _ member)]
  exact each t.accepted fun m => List.mem_map_of_mem

theorem countP_departed {status : Status} (final : status ≠ .queued ∧ status ≠ .sending) :
    t.departed.countP (·.status == status) = t.latest.countP (·.status == status) := by
  rw [departed, List.countP_filter]
  refine List.countP_congr fun r member => ?_
  simp only [Bool.and_eq_true, beq_iff_eq, and_iff_left_iff_imp]
  rintro rfl
  refine Option.isNone_iff_eq_none.2 (Option.eq_none_iff_forall_ne_some.2 fun m found => ?_)
  obtain ⟨-, shown, active⟩ := sound.stored found
  obtain rfl : m = r := Option.some.inj (shown.symm.trans (latest_spec member).2)
  exact active.elim final.1 final.2

theorem length_departed : t.departed.length =
    t.departed.countP (·.status == .delivered) + t.departed.countP (·.status == .failed) := by
  rw [List.length_eq_countP_add_countP (·.status == .delivered)]
  congr 1
  refine List.countP_congr fun r member => ?_
  obtain ⟨latest, left⟩ := List.mem_filter.1 member
  obtain ⟨entered, shown⟩ := latest_spec latest
  obtain ⟨last, found, ended⟩ := sound.ended r.id entered (Option.isNone_iff_eq_none.1 left)
  obtain rfl : last = r := Option.some.inj (found.symm.trans shown)
  rcases ended with ended | ended <;> simp [ended]

include fresh

theorem length_latest : t.latest.length = t.departed.length + t.queue.size := by
  have inside : t.queue.size = (t.latest.filter fun r => !(t.queue.get? r.id).isNone).length := by
    have ids : (t.latest.filter fun r => !(t.queue.get? r.id).isNone).map (·.id) =
        t.ids.filter fun id => (t.queue.get? id).isSome := by
      rw [← map_id_latest sound, List.filter_map]
      simp [Function.comp_def]
    rw [← List.length_map (f := (·.id)), ids]
    exact sound.size_queue fresh
  rw [List.length_eq_length_filter_add fun r => (t.queue.get? r.id).isNone, inside]
  rfl

end

-- Both sides count bookings: on the left message by message, on the right all at once.
theorem sum_latest (ran : (opening capacity retryDelay cacheTtl).run rules moves = some t)
    (fresh : t.ids.Nodup) (settled : t.Settled) (unspent : ∀ m ∈ t.accepted, m.retryCount = 0)
    (kind : Tally) (counts : kind ≠ .nothing) :
    (t.latest.map kind.weight).sum = t.stats.of kind := by
  have once := List.nodup_iff_count_le_one.1 fresh
  have recorded (id : String) := recorded_of_run ran (once id)
  have weights : t.latest.map kind.weight = t.ids.map (Ledger.bookedFor t.calls kind) := by
    rw [← map_id_latest (sound_of_run ran), List.map_map]
    refine List.map_congr_left fun r member => ?_
    obtain ⟨entered, shown⟩ := latest_spec member
    obtain ⟨m, accepted, same⟩ := List.mem_map.1 entered
    have start : kind.weight { m with status := .queued } = 0 := by
      cases kind <;> simp [Tally.weight, unspent m accepted]
    have weight := (recorded r.id).recorded m accepted same r shown kind counts
    rwa [start, Nat.zero_add] at weight
  have known : ∀ call ∈ t.calls, ∀ id, call.1.settled? = some id → id ∈ t.ids := by
    intro call member id settles
    by_contra absent
    exact (recorded id).unknown absent call member settles
  calc (t.latest.map kind.weight).sum
    _ = (t.ids.map (Ledger.bookedFor t.calls kind)).sum := congrArg List.sum weights
    _ = Ledger.booked t.calls kind := Ledger.sum_bookedFor fresh known counts
    _ = t.stats.of kind := (stats_of_paid ran settled.2 kind counts).symm

theorem counters_balance (ran : (opening capacity retryDelay cacheTtl).run rules moves = some t)
    (fresh : t.ids.Nodup) (unspent : ∀ m ∈ t.accepted, m.retryCount = 0) (settled : t.Settled) :
    t.stats.sent = t.stats.delivered + t.stats.failed + t.queue.size ∧
      t.stats.delivered = t.departed.countP (·.status == .delivered) ∧
      t.stats.failed = t.departed.countP (·.status == .failed) ∧
      t.stats.retried = (t.latest.map (·.retryCount.toNat)).sum ∧
      t.latest.map (·.id) = t.ids := by
  have sound := sound_of_run ran
  have weights := sum_latest ran fresh settled unspent
  have delivered : t.stats.delivered = t.departed.countP (·.status == .delivered) := by
    rw [countP_departed sound (by decide), ← sum_map_ite_one]
    exact (weights .delivered (by decide)).symm
  have failed : t.stats.failed = t.departed.countP (·.status == .failed) := by
    rw [countP_departed sound (by decide), ← sum_map_ite_one]
    exact (weights .failed (by decide)).symm
  have sent : t.stats.sent = t.latest.length := by
    have same := congrArg List.length (map_id_latest sound)
    rw [ids, List.length_map, List.length_map] at same
    have counted := (counted_of_run ran).sent
    rw [show t.standing.uncounted = 0 from settled.1] at counted
    exact counted.trans same.symm
  refine ⟨?_, delivered, failed, ?_, map_id_latest sound⟩
  · rw [sent, length_latest sound fresh, length_departed sound, delivered, failed]
  · exact (weights .retried (by decide)).symm

-- The first attempt fails, the second one does not.
theorem counters_balance_after_retry :
    let now : Clock := ⟨.min, 0⟩
    let begins := [(now, .work 0 .poll), (now, .work 0 .proceed), (now, .work 0 .proceed)]
    let books := [(now, .work 0 .proceed), (now, .work 0 .proceed), (now, .work 0 .proceed)]
    let moves := [(now, .join), (now, .submit (note "m")), (now, .count)] ++
      begins ++ (now, .work 0 (.resolved (.error (.timeout "example.org")))) :: books ++
      begins ++ (now, .work 0 (.resolved (.ok [⟨"mx", 0⟩]))) ::
        (now, .work 0 (.handed (.ok ()))) :: books
    ∃ t, (opening 1 .zero .zero).run ⟨.default, ⟨1, 1⟩⟩ moves = some t ∧ t.ids.Nodup ∧
      (∀ m ∈ t.accepted, m.retryCount = 0) ∧ t.Settled ∧ t.stats.retried = 1 ∧ t.queue.size = 0 ∧
      t.stats.sent = t.stats.delivered + t.stats.failed + t.queue.size ∧
      (t.latest.map (·.retryCount.toNat)).sum = 1 := by
  intro now begins books moves
  have facts : ((opening 1 .zero .zero).run ⟨.default, ⟨1, 1⟩⟩ moves).map (fun t =>
      (t.workers.map (·.owed), t.ids, t.accepted.map (·.retryCount),
        [t.uncounted, t.stats.retried, t.queue.size])) =
          some ([[]], ["m"], [0], [0, 1, 0]) := by decide
  obtain ⟨t, ran, facts⟩ := Option.map_eq_some_iff.1 facts
  simp only [Prod.mk.injEq, List.cons.injEq] at facts
  obtain ⟨owed, ids, unspent, uncounted, retried, size, -⟩ := facts
  have fresh : t.ids.Nodup := ids ▸ List.nodup_singleton "m"
  have settled : t.Settled :=
    ⟨uncounted, fun w working => by simpa [owed] using List.mem_map_of_mem (f := (·.owed)) working⟩
  have unspent : ∀ m ∈ t.accepted, m.retryCount = 0 :=
    fun m accepted => by simpa [unspent] using List.mem_map_of_mem (f := (·.retryCount)) accepted
  obtain ⟨sent, -, -, sum, -⟩ := counters_balance ran fresh unspent settled
  exact ⟨t, ran, fresh, unspent, settled, retried, size, sent, sum.symm.trans retried⟩

end

end Traffic

end MailRelay
