import MailRelay.Delivery.Attempt
import MailRelay.Proofs.SortedMap

set_option autoImplicit false

namespace MailRelay.ExchangerCache

variable {c d : ExchangerCache} {now later : Nat}

theorem fresh?_eq_some_iff {domain : String} {hosts : List Exchanger} :
    c.fresh? domain now = some hosts ↔
      ∃ entry, c.entries.get? (key domain) = some entry ∧ now < entry.expiresAt ∧
        entry.hosts = hosts := by
  simp [fresh?, Option.filter_eq_some_iff, and_assoc]

theorem store?_eq_some_iff {domain : String} {hosts : List Exchanger} :
    c.store? domain hosts now = some d ↔ ∃ bounded : now + c.ttl.nanos ≤ lastMoment,
      d = { c with entries := c.entries.insert (key domain) ⟨hosts, now + c.ttl.nanos, bounded⟩ } := by
  by_cases bounded : now + c.ttl.nanos ≤ lastMoment
  · simp [store?, bounded, eq_comm]
  · simp [store?, bounded]

theorem fields_store {domain : String} {hosts : List Exchanger}
    (stored : c.store? domain hosts now = some d) :
    d.ttl = c.ttl ∧ d.hits = c.hits ∧ d.misses = c.misses := by
  obtain ⟨-, rfl⟩ := store?_eq_some_iff.1 stored
  exact ⟨rfl, rfl, rfl⟩

theorem store?_eq_none_iff {domain : String} {hosts : List Exchanger} :
    c.store? domain hosts now = none ↔ lastMoment < now + c.ttl.nanos := by
  simp [store?]

theorem fresh?_store {domain : String} {hosts : List Exchanger}
    (stored : c.store? domain hosts now = some d) (other : String) :
    d.fresh? other later =
      if key other = key domain then if later < now + c.ttl.nanos then some hosts else none
      else c.fresh? other later := by
  obtain ⟨bounded, rfl⟩ := store?_eq_some_iff.1 stored
  simp only [fresh?, SortedMap.get?_insert]
  by_cases same : key other = key domain
  · by_cases young : later < now + c.ttl.nanos
    · simp [same, young]
    · simp [same, young, Nat.le_of_not_lt young]
  · simp [same]

-- What is fresh later is fresh now, so that nothing is missed that was forgotten now.
theorem fresh?_purge (c : ExchangerCache) (passes : now ≤ later) (domain : String) :
    (c.purge now).1.fresh? domain later = c.fresh? domain later := by
  apply Option.ext
  intro hosts
  simp only [fresh?_eq_some_iff, purge, SortedMap.get?_filter, Option.filter_eq_some_iff,
    decide_eq_true_eq]
  constructor
  · rintro ⟨entry, ⟨held, -⟩, fresh, same⟩
    exact ⟨entry, held, fresh, same⟩
  · rintro ⟨entry, held, fresh, same⟩
    exact ⟨entry, ⟨held, Nat.lt_of_le_of_lt passes fresh⟩, fresh, same⟩

theorem lookup_eq (c : ExchangerCache) (domain : String) (now : Nat) :
    c.lookup domain now =
      (c.fresh? domain now,
        if (c.fresh? domain now).isSome then { c with hits := c.hits + 1 }
        else { c with misses := c.misses + 1 }) := by
  unfold lookup
  cases c.fresh? domain now <;> rfl

structure Alike (now : Nat) (c d : ExchangerCache) : Prop where
  ttl : c.ttl = d.ttl
  hits : c.hits = d.hits
  misses : c.misses = d.misses
  fresh : ∀ later, now ≤ later → ∀ domain, c.fresh? domain later = d.fresh? domain later

namespace Alike

theorem refl (now : Nat) (c : ExchangerCache) : Alike now c c :=
  ⟨rfl, rfl, rfl, fun _ _ _ => rfl⟩

variable (alike : Alike now c d)

include alike

theorem mono (passes : now ≤ later) : Alike later c d :=
  ⟨alike.ttl, alike.hits, alike.misses,
    fun last after => alike.fresh last (Nat.le_trans passes after)⟩

theorem purge : Alike now (c.purge now).1 d where
  ttl := alike.ttl
  hits := alike.hits
  misses := alike.misses
  fresh last after domain := (fresh?_purge c after domain).trans (alike.fresh last after domain)

theorem lookup (domain : String) :
    (c.lookup domain now).1 = (d.lookup domain now).1 ∧
      Alike now (c.lookup domain now).2 (d.lookup domain now).2 := by
  have same := alike.fresh now (Nat.le_refl now) domain
  rw [lookup_eq, lookup_eq, same]
  refine ⟨rfl, ?_⟩
  cases (d.fresh? domain now).isSome with
  | true => exact ⟨alike.ttl, congrArg (· + 1) alike.hits, alike.misses, alike.fresh⟩
  | false => exact ⟨alike.ttl, alike.hits, congrArg (· + 1) alike.misses, alike.fresh⟩

theorem stored {c' d' : ExchangerCache} {domain : String} {hosts : List Exchanger}
    (left : c.store? domain hosts now = some c') (right : d.store? domain hosts now = some d') :
    Alike now c' d' := by
  obtain ⟨ttl, hits, misses⟩ := fields_store left
  obtain ⟨ttl', hits', misses'⟩ := fields_store right
  refine ⟨?_, ?_, ?_, fun last after other => ?_⟩
  · rw [ttl, ttl', alike.ttl]
  · rw [hits, hits', alike.hits]
  · rw [misses, misses', alike.misses]
  · rw [fresh?_store left, fresh?_store right, alike.ttl, alike.fresh last after]

-- Both take an answer or neither does: what they take depends on the time to live alone.
theorem resolved (domain : String) (answer : Except DnsError (List Exchanger)) :
    Option.Rel (fun first second => Alike now first.2 second.2)
      (Attempt.resolved? c now domain answer) (Attempt.resolved? d now domain answer) := by
  cases answer with
  | error e => exact .some alike
  | ok hosts =>
    simp only [Attempt.resolved?]
    cases left : c.store? domain hosts now with
    | none =>
      have late := store?_eq_none_iff.1 left
      rw [alike.ttl] at late
      rw [store?_eq_none_iff.2 late]
      exact .none
    | some c' =>
      obtain ⟨bounded, -⟩ := store?_eq_some_iff.1 left
      rw [alike.ttl] at bounded
      obtain ⟨d', right⟩ : ∃ d', d.store? domain hosts now = some d' :=
        ⟨_, store?_eq_some_iff.2 ⟨bounded, rfl⟩⟩
      rw [right]
      exact .some (alike.stored left right)

end Alike

end MailRelay.ExchangerCache
