import MailRelay.Queue.Retry

set_option autoImplicit false

namespace MailRelay

namespace Instant

theorem nanos_lt_of_plain {t : Instant} (plain : t.isLeap = false) : t.nanos < 1000000000 := by
  simpa [isLeap] using plain

theorem total_le_of_le {t u : Instant} (plain : t.isLeap = false) (before : t.le u) :
    t.total ≤ u.total := by
  have short := nanos_lt_of_plain plain
  simp only [le, Bool.or_eq_true, Bool.and_eq_true, decide_eq_true_eq, beq_iff_eq] at before
  simp only [total]
  omega

theorem le_iff_total_le {t u : Instant} (plain : t.isLeap = false) (plain' : u.isLeap = false) :
    t.le u ↔ t.total ≤ u.total := by
  refine ⟨total_le_of_le plain, fun before => ?_⟩
  have short := nanos_lt_of_plain plain
  have short' := nanos_lt_of_plain plain'
  simp only [le, Bool.or_eq_true, Bool.and_eq_true, decide_eq_true_eq, beq_iff_eq]
  simp only [total] at before
  omega

theorem total_le_max (t : Instant) (plain : t.isLeap = false) : t.total ≤ max.total := by
  have short := nanos_lt_of_plain plain
  have upper := t.upper
  have whole : max.total = maxSeconds * 1000000000 + 999999999 := rfl
  rw [whole, total]
  omega

theorem eq_of_total_eq {t u : Instant} (plain : t.isLeap = false) (plain' : u.isLeap = false)
    (same : t.total = u.total) : t = u := by
  have short := nanos_lt_of_plain plain
  have short' := nanos_lt_of_plain plain'
  simp only [total] at same
  have seconds : t.seconds = u.seconds := by omega
  have nanos : t.nanos = u.nanos := by omega
  cases t
  cases u
  cases seconds
  cases nanos
  rfl

end Instant

theorem total_getD_of? {seconds : Int} {nanos : Nat} (lower : Instant.minSeconds ≤ seconds)
    (plain : nanos < 1000000000) :
    ((Instant.of? seconds nanos).getD .max).total =
        min (seconds * 1000000000 + nanos) Instant.max.total ∧
      ((Instant.of? seconds nanos).getD .max).isLeap = false := by
  have whole : Instant.max.total = Instant.maxSeconds * 1000000000 + 999999999 := rfl
  by_cases upper : seconds ≤ Instant.maxSeconds
  · have held : Instant.of? seconds nanos = some ⟨seconds, nanos, lower, upper, .inl plain⟩ :=
      dif_pos ⟨lower, upper, .inl plain⟩
    rw [held, whole, Option.getD_some, Int.min_eq_left (by omega)]
    exact ⟨rfl, decide_eq_false (by simpa using plain)⟩
  · have past : Instant.of? seconds nanos = none := dif_neg fun within => upper within.2.1
    rw [past, Option.getD_none, whole]
    exact ⟨by omega, rfl⟩

theorem total_getD_add? {t : Instant} (plain : t.isLeap = false) (d : Duration) :
    ((t.add? d).getD .max).total = min (t.total + d.nanos) Instant.max.total ∧
      ((t.add? d).getD .max).isLeap = false := by
  have short := Instant.nanos_lt_of_plain plain
  have lower := t.lower
  have carried : (t.seconds + d.secs +
      ((t.nanos % 1000000000 + d.subsecNanos) / 1000000000 : Nat)) * 1000000000 +
        ((t.nanos % 1000000000 + d.subsecNanos) % 1000000000 : Nat) = t.total + d.nanos := by
    simp only [Instant.total, Duration.secs, Duration.subsecNanos]
    omega
  rw [← carried]
  simp only [Instant.add?, plain, Bool.false_and, Bool.false_eq_true, if_false]
  apply total_getD_of? <;> omega

theorem nanos_delay (d : Duration) :
    ((delay? d).getD longestDelay).nanos = min d.nanos longestDelay.nanos := by
  by_cases short : d ≤ longestDelay
  · rw [delay?, if_pos short]
    exact (Nat.min_eq_left short).symm
  · rw [delay?, if_neg short]
    exact (Nat.min_eq_right (Nat.le_of_not_le short)).symm

theorem total_nextAttemptAt {t : Instant} (plain : t.isLeap = false) (n : UInt32)
    (base : Duration) :
    (nextAttemptAt t n base).total = min (t.total + base.nanos * n.toNat) Instant.max.total := by
  have whole : Instant.max.total = 8210266876799999999999 := by decide
  have longest : longestDelay.nanos = 9223372036854775807000000 := by decide
  have lower := t.lower
  have first : Instant.minSeconds = -8334601228800 := rfl
  rw [nextAttemptAt, (total_getD_add? plain _).1, nanos_delay, backoff, Duration.nanos_scale, whole,
    longest]
  -- A delay that stops at either of the longest ones ends behind the last instant all the same.
  simp only [Duration.maxNanos, Instant.total]
  omega

theorem isLeap_nextAttemptAt {t : Instant} (plain : t.isLeap = false) (n : UInt32)
    (base : Duration) : (nextAttemptAt t n base).isLeap = false :=
  (total_getD_add? plain _).2

/-- The next attempt is due at the exact sum of the present and the delay, or at the last instant if
the sum lies behind it. It is never due before the present, nor earlier for a later present, more
failures or a longer base delay. -/
theorem next_attempt_is_exact {t : Instant} (plain : t.isLeap = false) (n : UInt32)
    (base : Duration) :
    (∀ u, nextAttemptAt t n base = u ↔
      u.isLeap = false ∧ u.total = min (t.total + n.toNat * base.nanos) Instant.max.total) ∧
    t.le (nextAttemptAt t n base) ∧
    ∀ (later : Instant) (more : UInt32) (longer : Duration), later.isLeap = false → t.le later →
      n ≤ more → base ≤ longer → (nextAttemptAt t n base).le (nextAttemptAt later more longer) := by
  have regular := isLeap_nextAttemptAt plain n base
  have exact_sum : (nextAttemptAt t n base).total =
      min (t.total + n.toNat * base.nanos) Instant.max.total := by
    rw [total_nextAttemptAt plain, Int.mul_comm]
  refine ⟨fun u => ⟨?_, fun ⟨plain', total⟩ => ?_⟩, ?_, ?_⟩
  · rintro rfl
    exact ⟨regular, exact_sum⟩
  · exact Instant.eq_of_total_eq regular plain' (exact_sum.trans total.symm)
  · rw [Instant.le_iff_total_le plain regular, exact_sum]
    have within : t.total ≤ Instant.max.total := t.total_le_max plain
    have delay : 0 ≤ n.toNat * base.nanos := Nat.zero_le _
    omega
  · intro later more longer plain' after failures delays
    have start : t.total ≤ later.total := Instant.total_le_of_le plain after
    have product : n.toNat * base.nanos ≤ more.toNat * longer.nanos :=
      Nat.mul_le_mul (UInt32.le_iff_toNat_le.1 failures) delays
    rw [Instant.le_iff_total_le regular (isLeap_nextAttemptAt plain' more longer), exact_sum,
      total_nextAttemptAt plain', Int.mul_comm longer.nanos]
    omega

-- The last call's product, its delay and its sum all end at their longest or last value.
theorem longest_backoff_ends_at_the_last_instant :
    let soon : Instant := ⟨Instant.minSeconds + 180, 0, by decide, by decide, by decide⟩
    Instant.min.isLeap = false ∧ nextAttemptAt .min 3 (.ofSecs 60) = soon ∧
      nextAttemptAt .min 4294967295 .max = .max ∧ soon.le .max := by
  intro soon
  have plain : Instant.min.isLeap = false := by decide
  obtain ⟨soon_iff, -, grows⟩ := next_attempt_is_exact plain 3 (.ofSecs 60)
  have next : nextAttemptAt .min 3 (.ofSecs 60) = soon := (soon_iff soon).2 (by decide)
  have last : nextAttemptAt .min 4294967295 .max = .max :=
    ((next_attempt_is_exact plain 4294967295 .max).1 .max).2 (by decide)
  refine ⟨plain, next, last, ?_⟩
  rw [← last, ← next]
  exact grows .min 4294967295 .max plain (by decide) (by decide) (by decide)

end MailRelay
