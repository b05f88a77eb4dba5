/-
Spans of time as numbers of nanoseconds.

* **`Duration.toNanos_times`** — a multiple of a span is exact up to the longest span;
* **`Duration.toNanos_shorter`** — the lesser of two spans is the one of fewer nanoseconds;
* **`RetryPolicy.toNanos_delayAfter`** — the wait after an attempt is a multiple of the base or the
  cap, whichever is less, although the multiple itself may be cut off;
* **`RetryPolicy.waits_double`** — which multiple that is: the waits double up to the cap.
-/
import AccountRegistry.Duration
import Mathlib.Algebra.Group.Nat.Defs

namespace AccountRegistry

namespace Duration

theorem toNanos_shorter (a b : Duration) : (a.shorter b).toNanos = min a.toNanos b.toNanos := by
  have ha := a.nanos_lt
  have hb := b.nanos_lt
  unfold shorter toNanos
  cases hbefore : b.before a with
  | true =>
    rw [before, Bool.or_eq_true, Bool.and_eq_true, decide_eq_true_iff, decide_eq_true_iff,
      beq_iff_eq] at hbefore
    rw [if_pos rfl]
    omega
  | false =>
    rw [before, Bool.or_eq_false_iff, Bool.and_eq_false_iff, decide_eq_false_iff_not,
      decide_eq_false_iff_not, beq_eq_false_iff_ne] at hbefore
    rw [if_neg Bool.false_ne_true]
    omega

theorem toNanos_longest : longest.toNanos = 18446744073709551615999999999 := rfl

theorem toNanos_le_longest (d : Duration) : d.toNanos ≤ longest.toNanos := by
  have hsecs := d.secs_lt
  have hnanos := d.nanos_lt
  rw [toNanos_longest, toNanos]
  omega

/-- Nothing is lost when nanoseconds are carried over, up to the longest span. -/
theorem toNanos_ofParts (secs nanos : Nat) :
    (ofParts secs nanos).toNanos = min (secs * 1000000000 + nanos) longest.toNanos := by
  rw [toNanos_longest, ofParts]
  split
  · show (secs + nanos / 1000000000) * 1000000000 + nanos % 1000000000 = _
    omega
  · rw [toNanos_longest]
    omega

theorem toNanos_ofSecs {n : Nat} (hn : n < 2 ^ 64) : (ofSecs n).toNanos = n * 1000000000 := by
  rw [ofSecs, toNanos_ofParts, toNanos_longest]
  omega

theorem toNanos_ofMillis {n : Nat} (hn : n < 2 ^ 64) : (ofMillis n).toNanos = n * 1000000 := by
  rw [ofMillis, toNanos_ofParts, toNanos_longest]
  omega

/-- **A multiple is exact up to the longest span.** -/
theorem toNanos_times (d : Duration) (k : Nat) :
    (d.times k).toNanos = min (d.toNanos * k) longest.toNanos := by
  have hmul : d.secs * k * 1000000000 + d.nanos * k = d.toNanos * k := by
    rw [toNanos, Nat.add_mul, Nat.mul_right_comm]
  rw [times, toNanos_ofParts, hmul]

end Duration

namespace RetryPolicy

/-! ### The factor of a wait -/

theorem factor_of_le {n : Nat} (hn : n ≤ 32) : factor n = 2 ^ (n - 1) := by
  rw [factor]
  split
  · rfl
  · omega

theorem factor_of_lt {n : Nat} (hn : 32 < n) : factor n = 2 ^ 32 - 1 := by
  rw [factor]
  exact if_neg (by omega)

/-- The factor doubles as long as it fits 32 bits. -/
theorem factor_succ {n : Nat} (hpos : 1 ≤ n) (hn : n ≤ 31) : factor (n + 1) = 2 * factor n := by
  obtain ⟨k, rfl⟩ := Nat.exists_eq_add_one_of_ne_zero (Nat.ne_of_gt hpos)
  rw [factor_of_le (by omega), factor_of_le (by omega), Nat.add_sub_cancel, Nat.add_sub_cancel,
    Nat.pow_succ, Nat.mul_comm]

theorem factor_mono {m n : Nat} (h : m ≤ n) : factor m ≤ factor n := by
  by_cases hm : m ≤ 32
  · rw [factor_of_le hm]
    by_cases hn : n ≤ 32
    · rw [factor_of_le hn]
      exact Nat.pow_le_pow_right (by decide) (by omega)
    · have hpow : 2 ^ (m - 1) ≤ 2 ^ 31 := Nat.pow_le_pow_right (by decide) (by omega)
      rw [factor_of_lt (by omega)]
      omega
  · exact Nat.le_of_eq ((factor_of_lt (by omega)).trans (factor_of_lt (by omega)).symm)

/-! ### Waits -/

/-- **A wait is a multiple of the base, or the cap.**  That the multiple is cut off at the longest
span does not show, since no cap is longer than that. -/
theorem toNanos_delayAfter (p : RetryPolicy) (attempt : Nat) :
    (p.delayAfter attempt).toNanos = min (p.base.toNanos * factor attempt) p.cap.toNanos := by
  have hcap := p.cap.toNanos_le_longest
  rw [delayAfter, Duration.toNanos_shorter, Duration.toNanos_times]
  omega

theorem toNanos_delayAfter_le (p : RetryPolicy) (attempt : Nat) :
    (p.delayAfter attempt).toNanos ≤ p.cap.toNanos := by
  rw [toNanos_delayAfter]
  exact Nat.min_le_right _ _

theorem toNanos_delayAfter_mono (p : RetryPolicy) {m n : Nat} (h : m ≤ n) :
    (p.delayAfter m).toNanos ≤ (p.delayAfter n).toNanos := by
  have hmul := Nat.mul_le_mul_left p.base.toNanos (factor_mono h)
  rw [toNanos_delayAfter, toNanos_delayAfter]
  omega

/-- A wait is twice the one before, or the cap, as long as the factor doubles. -/
theorem toNanos_delayAfter_succ (p : RetryPolicy) {n : Nat} (hpos : 1 ≤ n) (hn : n ≤ 31) :
    (p.delayAfter (n + 1)).toNanos = min (2 * (p.delayAfter n).toNanos) p.cap.toNanos := by
  have hmul : p.base.toNanos * factor (n + 1) = 2 * (p.base.toNanos * factor n) := by
    rw [factor_succ hpos hn, Nat.mul_left_comm]
  rw [toNanos_delayAfter, toNanos_delayAfter, hmul]
  omega

/-- The waits have come up to the cap before the factor stops doubling, if the greatest factor is
enough for it. -/
theorem toNanos_delayAfter_succ_of_cap (p : RetryPolicy) {n : Nat} (hn : 32 ≤ n)
    (hcap : p.cap.toNanos ≤ (2 ^ 32 - 1) * p.base.toNanos) :
    (p.delayAfter (n + 1)).toNanos = min (2 * (p.delayAfter n).toNanos) p.cap.toNanos := by
  have hfactor : 2 ^ 31 ≤ factor n := factor_mono hn
  have hmul := Nat.mul_le_mul_left p.base.toNanos hfactor
  rw [toNanos_delayAfter, toNanos_delayAfter, factor_of_lt (n := n + 1) (by omega)]
  omega

/-- **The waits double up to the cap**, in exact nanoseconds.  The factor is a power of two up to
the 32nd attempt, and the greatest number of 32 bits from then on. -/
theorem waits_double (p : RetryPolicy) :
    ((p.delayAfter 0).toNanos = min p.base.toNanos p.cap.toNanos ∧
      (∀ n, 1 ≤ n → n ≤ 32 →
        (p.delayAfter n).toNanos = min (p.base.toNanos * 2 ^ (n - 1)) p.cap.toNanos) ∧
      ∀ n, 32 < n →
        (p.delayAfter n).toNanos = min (p.base.toNanos * (2 ^ 32 - 1)) p.cap.toNanos) ∧
    (∀ n, (p.delayAfter n).toNanos ≤ p.cap.toNanos) ∧
    (∀ m n, m ≤ n → (p.delayAfter m).toNanos ≤ (p.delayAfter n).toNanos) ∧
    ∀ n, 1 ≤ n → (n ≤ 31 ∨ p.cap.toNanos ≤ (2 ^ 32 - 1) * p.base.toNanos) →
      (p.delayAfter (n + 1)).toNanos = min (2 * (p.delayAfter n).toNanos) p.cap.toNanos := by
  refine ⟨⟨?_, fun n _ hn => ?_, fun n hn => ?_⟩, p.toNanos_delayAfter_le,
    fun m n h => p.toNanos_delayAfter_mono h, fun n hpos h => ?_⟩
  · rw [toNanos_delayAfter, factor_of_le (by decide), Nat.zero_sub, Nat.pow_zero, Nat.mul_one]
  · rw [toNanos_delayAfter, factor_of_le hn]
  · rw [toNanos_delayAfter, factor_of_lt hn]
  · by_cases hn : n ≤ 31
    · exact p.toNanos_delayAfter_succ hpos hn
    · exact p.toNanos_delayAfter_succ_of_cap (by omega) (h.resolve_left hn)

/-- A policy whose waits are cut off at the longest span before they come up to their cap. -/
def patient : RetryPolicy where
  maxAttempts := 64
  base := .ofParts 0x200000000 999999999
  cap := .longest

theorem waits_double_patient :
    (patient.delayAfter 31).toNanos = min (patient.base.toNanos * 2 ^ 30) patient.cap.toNanos ∧
    (patient.delayAfter 33).toNanos =
      min (patient.base.toNanos * (2 ^ 32 - 1)) patient.cap.toNanos ∧
    (patient.delayAfter 31).toNanos ≤ (patient.delayAfter 33).toNanos ∧
    (patient.delayAfter 32).toNanos =
      min (2 * (patient.delayAfter 31).toNanos) patient.cap.toNanos ∧
    (patient.delayAfter 41).toNanos =
      min (2 * (patient.delayAfter 40).toNanos) patient.cap.toNanos := by
  obtain ⟨⟨-, hpower, hgreatest⟩, -, hmono, hdouble⟩ := waits_double patient
  exact ⟨hpower 31 (by decide) (by decide), hgreatest 33 (by decide), hmono 31 33 (by decide),
    hdouble 31 (by decide) (.inl (by decide)), hdouble 40 (by decide) (.inr (by decide))⟩

end RetryPolicy

end AccountRegistry
