import FaultTolerance.Proofs.Settings
import FaultTolerance.Proofs.Window.Calls

/-!
# When a window is judged to be above its thresholds

The judgement on a snapshot guards a rate twice: against the placeholder of a window that has not
enough calls, and against its threshold.  With accepted thresholds, which lie above zero, the first
guard never decides: a window is above its thresholds when it holds enough calls and one of the two
single-precision percentages has reached its threshold.

**Results.**
* `Binary.le_trans`: the order of floating-point numbers is transitive.
* `Thresholds.evaluate_ofCalls_iff`: the judgement on a list of calls.
-/

namespace FaultTolerance

open Numeric

/-- The order of floating-point numbers is transitive; not-a-number is below nothing. -/
theorem Numeric.Binary.le_trans
    {f : Format}
    {x y z : Binary f}
    (hxy : x.le y = true)
    (hyz : y.le z = true) :
    x.le z = true := by
  cases x with
  | nan => cases hxy
  | infinite s =>
      cases y with
      | nan => cases hxy
      | infinite t =>
          cases z with
          | nan => cases hyz
          | infinite u =>
              simp only [Binary.le, Bool.or_eq_true, Bool.not_eq_true'] at hxy hyz ⊢
              grind
          | finite u c _ =>
              simp only [Binary.le, Bool.or_eq_true, Bool.not_eq_true'] at hxy hyz ⊢
              grind
      | finite t b _ =>
          have hs : s = true := hxy
          subst hs
          cases z with
          | nan => cases hyz
          | infinite u => rfl
          | finite u c _ => rfl
  | finite s a _ =>
      cases y with
      | nan => cases hxy
      | infinite t =>
          have ht : t = false := by
            simpa [Binary.le] using hxy
          subst ht
          cases z with
          | nan => cases hyz
          | infinite u => simpa [Binary.le] using hyz
          | finite u c _ => cases hyz
      | finite t b _ =>
          cases z with
          | nan => cases hyz
          | infinite u => exact hyz
          | finite u c _ =>
              simp only [Binary.le, decide_eq_true_eq] at hxy hyz ⊢
              exact Int.le_trans hxy hyz

namespace Window
namespace Thresholds

/-- Accepted percentages lie above zero. -/
theorem zero_lt_of_validate
    {t : Thresholds}
    (h : t.validate = .ok ()) :
    (Binary.zero false).lt t.failureRate = true ∧ (Binary.zero false).lt t.slowRate = true := by
  unfold validate checkPercentage at h
  rw [checked_bind_eq_ok_iff, require_eq_ok_iff, require_eq_ok_iff, Bool.and_eq_true,
    Bool.and_eq_true] at h
  exact ⟨h.1.1, h.2.1⟩

/-- A rate that reached a threshold above zero is no placeholder. -/
theorem reached_eq_le
    {rate threshold : Binary32}
    (hpositive : (Binary.zero false).lt threshold = true) :
    reached rate threshold = threshold.le rate := by
  unfold reached
  cases hreached : threshold.le rate with
  | false => rw [Bool.and_false]
  | true =>
      unfold Binary.lt at hpositive
      rw [Bool.and_eq_true] at hpositive
      rw [Bool.and_true]
      exact Binary.le_trans hpositive.1 hreached

/-- A window that holds enough calls is above accepted thresholds exactly when the percentage of the
failed or of the slow ones has reached its threshold. -/
theorem evaluate_iff
    {t : Thresholds}
    (h : t.validate = .ok ())
    {s : Snapshot}
    (hminimum : s.hasMinimum = true) :
    t.evaluate s = .aboveThresholds ↔
      t.failureRate.le (Snapshot.percentage s.failed s.total) = true ∨
        t.slowRate.le (Snapshot.percentage s.slow s.total) = true := by
  obtain ⟨hfailure, hslow⟩ := zero_lt_of_validate h
  unfold evaluate failureExceeded slowExceeded
  rw [reached_eq_le hfailure, reached_eq_le hslow]
  unfold Snapshot.failureRate Snapshot.slowRate Snapshot.rateOf
  rw [hminimum]
  simp only [Bool.not_true, Bool.false_eq_true, if_false, if_true, Bool.or_eq_true]
  constructor
  · intro habove
    by_contra hbelow
    rw [if_neg hbelow] at habove
    cases habove
  · intro habove
    rw [if_pos habove]

/-- Calls are above accepted thresholds exactly when there are enough of them and the percentage of
the failed or of the slow ones has reached its threshold. -/
theorem evaluate_ofCalls_iff
    {t : Thresholds}
    (h : t.validate = .ok ())
    {floor : Nat}
    (hfloor : 0 < floor)
    (calls : List Call) :
    t.evaluate (Snapshot.ofCalls floor calls) = .aboveThresholds ↔
      floor ≤ calls.length ∧
        (t.failureRate.le
            (Snapshot.percentage (calls.countP fun c => c.outcome.isFailure) calls.length) = true ∨
          t.slowRate.le
            (Snapshot.percentage (calls.countP fun c => c.outcome.isSlow) calls.length) = true) := by
  have hminimum :
      (Snapshot.ofCalls floor calls).hasMinimum = decide (floor ≤ calls.length) := by
    show (decide (0 < calls.length) && decide (floor ≤ calls.length)) = _
    rw [Bool.eq_iff_iff]
    simp only [Bool.and_eq_true, decide_eq_true_eq]
    omega
  by_cases henough : floor ≤ calls.length
  · rw [evaluate_iff h (hminimum.trans (decide_eq_true henough)), and_iff_right henough]
    rfl
  · -- Below the minimum nothing is judged.
    unfold evaluate
    simp [hminimum, henough]

end Thresholds
end Window
end FaultTolerance
