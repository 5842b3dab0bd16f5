import FaultTolerance.Adaptive.Basic
import FaultTolerance.Breaker.Config
import FaultTolerance.Limiter.Config
import Mathlib.Tactic

/-!
# Accepted settings

What settings satisfy once they are accepted.  A check is a chain of single requirements, and the
chain is passed exactly when each requirement is.
-/

namespace FaultTolerance

open Time Numeric Window

@[simp]
theorem require_eq_ok_iff
    (condition : Bool)
    (field reason : String) :
    require condition field reason = .ok () ↔ condition = true := by
  unfold require
  split_ifs with h <;> simp [h]

@[simp]
theorem requirePositive_eq_ok_iff
    (n : Nat)
    (field : String) :
    requirePositive n field = .ok () ↔ 0 < n := by
  simp [requirePositive]

/-- What follows a check is reached when the check passes. -/
theorem checked_bind_eq_ok_iff
    {α : Type}
    (first : Checked)
    (second : Unit → Except ConfigError α)
    (a : α) :
    (first >>= second) = .ok a ↔ first = .ok () ∧ second () = .ok a := by
  cases first with
  | error e =>
      constructor
      · intro h
        cases h
      · rintro ⟨h, -⟩
        cases h
  | ok _ => exact ⟨fun h => ⟨rfl, h⟩, fun h => h.2⟩

theorem Limiter.Config.checkLimit_eq_ok_iff (limit : Nat) :
    Limiter.Config.checkLimit limit = .ok () ↔ 0 < limit ∧ limit ≤ Limiter.maxLimit := by
  simp [Limiter.Config.checkLimit]

theorem Limiter.Config.checkPeriod_eq_ok_iff (period : Span) :
    Limiter.Config.checkPeriod period = .ok () ↔ nanosPerMilli ≤ period.nanos := by
  simp [Limiter.Config.checkPeriod]

/-- The accepted settings of a rate limiter. -/
theorem Limiter.Config.validate_eq_ok_iff (c : Limiter.Config) :
    c.validate = .ok () ↔
      (0 < c.limit ∧ c.limit ≤ Limiter.maxLimit) ∧ nanosPerMilli ≤ c.period.nanos := by
  simp [Limiter.Config.validate, Limiter.Config.checkLimit_eq_ok_iff,
    Limiter.Config.checkPeriod_eq_ok_iff, checked_bind_eq_ok_iff]

/-- An accepted cycle is a 64-bit number of nanoseconds, and lasts a millisecond at least. -/
theorem Limiter.Config.ticks_bounds
    {period : Span}
    (h : Limiter.Config.checkPeriod period = .ok ()) :
    nanosPerMilli ≤ period.ticks ∧ period.ticks ≤ maxTicks := by
  have hlong := (Limiter.Config.checkPeriod_eq_ok_iff period).mp h
  unfold Span.ticks
  simp only [nanosPerMilli, maxTicks] at *
  omega

/-- An accepted cycle has a length. -/
theorem Limiter.Config.period_ticks_pos
    {c : Limiter.Config}
    (h : c.validate = .ok ()) :
    0 < c.period.ticks := by
  have hperiod := ((Limiter.Config.validate_eq_ok_iff c).mp h).2
  have hcheck := (Limiter.Config.checkPeriod_eq_ok_iff c.period).mpr hperiod
  exact lt_of_lt_of_le (by decide) (Limiter.Config.ticks_bounds hcheck).1

/-! ### Finite values -/

/-- What lies between two finite values is finite. -/
theorem Numeric.Binary.isFinite_of_le_of_le
    {f : Format}
    {low value high : Binary f}
    (hlow : low.le value = true)
    (hhigh : value.le high = true)
    (hfinite : low.isFinite = true)
    (hbounded : high.isFinite = true) :
    value.isFinite = true := by
  cases value with
  | finite s a _ => rfl
  | nan => cases low <;> cases hlow
  | infinite s =>
      cases low with
      | nan => cases hfinite
      | infinite t => cases hfinite
      | finite t a _ =>
          cases high with
          | nan => cases hbounded
          | infinite u => cases hbounded
          | finite u b _ =>
              simp only [Binary.le, Bool.not_eq_true'] at hlow hhigh
              rw [hlow] at hhigh
              cases hhigh

/-- Accepted percentages are finite. -/
theorem Window.Thresholds.isFinite_of_validate
    {t : Window.Thresholds}
    (h : t.validate = .ok ()) :
    t.failureRate.isFinite = true ∧ t.slowRate.isFinite = true := by
  have hundred : (Binary.ofNat 100 : Binary32).isFinite = true := by
    decide +kernel
  unfold Window.Thresholds.validate Window.Thresholds.checkPercentage Binary.lt at h
  simp only [checked_bind_eq_ok_iff, require_eq_ok_iff, Bool.and_eq_true] at h
  obtain ⟨⟨⟨hlow, -⟩, hhigh⟩, ⟨hslow, -⟩, hslower⟩ := h
  exact ⟨Binary.isFinite_of_le_of_le hlow hhigh rfl hundred,
    Binary.isFinite_of_le_of_le hslow hslower rfl hundred⟩

/-- Accepted multipliers are finite. -/
theorem Interval.isFinite_of_checkMultiplier
    {multiplier : Binary64}
    (h : Interval.checkMultiplier multiplier = .ok ()) :
    multiplier.isFinite = true := by
  simp only [Interval.checkMultiplier, require_eq_ok_iff, Bool.and_eq_true] at h
  exact h.1

/-- Accepted factors are finite. -/
theorem Interval.isFinite_of_checkFactor
    {factor : Binary64}
    (h : Interval.checkFactor factor = .ok ()) :
    factor.isFinite = true := by
  have hone : (Binary.ofNat 1 : Binary64).isFinite = true := by
    decide +kernel
  simp only [Interval.checkFactor, require_eq_ok_iff, Bool.and_eq_true] at h
  exact Binary.isFinite_of_le_of_le h.1 h.2 rfl hone

/-! ### Protections -/

/-- The accepted settings of a circuit breaker. -/
theorem Breaker.Config.validate_eq_ok_iff (c : Breaker.Config) :
    c.validate = .ok () ↔
      c.thresholds.validate = .ok () ∧ 0 < c.size ∧ 0 < c.minimum ∧ 0 < c.trials ∧
        nanosPerMilli ≤ c.openWait.nanos ∧
        ∀ interval, c.openInterval = some interval → interval.validate = .ok () := by
  unfold Breaker.Config.validate
  rw [checked_bind_eq_ok_iff, checked_bind_eq_ok_iff, checked_bind_eq_ok_iff,
    checked_bind_eq_ok_iff, checked_bind_eq_ok_iff]
  cases c.openInterval <;> simp

/-- The accepted settings of a bulkhead. -/
theorem Bulkhead.Config.validate_eq_ok_iff (c : Bulkhead.Config) :
    c.validate = .ok () ↔ 0 < c.limit :=
  requirePositive_eq_ok_iff ..

/-- The accepted settings of an adaptive bulkhead. -/
theorem Adaptive.Config.validate_eq_ok_iff (c : Adaptive.Config) :
    c.validate = .ok () ↔
      c.thresholds.validate = .ok () ∧ 0 < c.size ∧ 0 < c.minimum ∧ 0 < c.least ∧
        c.least ≤ c.most ∧ c.least ≤ c.initial ∧ c.initial ≤ c.most := by
  unfold Adaptive.Config.validate
  rw [checked_bind_eq_ok_iff, checked_bind_eq_ok_iff, checked_bind_eq_ok_iff,
    checked_bind_eq_ok_iff, checked_bind_eq_ok_iff]
  simp

end FaultTolerance
