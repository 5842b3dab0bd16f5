import FaultTolerance.Interval
import FaultTolerance.Proofs.Numeric.Power
import FaultTolerance.Proofs.Settings

/-!
# Growing waits

An exponential wait never exceeds its cap.  It is a product of the initial wait with a power of the
multiplier, and the power overflows after some attempt, long before the attempts run out.  Any other
initial wait has reached its cap by then; but zero times infinity is not a number, and what is not
finite gives the cap.  So a wait that starts at zero stays zero as long as the power is finite, and is
the cap from then on.

## Main definitions

* `growth`: the product, in nanoseconds.

**Results.**
* `grown_le`: the cap.
* `grown_zero_of_isFinite`, `grown_zero_of_not_isFinite`: a wait that starts at zero.
* `exponential_wait_within`: both, with the attempts at which the power is finite.
-/

namespace FaultTolerance

open Time Numeric

namespace Time.Span

theorem zero_nanos : zero.nanos = 0 :=
  clip_nanos (by decide)

/-- The shorter of two spans is not longer than the second. -/
theorem least_nanos_le (a b : Span) : (a.least b).nanos ≤ b.nanos := by
  unfold least
  split_ifs with hshorter
  · exact hshorter
  · exact le_rfl

theorem ofMillis_nanos
    {r : Nat}
    (hr : r ≤ maxTicks) :
    (ofMillis r).nanos = r * nanosPerMilli := by
  refine clip_nanos ?_
  simp only [maxTicks, nanosPerMilli, spanLimit, nanosPerSecond] at *
  omega

theorem millis_le (s : Span) : s.millis ≤ maxTicks :=
  Nat.min_le_right _ _

/-- Below the end of the counter, the milliseconds of a span are its whole ones. -/
theorem millis_bounds
    {s : Span}
    {whole : Nat}
    (hwhole : whole = s.millis)
    (hexact : whole ≤ 2 ^ 53) :
    whole * nanosPerMilli ≤ s.nanos ∧ s.nanos < (whole + 1) * nanosPerMilli := by
  unfold millis at hwhole
  simp only [maxTicks, nanosPerMilli] at *
  omega

end Time.Span

namespace Interval

variable {initial cap : Span} {multiplier : Binary64}

/-- The initial wait times the power of the multiplier, in nanoseconds. -/
def growth
    (initial : Span)
    (multiplier : Binary64)
    (attempt : Nat) : Binary64 :=
  (Binary.ofNat initial.nanos).mul (multiplier.pow (exponentAfter attempt))

theorem grown_eq
    (initial : Span)
    (multiplier : Binary64)
    (cap : Span)
    (attempt : Nat) :
    grown initial multiplier cap attempt =
      if !(growth initial multiplier attempt).isFinite ||
          (Binary.ofNat cap.nanos).le (growth initial multiplier attempt) then cap
      else (Span.clip ((growth initial multiplier attempt).truncate maxTicks)).least cap :=
  rfl

/-- A growing wait stays within its cap. -/
theorem grown_le
    (initial : Span)
    (multiplier : Binary64)
    (cap : Span)
    (attempt : Nat) :
    (grown initial multiplier cap attempt).nanos ≤ cap.nanos := by
  rw [grown_eq]
  split
  · exact le_rfl
  · exact Span.least_nanos_le _ cap

/-! ### Values in double precision -/

/-- Accepted multipliers are values from one on. -/
theorem hasValue_of_checkMultiplier (h : checkMultiplier multiplier = .ok ()) :
    multiplier.HasValue multiplier.value ∧ 1 ≤ multiplier.value := by
  have hvalue := Binary.hasValue_value (isFinite_of_checkMultiplier h)
  have hone : (Binary.ofNat 1 : Binary64).HasValue 1 := Binary.hasValue_one
  simp only [checkMultiplier, require_eq_ok_iff, Bool.and_eq_true] at h
  exact ⟨hvalue, (hone.le_iff hvalue).mp h.2⟩

/-- A span in nanoseconds is far below the ceiling. -/
theorem hasValue_nanos (s : Span) :
    (Binary.ofNat s.nanos : Binary64).HasValue (binary64.toNearest s.nanos) := by
  have hbound : s.nanos ≤ 2 ^ 94 := by
    have hspan := s.bounded
    simp only [spanLimit, maxTicks, nanosPerSecond] at hspan
    omega
  exact Binary.hasValue_ofNat hbound (by decide)

/-- Only the empty span is rounded to zero. -/
theorem eq_zero_of_toNearest_nanos_le
    {s : Span}
    (hzero : binary64.toNearest s.nanos ≤ 0) :
    s = Span.zero := by
  have hnone : s.nanos = 0 := by
    by_contra hsome
    have hone : 1 ≤ binary64.toNearest s.nanos :=
      binary64.one_le_toNearest (by exact_mod_cast Nat.one_le_iff_ne_zero.mpr hsome)
    linarith
  exact Span.ext_nanos (hnone.trans Span.zero_nanos.symm)

theorem hasValue_zero_nanos : (Binary.ofNat Span.zero.nanos : Binary64).HasValue 0 := by
  have hvalue := hasValue_nanos Span.zero
  rwa [Span.zero_nanos, Nat.cast_zero, Format.toNearest_zero] at hvalue

/-! ### Waits that start at zero -/

section Accepted

variable (haccepted : checkMultiplier multiplier = .ok ())
include haccepted

/-- Powers of accepted multipliers are values from one on, or infinite. -/
theorem pow_fromTwoPow (n : Nat) : (multiplier.pow n).FromTwoPow 0 := by
  obtain ⟨hvalue, hone⟩ := hasValue_of_checkMultiplier haccepted
  have hpower := hvalue.pow_fromTwoPow (i := 0) (by simpa using hone) n
  rwa [Nat.zero_mul] at hpower

/-- A wait that starts at zero stays zero as long as the power is finite. -/
theorem grown_zero_of_isFinite
    {attempt : Nat}
    (hfinite : (multiplier.pow (exponentAfter attempt)).isFinite = true) :
    grown Span.zero multiplier cap attempt = Span.zero := by
  obtain ⟨w, hpower, hone⟩ := (pow_fromTwoPow haccepted _).exists_hasValue hfinite
  have hgrowth : (growth Span.zero multiplier attempt).HasValue 0 := by
    have hproduct := hasValue_zero_nanos.mul hpower le_rfl (by linarith)
      (by simp : 0 * w ≤ 2 ^ 0) (by decide)
    rwa [zero_mul, Format.toNearest_zero] at hproduct
  rw [grown_eq, hgrowth.1, Bool.not_true, Bool.false_or, hgrowth.truncate le_rfl, Nat.floor_zero,
    Nat.zero_min]
  by_cases hcap : (Binary.ofNat cap.nanos).le (growth Span.zero multiplier attempt) = true
  · rw [if_pos hcap]
    exact eq_zero_of_toNearest_nanos_le (((hasValue_nanos cap).le_iff hgrowth).mp hcap)
  · rw [if_neg hcap]
    exact if_pos (by rw [← Span.zero, Span.zero_nanos]; exact Nat.zero_le _)

/-- From the attempt on at which the power overflows it is the cap. -/
theorem grown_zero_of_not_isFinite
    {attempt : Nat}
    (hinfinite : (multiplier.pow (exponentAfter attempt)).isFinite = false) :
    grown Span.zero multiplier cap attempt = cap := by
  have hpower := (pow_fromTwoPow haccepted (exponentAfter attempt)).eq_infinite hinfinite
  have hgrowth : growth Span.zero multiplier attempt = .nan := by
    unfold growth
    rw [hpower]
    exact hasValue_zero_nanos.mul_infinite false
  rw [grown_eq, hgrowth]
  rfl

end Accepted

/-- **Growing waits.**  After every attempt the wait of an accepted exponential function is within its
cap.  When it starts at zero, it is zero exactly as long as the power of the multiplier is finite, and
the cap afterwards.  With a multiplier of at most `2 ^ bits` the power is finite while `bits` times the
exponent stays below `1024`, and with one from `2 ^ bits` on it is not from `1024` on. -/
theorem exponential_wait_within
    (haccepted : (Interval.exponential initial multiplier cap).validate = .ok ())
    (draw : Binary64)
    (attempt : Nat) :
    let wait := (Interval.exponential initial multiplier cap).wait draw attempt
    let exponent := exponentAfter attempt
    wait.nanos ≤ cap.nanos ∧
      (initial = Span.zero →
        wait = (if (multiplier.pow exponent).isFinite then Span.zero else cap) ∧
          (∀ bits, multiplier.value ≤ 2 ^ bits → bits * exponent < 1024 → wait = Span.zero) ∧
          (∀ bits, 2 ^ bits ≤ multiplier.value → 1024 ≤ bits * exponent → wait = cap)) := by
  intro wait exponent
  have hwait : wait = grown initial multiplier cap attempt := rfl
  have hchecked : checkMultiplier multiplier = .ok () := haccepted
  obtain ⟨hvalue, hone⟩ := hasValue_of_checkMultiplier hchecked
  rw [hwait]
  refine ⟨grown_le initial multiplier cap attempt, ?_⟩
  rintro rfl
  have hzero (hfinite : (multiplier.pow exponent).isFinite = true) :
      grown Span.zero multiplier cap attempt = Span.zero :=
    grown_zero_of_isFinite hchecked hfinite
  have hcap (hinfinite : (multiplier.pow exponent).isFinite = false) :
      grown Span.zero multiplier cap attempt = cap :=
    grown_zero_of_not_isFinite hchecked hinfinite
  refine ⟨?_, fun bits hhigh hroom => ?_, fun bits hlow hceiling => ?_⟩
  · cases hpower : (multiplier.pow exponent).isFinite with
    | true => rw [hzero hpower, if_pos rfl]
    | false => rw [hcap hpower, if_neg Bool.false_ne_true]
  · exact hzero (Binary.isFinite_pow hvalue hone hhigh (by simp only; omega))
  · have hpower := hvalue.pow_fromTwoPow hlow exponent
    exact hcap (hpower.isFinite_eq_false (by simp only; omega))

/-- A wait of zero that doubles, under a cap of one second.  After 1024 attempts it is still zero;
after the next one the power is infinite, and the wait is a second. -/
theorem exponential_wait_within_doubling :
    let interval := Interval.exponential Span.zero (Binary.ofNat 2) (Span.ofSeconds 1)
    interval.validate = .ok () ∧
      interval.wait (Binary.zero false) 1024 = Span.zero ∧
      interval.wait (Binary.zero false) 1025 = Span.ofSeconds 1 := by
  intro interval
  have haccepted : interval.validate = .ok () := by
    decide +kernel
  have hvalue : (Binary.ofNat 2 : Binary64).value = 2 ^ 1 := by
    rw [(Binary.hasValue_ofNat_exact (by decide)).2]
    norm_num
  obtain ⟨-, hlast⟩ := exponential_wait_within haccepted (Binary.zero false) 1024
  obtain ⟨-, hnext⟩ := exponential_wait_within haccepted (Binary.zero false) 1025
  exact ⟨haccepted, (hlast rfl).2.1 1 hvalue.le (by decide), (hnext rfl).2.2 1 hvalue.ge (by decide)⟩

end Interval
end FaultTolerance
