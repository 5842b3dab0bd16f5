import FaultTolerance.Proofs.Interval.Jitter

/-!
# Waits that vanish

An accepted interval function may give a wait of zero: a fixed wait of zero is accepted, and so is an
initial wait or a cap of zero.  A wait that is cut at random vanishes also when it is not zero to begin
with, as soon as less than a whole millisecond is kept of it.

## Main definitions

* `Stalls`: when a growing wait is zero.
* `Vanishes`: when a wait is zero.

**Results.**
* `grown_eq_zero_iff`, `shorten_eq_zero_iff`, `wait_eq_zero_iff`: these conditions are exact.
* `vanishes_of_lt_milli`, `not_vanishes_of_two_le`: a cut wait of less than a millisecond vanishes
  whatever the draw, and one of which two milliseconds are to be kept never does.
-/

namespace FaultTolerance

open Time Numeric

namespace Time.Span

theorem nanos_eq_zero_iff {s : Span} : s.nanos = 0 ↔ s = zero := by
  constructor
  · intro hnone
    exact ext_nanos (hnone.trans zero_nanos.symm)
  · rintro rfl
    exact zero_nanos

theorem ticks_eq_zero_iff {s : Span} : s.ticks = 0 ↔ s = zero := by
  rw [← nanos_eq_zero_iff]
  unfold ticks
  simp only [maxTicks]
  omega

/-- The shorter of two spans is zero when one of them is. -/
theorem least_eq_zero_iff {a b : Span} : a.least b = zero ↔ a = zero ∨ b = zero := by
  rw [← nanos_eq_zero_iff, ← nanos_eq_zero_iff, ← nanos_eq_zero_iff]
  unfold least
  split_ifs <;> omega

theorem clip_eq_zero_iff {n : Nat} : clip n = zero ↔ n = 0 := by
  rw [← nanos_eq_zero_iff]
  show min n (spanLimit - 1) = 0 ↔ n = 0
  simp only [spanLimit, maxTicks, nanosPerSecond]
  omega

theorem ofMillis_eq_zero_iff {n : Nat} : ofMillis n = zero ↔ n = 0 := by
  unfold ofMillis
  rw [clip_eq_zero_iff]
  simp only [nanosPerMilli]
  omega

end Time.Span

namespace Interval

/-- A growing wait that is zero: its cap is, or it starts at zero and the power of the multiplier is
finite. -/
def Stalls
    (initial : Span)
    (multiplier : Binary64)
    (cap : Span)
    (attempt : Nat) : Prop :=
  cap = Span.zero ∨
    initial = Span.zero ∧ (multiplier.pow (exponentAfter attempt)).isFinite = true

/-- A wait that is zero: a random cut leaves nothing when less than one of the milliseconds is
kept. -/
def Vanishes
    (draw : Binary64)
    (attempt : Nat) : Interval → Prop
  | .fixed interval => interval = Span.zero
  | .exponential initial multiplier cap => Stalls initial multiplier cap attempt
  | .randomized initial multiplier cap factor =>
    if factor.value = 0 then Stalls initial multiplier cap attempt
    else
      ((Binary.ofNat (grown initial multiplier cap attempt).millis).mul
        (keptShare factor draw)).value < 1

/-! ### Growing waits -/

section Growing

variable {initial cap : Span} {multiplier : Binary64} {attempt : Nat}
  (haccepted : checkMultiplier multiplier = .ok ())
include haccepted

/-- A wait that does not start at zero grows from a nanosecond on. -/
theorem growth_fromTwoPow (hsome : initial ≠ Span.zero) :
    (growth initial multiplier attempt).FromTwoPow 0 := by
  have hone : 1 ≤ binary64.toNearest initial.nanos := by
    refine binary64.one_le_toNearest ?_
    exact_mod_cast Nat.one_le_iff_ne_zero.mpr (mt Span.nanos_eq_zero_iff.mp hsome)
  have hinitial := (hasValue_nanos initial).fromTwoPow (i := 0) (by simpa using hone)
  have hproduct := hinitial.mul (pow_fromTwoPow haccepted (exponentAfter attempt))
  rwa [Nat.add_zero] at hproduct

/-- A growing wait is zero exactly when it stalls. -/
theorem grown_eq_zero_iff :
    grown initial multiplier cap attempt = Span.zero ↔ Stalls initial multiplier cap attempt := by
  constructor
  · intro hzero
    refine or_iff_not_imp_left.mpr fun hcap => ?_
    by_cases hstart : initial = Span.zero
    · subst hstart
      refine ⟨rfl, ?_⟩
      cases hpower : (multiplier.pow (exponentAfter attempt)).isFinite with
      | true => rfl
      | false => exact absurd ((grown_zero_of_not_isFinite haccepted hpower).symm.trans hzero) hcap
    · exfalso
      rw [grown_eq] at hzero
      split_ifs at hzero with hcapped
      · exact hcap hzero
      · rw [Bool.or_eq_true, Bool.not_eq_true', not_or, Bool.not_eq_false] at hcapped
        obtain ⟨v, hvalue, hone⟩ :=
          (growth_fromTwoPow haccepted hstart).exists_hasValue hcapped.1
        rw [pow_zero] at hone
        have hfloor : 1 ≤ ⌊v⌋₊ := Nat.le_floor (by exact_mod_cast hone)
        rw [hvalue.truncate (by linarith), Span.least_eq_zero_iff, Span.clip_eq_zero_iff] at hzero
        simp only [maxTicks] at hzero
        rcases hzero with hnone | hnone
        · omega
        · exact hcap hnone
  · rintro (rfl | ⟨rfl, hfinite⟩)
    · have hcap := grown_le initial multiplier Span.zero attempt
      rw [Span.zero_nanos] at hcap
      exact Span.nanos_eq_zero_iff.mp (Nat.le_zero.mp hcap)
    · exact grown_zero_of_isFinite haccepted hfinite

end Growing

/-! ### Random cuts -/

section Cut

variable {factor draw : Binary64} {φ δ : ℚ} (hfactor : IsShare factor φ) (hdraw : IsShare draw δ)
  (span : Span)
include hfactor hdraw

/-- A cut leaves nothing exactly when less than one of the milliseconds is kept. -/
theorem shorten_eq_zero_iff (hsome : φ ≠ 0) :
    shorten span factor draw = Span.zero ↔
      ((Binary.ofNat span.millis).mul (keptShare factor draw)).value < 1 := by
  obtain ⟨share, hshare, -⟩ := exists_isShare_keptShare hfactor hdraw
  have hwhole : span.millis ≤ 2 ^ 64 := (Span.millis_le span).trans (by decide)
  rw [shorten_eq_floor hfactor hsome hshare, Span.ofMillis_eq_zero_iff,
    (hasValue_keptMillis hshare hwhole).2, ← Nat.floor_eq_zero]
  simp only [maxTicks]
  omega

end Cut

/-! ### Waits -/

/-- **Waits that vanish.**  For an accepted interval function, any attempt and a draw between zero and
one, the wait is zero exactly in the cases listed. -/
theorem wait_eq_zero_iff
    {interval : Interval}
    {draw : Binary64}
    (haccepted : interval.validate = .ok ())
    (hdraw : IsShare draw draw.value)
    (attempt : Nat) :
    interval.wait draw attempt = Span.zero ↔ interval.Vanishes draw attempt := by
  cases interval with
  | fixed interval => exact Iff.rfl
  | exponential initial multiplier cap => exact grown_eq_zero_iff haccepted
  | randomized initial multiplier cap factor =>
      have hchecked :=
        (checked_bind_eq_ok_iff (checkMultiplier multiplier) (fun _ => checkFactor factor) ()).mp
          haccepted
      have hfactor := isShare_of_checkFactor hchecked.2
      simp only [wait, Vanishes]
      split_ifs with hzero
      · rw [hzero] at hfactor
        rw [shorten_of_zero hfactor.hasValue, grown_eq_zero_iff hchecked.1]
      · exact shorten_eq_zero_iff hfactor hdraw _ hzero

section Randomized

variable {initial cap : Span} {multiplier factor draw : Binary64} {attempt : Nat}
  (haccepted : (Interval.randomized initial multiplier cap factor).validate = .ok ())
  (hdraw : IsShare draw draw.value)
include haccepted hdraw

/-- Less than a millisecond vanishes whenever it is to be cut at all. -/
theorem vanishes_of_lt_milli
    (hfactor : factor.value ≠ 0)
    (hshort : (grown initial multiplier cap attempt).nanos < nanosPerMilli) :
    (Interval.randomized initial multiplier cap factor).Vanishes draw attempt := by
  have hchecked :=
    (checked_bind_eq_ok_iff (checkMultiplier multiplier) (fun _ => checkFactor factor) ()).mp haccepted
  obtain ⟨share, hshare, -⟩ := exists_isShare_keptShare (isShare_of_checkFactor hchecked.2) hdraw
  have hnone : (grown initial multiplier cap attempt).millis = 0 := by
    unfold Span.millis
    rw [Nat.div_eq_of_lt hshort, Nat.zero_min]
  simp only [Vanishes]
  rw [if_neg hfactor, hnone, (hasValue_keptMillis hshare (Nat.zero_le _)).2]
  simp [keptMillis]

/-- A wait of which two milliseconds are to be kept does not vanish. -/
theorem not_vanishes_of_two_le
    (hexact : (grown initial multiplier cap attempt).millis ≤ 2 ^ 53)
    (htwo : 2 ≤ (1 - factor.value) * (grown initial multiplier cap attempt).millis) :
    ¬ (Interval.randomized initial multiplier cap factor).Vanishes draw attempt := by
  have hchecked :=
    (checked_bind_eq_ok_iff (checkMultiplier multiplier) (fun _ => checkFactor factor) ()).mp haccepted
  have hfactor := isShare_of_checkFactor hchecked.2
  obtain ⟨share, hshare, hleast⟩ := exists_isShare_keptShare hfactor hdraw
  have hkept := le_keptMillis_add_one hshare hleast hexact
  simp only [Vanishes]
  split_ifs
  · intro hstalls
    rw [(grown_eq_zero_iff hchecked.1).mpr hstalls] at htwo
    norm_num [Span.millis, Span.zero_nanos] at htwo
  · rw [(hasValue_keptMillis hshare (hexact.trans (by decide))).2, not_lt]
    linarith

end Randomized
end Interval
end FaultTolerance
