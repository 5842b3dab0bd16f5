import FaultTolerance.Proofs.Numeric.Value
import FaultTolerance.Proofs.Window.Judgement

/-!
# Percentages in single precision

A percentage is computed with four roundings: the count, its product with one hundred, the number of
calls, and the quotient.  The last one does no harm, since a threshold is itself a single-precision
number and rounding keeps the order.  The first three are exact for small windows and lose up to three
parts in `2 ^ 24` in large ones, so that the percentage of a window in which every call failed can
stay short of one hundred.

## Main definitions

* `Snapshot.exactRate`: a percentage as a rational number.
* `Snapshot.roundedRate`: the percentage that is computed.

**Results.**
* `Snapshot.hasValue_percentage`: what is computed.
* `Snapshot.roundedQuotient_eq`, `Snapshot.exactRate_mul_le`, `Snapshot.le_roundedQuotient_self`: what
  the first three roundings cost.
* `Thresholds.evaluate_rounded`: when a window is above its thresholds, and by how much the exact
  percentage has to reach a threshold.
-/

namespace FaultTolerance
namespace Window

open Time Numeric

namespace Snapshot

/-- The percentage of a count. -/
def exactRate (count total : Nat) : ℚ :=
  100 * count / total

/-- The percentage before its quotient is rounded. -/
def roundedQuotient (count total : Nat) : ℚ :=
  binary32.toNearest (binary32.toNearest count * 100) / binary32.toNearest total

/-- The percentage in single precision. -/
def roundedRate (count total : Nat) : ℚ :=
  binary32.toNearest (roundedQuotient count total)

variable {count total : Nat}

/-- Counts of 32 bits stay far below the ceiling. -/
theorem hasValue_percentage
    (hcount : count ≤ total)
    (hsome : 0 < total)
    (htotal : total < 2 ^ 32) :
    (percentage count total).HasValue (roundedRate count total) := by
  have hcounted : (Binary.ofNat count : Binary32).HasValue (binary32.toNearest count) :=
    Binary.hasValue_ofNat (hcount.trans htotal.le) (by decide)
  have hhundred : (Binary.ofNat 100 : Binary32).HasValue 100 :=
    Binary.hasValue_ofNat_exact (by decide)
  have hcalls : (Binary.ofNat total : Binary32).HasValue (binary32.toNearest total) :=
    Binary.hasValue_ofNat htotal.le (by decide)
  have hcountBelow : binary32.toNearest count ≤ 2 ^ 32 :=
    binary32.toNearest_le_two_pow (by positivity) (by exact_mod_cast hcount.trans htotal.le)
  have hcallsAbove : 1 ≤ binary32.toNearest total :=
    binary32.one_le_toNearest (by exact_mod_cast hsome)
  have hproductBelow : binary32.toNearest count * 100 ≤ 2 ^ 39 := by
    linarith
  have hnonneg : 0 ≤ binary32.toNearest count * 100 :=
    mul_nonneg (binary32.toNearest_nonneg _) (by norm_num)
  have hproduct :
      ((Binary.ofNat count).mul (Binary.ofNat 100) : Binary32).HasValue
        (binary32.toNearest (binary32.toNearest count * 100)) :=
    hcounted.mul hhundred (binary32.toNearest_nonneg _) (by norm_num) hproductBelow
      (by decide)
  have hquotientBelow : roundedQuotient count total ≤ 2 ^ 39 :=
    (div_le_self (binary32.toNearest_nonneg _) hcallsAbove).trans
      (binary32.toNearest_le_two_pow hnonneg hproductBelow)
  exact hproduct.div hcalls (binary32.toNearest_nonneg _) (by linarith) hquotientBelow
    (by decide)

/-! ### What the roundings cost -/

/-- Rounding to single precision moves by one part in `2 ^ 24` at most, from one on. -/
theorem abs_toNearest_sub_le
    {x : ℚ}
    (hx : 1 ≤ x) :
    |binary32.toNearest x - x| ≤ x / 2 ^ 24 :=
  binary32.abs_toNearest_sub_le_of_one_le hx

/-- As long as the precision holds a quarter of the product and the number of calls, nothing is
rounded before the quotient. -/
theorem roundedQuotient_eq
    (hcount : 25 * count ≤ 2 ^ 24)
    (htotal : total ≤ 2 ^ 24) :
    roundedQuotient count total = exactRate count total := by
  have hproduct : (count : ℚ) * 100 = (25 * count : Nat) * 2 ^ 2 := by
    push_cast
    ring
  unfold roundedQuotient exactRate
  rw [binary32.toNearest_natCast (by omega : count ≤ 2 ^ 24),
    binary32.toNearest_natCast htotal, hproduct,
    binary32.toNearest_mul_two_pow hcount, ← hproduct, mul_comm]

/-- In general three roundings cost up to three parts in `2 ^ 24`. -/
theorem exactRate_mul_le (hsome : 0 < total) :
    (1 - 3 / 2 ^ 24) * exactRate count total ≤ roundedQuotient count total := by
  have hcalls : (1 : ℚ) ≤ total := by
    exact_mod_cast hsome
  rcases Nat.eq_zero_or_pos count with rfl | hcount
  · have hnone : exactRate 0 total = 0 := by
      simp [exactRate]
    rw [hnone, mul_zero]
    exact div_nonneg (binary32.toNearest_nonneg _) (binary32.toNearest_nonneg _)
  · have hcounted : (1 : ℚ) ≤ count := by
      exact_mod_cast hcount
    have hfirst := (abs_le.mp (abs_toNearest_sub_le hcounted)).1
    have hproduct : 1 ≤ binary32.toNearest count * 100 := by
      linarith
    have hsecond := (abs_le.mp (abs_toNearest_sub_le hproduct)).1
    have hthird := (abs_le.mp (abs_toNearest_sub_le hcalls)).2
    have hpositive : 0 < binary32.toNearest total :=
      zero_lt_one.trans_le (binary32.one_le_toNearest hcalls)
    unfold exactRate roundedQuotient
    rw [le_div_iff₀ hpositive]
    calc (1 - 3 / 2 ^ 24) * (100 * (count : ℚ) / total) * binary32.toNearest total
        ≤ (1 - 3 / 2 ^ 24) * (100 * (count : ℚ) / total) * ((1 + 1 / 2 ^ 24) * total) := by
          gcongr
          linarith
      _ = (1 - 3 / 2 ^ 24) * (1 + 1 / 2 ^ 24) * ((count : ℚ) * 100) := by
          field_simp
      _ ≤ binary32.toNearest (binary32.toNearest count * 100) := by
          linarith

/-- When every call counts, the number of calls cancels, and only the product is rounded. -/
theorem le_roundedQuotient_self (hsome : 0 < total) :
    100 * (1 - 1 / 2 ^ 24) ≤ roundedQuotient total total := by
  have hcalls : 1 ≤ binary32.toNearest total :=
    binary32.one_le_toNearest (by exact_mod_cast hsome)
  have hproduct := (abs_le.mp (abs_toNearest_sub_le
    (show 1 ≤ binary32.toNearest total * 100 by linarith))).1
  unfold roundedQuotient
  rw [le_div_iff₀ (by linarith)]
  linarith

/-- Rounding the quotient passes no single-precision number. -/
theorem le_roundedRate
    {threshold : Binary32}
    {v : ℚ}
    (hthreshold : threshold.HasValue v)
    (hv : 0 ≤ v)
    (h : v ≤ roundedQuotient count total) :
    v ≤ roundedRate count total :=
  hthreshold.le_toNearest hv h

/-- The greatest single-precision number below one hundred. -/
theorem le_of_lt_hundred
    {threshold : Binary32}
    {v : ℚ}
    (hthreshold : threshold.HasValue v)
    (hless : v < 100) :
    v ≤ 100 - 1 / 2 ^ 17 := by
  rcases le_or_gt ((2 : ℚ) ^ 6) v with hlarge | hsmall
  · obtain ⟨n, hn⟩ := hthreshold.exists_step hlarge
    have hwhole : v * 2 ^ 17 = n := by
      norm_num at hn ⊢
      linarith
    have hstep : n + 1 ≤ 100 * 2 ^ 17 := by
      have hbelow : (n : ℚ) < (100 * 2 ^ 17 : Nat) := by
        rw [← hwhole]
        push_cast
        linarith
      exact_mod_cast hbelow
    have hcast : (n : ℚ) + 1 ≤ 100 * 2 ^ 17 := by
      exact_mod_cast hstep
    linarith
  · linarith

end Snapshot

namespace Thresholds

variable {t : Thresholds} {s : Snapshot}

/-- Accepted percentages are values, and not negative. -/
theorem hasValue_of_validate (h : t.validate = .ok ()) :
    (t.failureRate.HasValue t.failureRate.value ∧ 0 ≤ t.failureRate.value) ∧
      t.slowRate.HasValue t.slowRate.value ∧ 0 ≤ t.slowRate.value := by
  have hzero : (Binary.zero false : Binary32).HasValue 0 := Binary.hasValue_zero false
  obtain ⟨hfailure, hslow⟩ := isFinite_of_validate h
  obtain ⟨hfailurePositive, hslowPositive⟩ := zero_lt_of_validate h
  have hfailureValue := Binary.hasValue_value hfailure
  have hslowValue := Binary.hasValue_value hslow
  exact ⟨⟨hfailureValue, ((hzero.lt_iff hfailureValue).mp hfailurePositive).le⟩, hslowValue,
    ((hzero.lt_iff hslowValue).mp hslowPositive).le⟩

/-- **Percentages in single precision.**  With accepted thresholds, and counts of 32 bits that reach the
minimum, a window is above its thresholds exactly when one of the two rounded percentages has reached
its threshold.  An exact percentage that has reached its threshold is never missed as long as `25`
times its count and the number of calls stay within `2 ^ 24`; or when three parts in `2 ^ 24` of it may
be lost; or when it counts every call and the threshold lies below one hundred. -/
theorem evaluate_rounded
    (haccepted : t.validate = .ok ())
    (hminimum : s.hasMinimum = true)
    (htotal : s.total < 2 ^ 32)
    (hfailed : s.failed ≤ s.total)
    (hslow : s.slow ≤ s.total) :
    (t.evaluate s = .aboveThresholds ↔
      t.failureRate.value ≤ Snapshot.roundedRate s.failed s.total ∨
        t.slowRate.value ≤ Snapshot.roundedRate s.slow s.total) ∧
      ∀ threshold count,
        (threshold, count) = (t.failureRate.value, s.failed) ∨
            (threshold, count) = (t.slowRate.value, s.slow) →
          threshold ≤ Snapshot.exactRate count s.total →
            (25 * count ≤ 2 ^ 24 → s.total ≤ 2 ^ 24 → t.evaluate s = .aboveThresholds) ∧
              (threshold ≤ (1 - 3 / 2 ^ 24) * Snapshot.exactRate count s.total →
                t.evaluate s = .aboveThresholds) ∧
              (count = s.total → threshold < 100 → t.evaluate s = .aboveThresholds) := by
  have hsome : 0 < s.total := by
    unfold Snapshot.hasMinimum at hminimum
    rw [Bool.and_eq_true, decide_eq_true_eq] at hminimum
    exact hminimum.1
  obtain ⟨hfailure, hslowness⟩ := hasValue_of_validate haccepted
  have hjudged :
      t.evaluate s = .aboveThresholds ↔
        t.failureRate.value ≤ Snapshot.roundedRate s.failed s.total ∨
          t.slowRate.value ≤ Snapshot.roundedRate s.slow s.total := by
    rw [evaluate_iff haccepted hminimum,
      hfailure.1.le_iff (Snapshot.hasValue_percentage hfailed hsome htotal),
      hslowness.1.le_iff (Snapshot.hasValue_percentage hslow hsome htotal)]
  refine ⟨hjudged, ?_⟩
  intro threshold count hrate hexact
  -- Either threshold is a single-precision number that decides alone once it is reached.
  have hrated :
      (∃ x : Binary32, x.HasValue threshold) ∧ 0 ≤ threshold ∧
        (threshold ≤ Snapshot.roundedRate count s.total → t.evaluate s = .aboveThresholds) := by
    rcases hrate with hrate | hrate
    · obtain ⟨rfl, rfl⟩ := Prod.mk.inj hrate
      exact ⟨⟨_, hfailure.1⟩, hfailure.2, fun hreached => hjudged.mpr (Or.inl hreached)⟩
    · obtain ⟨rfl, rfl⟩ := Prod.mk.inj hrate
      exact ⟨⟨_, hslowness.1⟩, hslowness.2, fun hreached => hjudged.mpr (Or.inr hreached)⟩
  obtain ⟨⟨x, hvalue⟩, hnonneg, hdecides⟩ := hrated
  have hreached (hquotient : threshold ≤ Snapshot.roundedQuotient count s.total) :
      t.evaluate s = .aboveThresholds :=
    hdecides (Snapshot.le_roundedRate hvalue hnonneg hquotient)
  refine ⟨fun hcount hcalls => ?_, fun hmargin => ?_, fun hall hless => ?_⟩
  · exact hreached (hexact.trans_eq (Snapshot.roundedQuotient_eq hcount hcalls).symm)
  · exact hreached (hmargin.trans (Snapshot.exactRate_mul_le hsome))
  · have hbelow := Snapshot.le_of_lt_hundred hvalue hless
    have hquotient := Snapshot.le_roundedQuotient_self hsome
    rw [hall] at hreached
    exact hreached (by linarith)

/-- 671089 calls that all failed: their product with one hundred is rounded down by four, and the
percentage is the number below one hundred.  A threshold of one hundred is missed, one of ninety-nine
is reached. -/
theorem evaluate_rounded_all_failed :
    let s : Snapshot := ⟨671089, 671089, 0, 0, Span.zero, 1⟩
    let hundred : Thresholds := ⟨Binary.ofNat 100, Binary.ofNat 100⟩
    let less : Thresholds := ⟨Binary.ofNat 99, Binary.ofNat 100⟩
    hundred.validate = .ok () ∧ less.validate = .ok () ∧ s.hasMinimum = true ∧
      hundred.failureRate.value = 100 ∧
      Snapshot.exactRate s.failed s.total = 100 ∧
      Snapshot.roundedRate s.failed s.total < 100 ∧
      hundred.evaluate s = .belowThresholds ∧
      less.evaluate s = .aboveThresholds := by
  intro s hundred less
  have hhundred : hundred.validate = .ok () := by
    decide +kernel
  have hless : less.validate = .ok () := by
    decide +kernel
  have hminimum : s.hasMinimum = true := rfl
  have hbelow : hundred.evaluate s = .belowThresholds := by
    decide +kernel
  have hwhole (n : Nat) (hn : n ≤ 2 ^ 24) : (Binary.ofNat n : Binary32).value = n :=
    (Binary.hasValue_ofNat_exact hn).2
  have hvalue : hundred.failureRate.value = 100 := by
    rw [hwhole 100 (by decide), Nat.cast_ofNat]
  have hlessValue : less.failureRate.value = 99 := by
    rw [hwhole 99 (by decide), Nat.cast_ofNat]
  have hexact : Snapshot.exactRate s.failed s.total = 100 := by
    norm_num [Snapshot.exactRate, s]
  refine ⟨hhundred, hless, hminimum, hvalue, hexact, ?_, hbelow, ?_⟩
  · have hmissed := (evaluate_rounded hhundred hminimum (by decide) le_rfl (by decide)).1.not.mp
      (by rw [hbelow]; decide)
    rw [hvalue, not_or, not_le] at hmissed
    exact hmissed.1
  · refine ((evaluate_rounded hless hminimum (by decide) le_rfl (by decide)).2 99 s.failed ?_ ?_).2.2
      rfl (by norm_num)
    · rw [hlessValue]
      exact Or.inl rfl
    · rw [hexact]
      norm_num

end Thresholds
end Window
end FaultTolerance
