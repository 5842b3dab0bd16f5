import FaultTolerance.Proofs.Numeric.Rounding
import Mathlib.Algebra.Order.Floor.Semifield
import Mathlib.Data.Rat.Floor

/-!
# Floating-point numbers as rational numbers

A finite value of a binary format is a rational number, and an operation on finite values is the exact
rational operation followed by one rounding, as long as the result stays below the ceiling.  So a
program in floating point reads as a rational expression in which every operation is rounded, and the
laws of rounding say how far it is from the expression without them.

## Main definitions

* `Binary.value`: a finite value as a rational number.
* `Format.toNearest`: a rational number rounded to nearest, ties to even.
* `Binary.HasValue`: a finite value, and which.

**Results.**
* `Format.toNearest_mono`, `HasValue.toNearest_eq`: rounding keeps the order and leaves values alone.
* `Format.abs_toNearest_sub_le`, `Format.abs_toNearest_sub_le_div`: how far rounding moves.
* `HasValue.mul`, `HasValue.div`, `HasValue.add`, `HasValue.sub`: the operations.
* `HasValue.le_iff`, `HasValue.truncate`: the order, and the whole part.
-/

namespace FaultTolerance
namespace Numeric

/-- A finite value as a rational number. -/
def Binary.value
    {f : Format} : Binary f → ℚ
  | .finite negative quanta _ => (signed negative quanta : ℚ) / 2 ^ f.scale
  | _ => 0

/-- A rational number that is not negative, rounded to nearest, ties to even. -/
def Format.toNearest
    (f : Format)
    (x : ℚ) : ℚ :=
  f.nearest (x.num.toNat * 2 ^ f.scale) x.den / 2 ^ f.scale

namespace Format

variable {f : Format}

/-- A rational number that is not negative as a quotient of natural numbers. -/
theorem toNat_num_div_den
    {x : ℚ}
    (hx : 0 ≤ x) :
    (x.num.toNat : ℚ) / x.den = x := by
  have hnum : ((x.num.toNat : Int) : ℚ) = x.num := by
    rw [Int.toNat_of_nonneg (Rat.num_nonneg.mpr hx)]
  rw [← Int.cast_natCast, hnum, Rat.num_div_den]

/-- A rational number that is not negative as a quotient of quanta. -/
theorem exists_quanta
    (f : Format)
    {x : ℚ}
    (hx : 0 ≤ x) :
    ∃ num den : Nat, 0 < den ∧ x = num / den / 2 ^ f.scale := by
  refine ⟨x.num.toNat * 2 ^ f.scale, x.den, x.den_pos, ?_⟩
  push_cast
  rw [mul_div_right_comm, mul_div_assoc, div_self (by positivity), mul_one, toNat_num_div_den hx]

theorem toNearest_nonneg
    (f : Format)
    (x : ℚ) :
    0 ≤ f.toNearest x := by
  unfold toNearest
  positivity

@[simp]
theorem toNearest_zero (f : Format) : f.toNearest 0 = 0 := by
  simp [toNearest, nearest_eq, roundHalfEven]

section Laws

variable (f : Format) [f.Regular]

/-- Rounding a quotient of quanta. -/
theorem toNearest_quanta
    {den : Nat}
    (hden : 0 < den)
    (num : Nat) :
    f.toNearest ((num : ℚ) / den / 2 ^ f.scale) = f.nearest num den / 2 ^ f.scale := by
  generalize hx : (num : ℚ) / den / 2 ^ f.scale = x
  have hpositive : 0 ≤ x := by
    rw [← hx]
    positivity
  -- Both quotients of quanta are the same number.
  have hcross : x.num.toNat * 2 ^ f.scale * den = num * x.den := by
    have hquotient : (x.num.toNat : ℚ) / x.den = num / den / 2 ^ f.scale := by
      rw [toNat_num_div_den hpositive, hx]
    rw [div_div, div_eq_div_iff (by positivity) (by positivity)] at hquotient
    have hnat : x.num.toNat * (den * 2 ^ f.scale) = num * x.den := by
      exact_mod_cast hquotient
    rw [← hnat]
    ring
  have hnearest : f.nearest (x.num.toNat * 2 ^ f.scale) x.den = f.nearest num den :=
    le_antisymm (f.nearest_mono x.den_pos hden hcross.le)
      (f.nearest_mono hden x.den_pos hcross.ge)
  unfold toNearest
  rw [hnearest]

/-- Rounding keeps the order. -/
theorem toNearest_mono
    {x y : ℚ}
    (hx : 0 ≤ x)
    (h : x ≤ y) :
    f.toNearest x ≤ f.toNearest y := by
  obtain ⟨num, den, hden, rfl⟩ := f.exists_quanta hx
  obtain ⟨greater, base, hbase, rfl⟩ := f.exists_quanta (le_trans hx h)
  rw [f.toNearest_quanta hden, f.toNearest_quanta hbase]
  have hquanta : num * base ≤ greater * den := by
    rw [div_le_div_iff_of_pos_right (by positivity),
      div_le_div_iff₀ (by positivity) (by positivity)] at h
    exact_mod_cast h
  have hnearest := f.nearest_mono hden hbase hquanta
  gcongr

/-- On a coarser grid than that of the quanta. -/
theorem toNearest_div_two_pow
    {bits : Nat}
    (hbits : bits ≤ f.scale)
    (n : Nat) :
    f.toNearest ((n : ℚ) / 2 ^ bits) = f.nearest n 1 / 2 ^ bits := by
  have hscale : (2 : ℚ) ^ f.scale = 2 ^ bits * 2 ^ (f.scale - bits) := by
    rw [← pow_add, Nat.add_sub_cancel' hbits]
  have hquanta := f.toNearest_quanta Nat.one_pos (n * 2 ^ (f.scale - bits))
  rw [f.nearest_mul_two_pow, hscale] at hquanta
  push_cast at hquanta
  rwa [div_one, mul_div_mul_right _ _ (by positivity), mul_div_mul_right _ _ (by positivity)] at hquanta

/-- An exact magnitude is left alone. -/
theorem toNearest_exact
    {quanta : Nat}
    (hexact : f.Exact quanta) :
    f.toNearest ((quanta : ℚ) / 2 ^ f.scale) = quanta / 2 ^ f.scale := by
  have hquotient := f.toNearest_quanta Nat.one_pos quanta
  rwa [Nat.cast_one, div_one, nearest_one hexact] at hquotient

/-- A multiple of a power of two within the precision is left alone. -/
theorem toNearest_mul_two_pow
    {n : Nat}
    (hn : n ≤ 2 ^ f.precision)
    (bits : Nat) :
    f.toNearest ((n : ℚ) * 2 ^ bits) = n * 2 ^ bits := by
  have hexact : f.Exact (n * 2 ^ (bits + f.scale)) := by
    refine exact_of_dvd (dvd_mul_left _ _) ?_
    rw [Nat.pow_add 2 f.precision]
    exact Nat.mul_le_mul_right _ hn
  have hquanta : ((n * 2 ^ (bits + f.scale) : Nat) : ℚ) / 2 ^ f.scale = n * 2 ^ bits := by
    push_cast
    rw [pow_add, ← mul_assoc, mul_div_assoc, div_self (by positivity), mul_one]
  rw [← hquanta]
  exact f.toNearest_exact hexact

/-- A natural number within the precision is left alone. -/
theorem toNearest_natCast
    {n : Nat}
    (hn : n ≤ 2 ^ f.precision) :
    f.toNearest (n : ℚ) = n := by
  simpa using f.toNearest_mul_two_pow hn 0

theorem toNearest_two_pow (bits : Nat) : f.toNearest (2 ^ bits : ℚ) = 2 ^ bits := by
  simpa using f.toNearest_mul_two_pow (Nat.one_le_two_pow) bits

/-- Rounding passes no power of two upwards. -/
theorem toNearest_le_two_pow
    {x : ℚ}
    {bits : Nat}
    (hx : 0 ≤ x)
    (h : x ≤ 2 ^ bits) :
    f.toNearest x ≤ 2 ^ bits := by
  rw [← f.toNearest_two_pow bits]
  exact f.toNearest_mono hx h

/-- Rounding passes no power of two downwards. -/
theorem two_pow_le_toNearest
    {x : ℚ}
    {bits : Nat}
    (h : 2 ^ bits ≤ x) :
    2 ^ bits ≤ f.toNearest x := by
  rw [← f.toNearest_two_pow bits]
  exact f.toNearest_mono (by positivity) h

theorem one_le_toNearest
    {x : ℚ}
    (h : 1 ≤ x) :
    1 ≤ f.toNearest x := by
  rw [← pow_zero (2 : ℚ)] at h ⊢
  exact f.two_pow_le_toNearest h

/-! ### How far rounding moves -/

/-- The distance of a quotient of quanta from what it is rounded to. -/
theorem abs_toNearest_quanta_sub
    {den : Nat}
    (hden : 0 < den)
    (num : Nat) :
    |f.toNearest ((num : ℚ) / den / 2 ^ f.scale) - num / den / 2 ^ f.scale| =
      |(f.nearest num den : ℚ) * den - num| / (den * 2 ^ f.scale) := by
  have hfraction :
      (f.nearest num den : ℚ) / 2 ^ f.scale - num / den / 2 ^ f.scale =
        ((f.nearest num den : ℚ) * den - num) / (den * 2 ^ f.scale) := by
    field_simp
  rw [f.toNearest_quanta hden, hfraction, abs_div,
    abs_of_pos (show (0 : ℚ) < den * 2 ^ f.scale by positivity)]

/-- Up to a power of two, rounding moves by half a step at most: that power without the bits that the
precision holds. -/
theorem abs_toNearest_sub_le
    {x : ℚ}
    {bits : Nat}
    (hx : 0 ≤ x)
    (hbits : x ≤ 2 ^ bits) :
    |f.toNearest x - x| ≤ 2 ^ bits / 2 ^ (f.precision + 1) := by
  rcases hbits.lt_or_eq with hless | rfl
  · obtain ⟨num, den, hden, rfl⟩ := f.exists_quanta hx
    have hbelow : num < 2 ^ (bits + f.scale) * den := by
      rw [div_div, div_lt_iff₀ (by positivity)] at hless
      have hnat : num < 2 ^ bits * (den * 2 ^ f.scale) := by
        exact_mod_cast hless
      calc num < 2 ^ bits * (den * 2 ^ f.scale) := hnat
        _ = 2 ^ (bits + f.scale) * den := by ring
    -- The step of the quotient is at most that of the power.
    have hstep : f.spare (num / den) + f.precision ≤ bits + f.scale :=
      spare_div_le hbelow (le_add_left Regular.precision_le_scale)
    obtain ⟨hup, hdown⟩ := f.two_mul_nearest hden num
    have hmove :
        |(f.nearest num den : ℚ) * den - num| ≤ den * 2 ^ f.spare (num / den) / 2 := by
      qify at hup hdown
      rw [abs_le]
      constructor
      · linarith
      · linarith
    have hpower : (2 : ℚ) ^ f.spare (num / den) * 2 ^ f.precision ≤ 2 ^ bits * 2 ^ f.scale := by
      rw [← pow_add, ← pow_add]
      exact pow_le_pow_right₀ (by norm_num) hstep
    rw [f.abs_toNearest_quanta_sub hden, div_le_div_iff₀ (by positivity) (by positivity)]
    calc |(f.nearest num den : ℚ) * den - num| * 2 ^ (f.precision + 1)
        ≤ den * 2 ^ f.spare (num / den) / 2 * 2 ^ (f.precision + 1) := by gcongr
      _ = den * (2 ^ f.spare (num / den) * 2 ^ f.precision) := by ring
      _ ≤ den * (2 ^ bits * 2 ^ f.scale) := by gcongr
      _ = 2 ^ bits * (den * 2 ^ f.scale) := by ring
  · rw [f.toNearest_two_pow, sub_self, abs_zero]
    positivity

/-- From the least magnitude on that fills the precision, rounding moves by one part in
`2 ^ precision` at most. -/
theorem abs_toNearest_sub_le_div
    {x : ℚ}
    (hx : 0 ≤ x)
    (hfull : 2 ^ (f.precision - 1) ≤ x * 2 ^ f.scale) :
    |f.toNearest x - x| ≤ x / 2 ^ f.precision := by
  obtain ⟨num, den, hden, rfl⟩ := f.exists_quanta hx
  have hleast : 2 ^ (f.precision - 1) * den ≤ num := by
    rw [div_mul_cancel₀ _ (by positivity), le_div_iff₀ (by positivity)] at hfull
    exact_mod_cast hfull
  obtain ⟨hup, hdown⟩ := f.nearest_near hden hleast
  have hmove : |(f.nearest num den : ℚ) * den - num| * 2 ^ f.precision ≤ num := by
    qify at hup hdown
    rw [← abs_of_pos (show (0 : ℚ) < 2 ^ f.precision by positivity), ← abs_mul, abs_le]
    constructor
    · linarith
    · linarith
  rw [f.abs_toNearest_quanta_sub hden, div_div, div_div, div_le_div_iff₀ (by positivity)
    (by positivity)]
  calc |(f.nearest num den : ℚ) * den - num| * (den * (2 ^ f.scale * 2 ^ f.precision))
      = |(f.nearest num den : ℚ) * den - num| * 2 ^ f.precision * (den * 2 ^ f.scale) := by ring
    _ ≤ num * (den * 2 ^ f.scale) := by gcongr

/-- From one on, rounding moves by one part in `2 ^ precision` at most. -/
theorem abs_toNearest_sub_le_of_one_le
    {x : ℚ}
    (hx : 1 ≤ x) :
    |f.toNearest x - x| ≤ x / 2 ^ f.precision := by
  refine f.abs_toNearest_sub_le_div (by linarith) ?_
  calc (2 : ℚ) ^ (f.precision - 1) ≤ 2 ^ f.scale := by
        gcongr
        · norm_num
        · exact (Nat.sub_le _ _).trans Regular.precision_le_scale
    _ ≤ x * 2 ^ f.scale := le_mul_of_one_le_left (by positivity) hx

/-- Below one it moves by half that part of one. -/
theorem abs_toNearest_sub_le_add_one
    {x : ℚ}
    (hx : 0 ≤ x) :
    |f.toNearest x - x| ≤ (x + 1) / 2 ^ f.precision := by
  rcases le_or_gt 1 x with hlarge | hsmall
  · calc |f.toNearest x - x| ≤ x / 2 ^ f.precision :=
          f.abs_toNearest_sub_le_of_one_le hlarge
      _ ≤ (x + 1) / 2 ^ f.precision := by
          gcongr
          linarith
  · calc |f.toNearest x - x| ≤ 2 ^ 0 / 2 ^ (f.precision + 1) :=
          f.abs_toNearest_sub_le hx (by simpa using hsmall.le)
      _ ≤ (x + 1) / 2 ^ f.precision := by
          gcongr
          · linarith
          · norm_num
          · omega

/-- A natural number moves by one part in `2 ^ precision` of itself at most. -/
theorem abs_toNearest_natCast_sub_le (n : Nat) :
    |f.toNearest n - n| ≤ n / 2 ^ f.precision := by
  rcases Nat.eq_zero_or_pos n with rfl | hpositive
  · rw [Nat.cast_zero, toNearest_zero, sub_zero, abs_zero, zero_div]
  · exact f.abs_toNearest_sub_le_of_one_le (by exact_mod_cast hpositive)

end Laws
end Format

namespace Binary

variable {f : Format}

/-- A finite value, and which. -/
def HasValue
    (x : Binary f)
    (v : ℚ) : Prop :=
  x.isFinite = true ∧ x.value = v

theorem hasValue_value
    {x : Binary f}
    (h : x.isFinite = true) :
    x.HasValue x.value :=
  ⟨h, rfl⟩

theorem hasValue_zero (negative : Bool) : (zero negative : Binary f).HasValue 0 :=
  ⟨rfl, by cases negative <;> simp [value, zero, signed]⟩

namespace HasValue

variable {x y : Binary f} {v w : ℚ}

/-- What a finite value consists of. -/
theorem exists_finite (h : x.HasValue v) :
    ∃ negative quanta fits,
      x = .finite negative quanta fits ∧ v = (signed negative quanta : ℚ) / 2 ^ f.scale := by
  obtain ⟨hfinite, rfl⟩ := h
  cases x with
  | nan => cases hfinite
  | infinite negative => cases hfinite
  | finite negative quanta fits => exact ⟨negative, quanta, fits, rfl, rfl⟩

/-- A value that is not negative is its magnitude, whatever its sign says. -/
theorem magnitude_of_nonneg
    {negative : Bool}
    {quanta : Nat}
    (h : 0 ≤ (signed negative quanta : ℚ) / 2 ^ f.scale) :
    (signed negative quanta : ℚ) = quanta ∧ (negative = true → quanta = 0) := by
  have hsigned : 0 ≤ signed negative quanta := by
    rw [le_div_iff₀ (by positivity), zero_mul] at h
    exact_mod_cast h
  cases negative with
  | false => exact ⟨by simp [signed], nofun⟩
  | true =>
      have hnone : quanta = 0 := by
        simp only [signed, if_true] at hsigned
        omega
      exact ⟨by simp [signed, hnone], fun _ => hnone⟩

/-- The order of values is that of the rational numbers. -/
theorem le_iff
    (hx : x.HasValue v)
    (hy : y.HasValue w) :
    x.le y = true ↔ v ≤ w := by
  obtain ⟨s, a, _, rfl, rfl⟩ := hx.exists_finite
  obtain ⟨t, b, _, rfl, rfl⟩ := hy.exists_finite
  rw [div_le_div_iff_of_pos_right (by positivity)]
  simp only [Binary.le, decide_eq_true_eq]
  exact_mod_cast Iff.rfl

theorem lt_iff
    (hx : x.HasValue v)
    (hy : y.HasValue w) :
    x.lt y = true ↔ v < w := by
  unfold Binary.lt
  rw [Bool.and_eq_true, Bool.not_eq_true', ← Bool.not_eq_true, hx.le_iff hy, hy.le_iff hx, not_le]
  exact and_iff_right_of_imp le_of_lt

/-- A value that is not negative is an exact magnitude. -/
theorem toNearest_eq
    [f.Regular]
    (hx : x.HasValue v)
    (hv : 0 ≤ v) :
    f.toNearest v = v := by
  obtain ⟨s, a, hfits, rfl, rfl⟩ := hx.exists_finite
  rw [(magnitude_of_nonneg hv).1]
  exact f.toNearest_exact (Format.representable_iff.mp hfits).1

/-- Rounding passes no value upwards. -/
theorem toNearest_le
    [f.Regular]
    {u : ℚ}
    (hx : x.HasValue v)
    (hu : 0 ≤ u)
    (h : u ≤ v) :
    f.toNearest u ≤ v :=
  (f.toNearest_mono hu h).trans_eq (hx.toNearest_eq (hu.trans h))

/-- Rounding passes no value downwards. -/
theorem le_toNearest
    [f.Regular]
    {u : ℚ}
    (hx : x.HasValue v)
    (hv : 0 ≤ v)
    (h : v ≤ u) :
    v ≤ f.toNearest u :=
  (hx.toNearest_eq hv).symm.trans_le (f.toNearest_mono hv h)

/-- From a power of two on, a value is a multiple of the step there. -/
theorem exists_step
    [f.Regular]
    {bits : Nat}
    (hx : x.HasValue v)
    (hv : 2 ^ bits ≤ v) :
    ∃ n : Nat, v * 2 ^ f.precision = n * 2 ^ (bits + 1) := by
  have hscale : f.precision ≤ bits + 1 + f.scale :=
    le_add_left Format.Regular.precision_le_scale
  obtain ⟨s, a, hfits, rfl, rfl⟩ := hx.exists_finite
  have hmagnitude := (magnitude_of_nonneg (le_trans (by positivity) hv)).1
  rw [hmagnitude] at hv ⊢
  have hleast : 2 ^ (bits + f.scale) ≤ a := by
    rw [le_div_iff₀ (by positivity), ← pow_add] at hv
    exact_mod_cast hv
  have hpositive : a ≠ 0 :=
    (lt_of_lt_of_le (Nat.two_pow_pos _) hleast).ne'
  have hlog : bits + f.scale ≤ Nat.log2 a :=
    (Nat.le_log2 hpositive).mpr hleast
  have hstep : bits + 1 + f.scale - f.precision ≤ f.spare a := by
    unfold Format.spare
    omega
  obtain ⟨n, hn⟩ := (pow_dvd_pow 2 hstep).trans (Format.representable_iff.mp hfits).1
  refine ⟨n, ?_⟩
  have hpower : (2 : ℚ) ^ (bits + 1 + f.scale - f.precision) * 2 ^ f.precision =
      2 ^ (bits + 1) * 2 ^ f.scale := by
    rw [← pow_add, ← pow_add, Nat.sub_add_cancel hscale]
  rw [hn]
  push_cast
  rw [div_mul_eq_mul_div, div_eq_iff (by positivity), mul_right_comm, hpower]
  ring

/-- Zero times infinity is not a number. -/
theorem mul_infinite
    (hx : x.HasValue 0)
    (negative : Bool) :
    x.mul (.infinite negative) = .nan := by
  obtain ⟨s, a, _, rfl, hzero⟩ := hx.exists_finite
  have hnone : a = 0 := by
    rw [(magnitude_of_nonneg hzero.le).1, eq_comm, div_eq_zero_iff] at hzero
    exact_mod_cast hzero.resolve_right (by positivity)
  exact if_pos hnone

theorem neg (hx : x.HasValue v) : x.neg.HasValue (-v) := by
  obtain ⟨s, a, _, rfl, rfl⟩ := hx.exists_finite
  refine ⟨rfl, ?_⟩
  show (signed (!s) a : ℚ) / 2 ^ f.scale = -((signed s a : ℚ) / 2 ^ f.scale)
  rw [← neg_div]
  cases s <;> simp [signed]

/-- The whole part. -/
theorem truncate
    (hx : x.HasValue v)
    (hv : 0 ≤ v)
    (limit : Nat) :
    x.truncate limit = min ⌊v⌋₊ limit := by
  obtain ⟨s, a, _, rfl, rfl⟩ := hx.exists_finite
  obtain ⟨hmagnitude, hnone⟩ := magnitude_of_nonneg hv
  have hfloor : ⌊(signed s a : ℚ) / 2 ^ f.scale⌋₊ = a / 2 ^ f.scale := by
    rw [hmagnitude]
    exact_mod_cast Nat.floor_div_eq_div (K := ℚ) a (2 ^ f.scale)
  rw [hfloor]
  cases s with
  | false => rfl
  | true => simp [Binary.truncate, hnone rfl]

end HasValue

/-! ### Operations -/

section Operations

variable [f.Regular]

/-- Below the ceiling a quotient of quanta is rounded to a finite value.  Only a zero may carry the
sign. -/
theorem hasValue_round
    {negative : Bool}
    {num den bits : Nat}
    (hsign : negative = true → num = 0)
    (hden : 0 < den)
    (hbound : (num : ℚ) / den / 2 ^ f.scale ≤ 2 ^ bits)
    (hroom : bits + f.scale < f.ceiling) :
    (round negative num den : Binary f).HasValue (f.toNearest ((num : ℚ) / den / 2 ^ f.scale)) := by
  have hquanta : num ≤ 2 ^ (bits + f.scale) * den := by
    rw [div_div, div_le_iff₀ (by positivity)] at hbound
    have hnat : num ≤ 2 ^ bits * (den * 2 ^ f.scale) := by
      exact_mod_cast hbound
    calc num ≤ 2 ^ bits * (den * 2 ^ f.scale) := hnat
      _ = 2 ^ (bits + f.scale) * den := by ring
  have hbelow : f.nearest num den < 2 ^ f.ceiling :=
    lt_of_le_of_lt (f.nearest_le hden (Format.exact_two_pow _) hquanta)
      (Nat.pow_lt_pow_right (by decide) hroom)
  have hfits : f.Representable (f.nearest num den) :=
    (Format.representable_nearest_iff num den).mpr hbelow
  have hround : (round negative num den : Binary f) = .finite negative (f.nearest num den) hfits :=
    dif_pos hfits
  rw [hround, f.toNearest_quanta hden]
  refine ⟨rfl, ?_⟩
  cases negative with
  | false => rfl
  | true =>
      have hnone : f.nearest num den = 0 := by
        simp [hsign rfl, Format.nearest_eq, roundHalfEven]
      simp [value, signed, hnone]

theorem hasValue_ofNat
    {n bits : Nat}
    (hbound : n ≤ 2 ^ bits)
    (hroom : bits + f.scale < f.ceiling) :
    (ofNat n : Binary f).HasValue (f.toNearest n) := by
  have hquotient : ((n * 2 ^ f.scale : Nat) : ℚ) / (1 : Nat) / 2 ^ f.scale = n := by
    push_cast
    rw [div_one, mul_div_assoc, div_self (by positivity), mul_one]
  have hwhole : ((n * 2 ^ f.scale : Nat) : ℚ) / (1 : Nat) / 2 ^ f.scale ≤ 2 ^ bits := by
    rw [hquotient]
    exact_mod_cast hbound
  rw [← hquotient]
  exact hasValue_round nofun Nat.one_pos hwhole hroom

/-- A natural number within the precision is a value. -/
theorem hasValue_ofNat_exact
    {n : Nat}
    (hn : n ≤ 2 ^ f.precision) :
    (ofNat n : Binary f).HasValue n := by
  have hvalue := hasValue_ofNat hn Format.Regular.precision_add_scale_lt
  rwa [f.toNearest_natCast hn] at hvalue

theorem hasValue_one : (ofNat 1 : Binary f).HasValue 1 := by
  have hvalue : (ofNat 1 : Binary f).HasValue (1 : Nat) :=
    hasValue_ofNat_exact Nat.one_le_two_pow
  rwa [Nat.cast_one] at hvalue

variable {x y : Binary f} {v w : ℚ} {bits : Nat}

theorem HasValue.mul
    (hx : x.HasValue v)
    (hy : y.HasValue w)
    (hv : 0 ≤ v)
    (hw : 0 ≤ w)
    (hbound : v * w ≤ 2 ^ bits)
    (hroom : bits + f.scale < f.ceiling) :
    (x.mul y).HasValue (f.toNearest (v * w)) := by
  obtain ⟨s, a, _, rfl, rfl⟩ := hx.exists_finite
  obtain ⟨t, b, _, rfl, rfl⟩ := hy.exists_finite
  obtain ⟨hleft, hnoLeft⟩ := magnitude_of_nonneg hv
  obtain ⟨hright, hnoRight⟩ := magnitude_of_nonneg hw
  have hquotient :
      (signed s a : ℚ) / 2 ^ f.scale * ((signed t b : ℚ) / 2 ^ f.scale) =
        ((a * b : Nat) : ℚ) / (2 ^ f.scale : Nat) / 2 ^ f.scale := by
    rw [hleft, hright]
    push_cast
    field_simp
  rw [hquotient] at hbound ⊢
  refine hasValue_round ?_ (Nat.two_pow_pos _) hbound hroom
  intro hsign
  cases s with
  | true => rw [hnoLeft rfl, Nat.zero_mul]
  | false => rw [hnoRight (by simpa using hsign), Nat.mul_zero]

theorem HasValue.div
    (hx : x.HasValue v)
    (hy : y.HasValue w)
    (hv : 0 ≤ v)
    (hw : 0 < w)
    (hbound : v / w ≤ 2 ^ bits)
    (hroom : bits + f.scale < f.ceiling) :
    (x.div y).HasValue (f.toNearest (v / w)) := by
  obtain ⟨s, a, _, rfl, rfl⟩ := hx.exists_finite
  obtain ⟨t, b, _, rfl, rfl⟩ := hy.exists_finite
  obtain ⟨hleft, hnoLeft⟩ := magnitude_of_nonneg hv
  obtain ⟨hright, hnoRight⟩ := magnitude_of_nonneg hw.le
  have hpositive : b ≠ 0 := by
    rintro rfl
    simp [hright] at hw
  have hquotient :
      (signed s a : ℚ) / 2 ^ f.scale / ((signed t b : ℚ) / 2 ^ f.scale) =
        ((a * 2 ^ f.scale : Nat) : ℚ) / b / 2 ^ f.scale := by
    rw [hleft, hright]
    push_cast
    field_simp
  have hdiv :
      div (.finite s a ‹_›) (.finite t b ‹_›) = (round (s != t) (a * 2 ^ f.scale) b : Binary f) :=
    if_neg hpositive
  rw [hquotient] at hbound ⊢
  rw [hdiv]
  refine hasValue_round ?_ (Nat.pos_of_ne_zero hpositive) hbound hroom
  intro hsign
  cases s with
  | true => rw [hnoLeft rfl, Nat.zero_mul]
  | false => exact absurd (hnoRight (by simpa using hsign)) hpositive

theorem HasValue.add
    (hx : x.HasValue v)
    (hy : y.HasValue w)
    (hsum : 0 ≤ v + w)
    (hbound : v + w ≤ 2 ^ bits)
    (hroom : bits + f.scale < f.ceiling) :
    (x.add y).HasValue (f.toNearest (v + w)) := by
  obtain ⟨s, a, _, rfl, rfl⟩ := hx.exists_finite
  obtain ⟨t, b, _, rfl, rfl⟩ := hy.exists_finite
  have hvalue :
      (signed s a : ℚ) / 2 ^ f.scale + (signed t b : ℚ) / 2 ^ f.scale =
        ((signed s a + signed t b : Int) : ℚ) / 2 ^ f.scale := by
    push_cast
    rw [add_div]
  rw [hvalue] at hsum hbound ⊢
  have hsigned : 0 ≤ signed s a + signed t b := by
    rw [le_div_iff₀ (by positivity), zero_mul] at hsum
    exact_mod_cast hsum
  obtain ⟨n, hn⟩ := Int.eq_ofNat_of_zero_le hsigned
  have hadd :
      add (.finite s a ‹_›) (.finite t b ‹_›) =
        (if n = 0 then zero (s && t) else round false n 1 : Binary f) := by
    unfold Binary.add
    simp only [hn, Int.natAbs_natCast, Int.natCast_eq_zero, Int.not_ofNat_neg, decide_false]
  have hquotient : ((n : Int) : ℚ) / 2 ^ f.scale = (n : ℚ) / (1 : Nat) / 2 ^ f.scale := by
    push_cast
    rw [div_one]
  rw [hn, hquotient] at hbound ⊢
  rw [hadd]
  by_cases hnone : n = 0
  · rw [if_pos hnone, hnone, Nat.cast_zero, zero_div, zero_div, Format.toNearest_zero]
    exact hasValue_zero (s && t)
  · rw [if_neg hnone]
    exact hasValue_round nofun Nat.one_pos hbound hroom

theorem HasValue.sub
    (hx : x.HasValue v)
    (hy : y.HasValue w)
    (hle : w ≤ v)
    (hbound : v - w ≤ 2 ^ bits)
    (hroom : bits + f.scale < f.ceiling) :
    (x.sub y).HasValue (f.toNearest (v - w)) := by
  rw [sub_eq_add_neg] at hbound ⊢
  exact hx.add hy.neg (by linarith) hbound hroom

end Operations
end Binary
end Numeric
end FaultTolerance
