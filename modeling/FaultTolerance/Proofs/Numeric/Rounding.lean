import FaultTolerance.Numeric.Binary
import Mathlib.Tactic

/-!
# Laws of rounding

Rounding to nearest, ties to even, on the grid of a binary format.  A magnitude is exact when the
precision holds it.  Rounding gives an exact magnitude, leaves exact ones alone and keeps the order,
so no exact magnitude is ever passed; it moves a quotient by half a step of the grid at most.  None of
this depends on the ceiling of the format, which only decides between a finite value and an infinity.

## Main definitions

* `Format.Exact`: the precision holds a magnitude.
* `Format.Regular`: what the laws ask of a format.

**Results.**
* `Format.nearest_mul_right`, `Format.exact_nearest`: what is exact stays, and rounding is exact.
* `Format.nearest_mono`: rounding keeps the order of quotients.
* `Format.le_nearest`, `Format.nearest_le`: rounding passes no exact magnitude.
* `Format.nearest_mul_two_pow`: rounding on a finer grid.
* `Format.two_mul_nearest`, `Format.nearest_near`: rounding moves by half a step at most.
* `Format.representable_nearest_iff`: only the ceiling keeps a rounded magnitude from being a value.
-/

namespace FaultTolerance
namespace Numeric

/-! ### Whole numbers -/

/-- A whole quotient needs no rounding. -/
theorem roundHalfEven_mul_right
    {den : Nat}
    (hden : 0 < den)
    (n : Nat) :
    roundHalfEven (n * den) den = n := by
  simp [roundHalfEven, Nat.mul_div_cancel n hden, hden]

/-- Only the quotient matters. -/
theorem roundHalfEven_scale
    {factor : Nat}
    (hfactor : 0 < factor)
    (num den : Nat) :
    roundHalfEven (num * factor) (den * factor) = roundHalfEven num den := by
  have hless : 2 * (num % den * factor) < den * factor ↔ 2 * (num % den) < den := by
    rw [← Nat.mul_assoc]
    exact Nat.mul_lt_mul_right hfactor
  have hmore : den * factor < 2 * (num % den * factor) ↔ den < 2 * (num % den) := by
    rw [← Nat.mul_assoc]
    exact Nat.mul_lt_mul_right hfactor
  simp only [roundHalfEven, Nat.mul_div_mul_right _ _ hfactor, Nat.mul_mod_mul_right, hless, hmore]

/-- Rounding goes up by one at most, and not below the whole part. -/
theorem roundHalfEven_bounds (num den : Nat) :
    num / den ≤ roundHalfEven num den ∧ roundHalfEven num den ≤ num / den + 1 := by
  have hparity : num / den % 2 < 2 := Nat.mod_lt _ (by decide)
  simp only [roundHalfEven]
  split_ifs <;> omega

/-- Rounding keeps the order. -/
theorem roundHalfEven_mono
    {num greater : Nat}
    (h : num ≤ greater)
    (den : Nat) :
    roundHalfEven num den ≤ roundHalfEven greater den := by
  rcases (Nat.div_le_div_right h : num / den ≤ greater / den).lt_or_eq with hless | hsame
  · have hbelow := (roundHalfEven_bounds num den).2
    have habove := (roundHalfEven_bounds greater den).1
    omega
  · -- With one whole part the rests decide.
    have hnum := Nat.div_add_mod num den
    have hgreater := Nat.div_add_mod greater den
    rw [← hsame] at hgreater
    have hparity : num / den % 2 < 2 := Nat.mod_lt _ (by decide)
    simp only [roundHalfEven, ← hsame]
    split_ifs <;> omega

/-- Rounding moves a quotient by one half at most. -/
theorem two_mul_roundHalfEven
    {den : Nat}
    (hden : 0 < den)
    (num : Nat) :
    2 * (roundHalfEven num den * den) ≤ 2 * num + den ∧
      2 * num ≤ 2 * (roundHalfEven num den * den) + den := by
  have hsplit := Nat.div_add_mod num den
  have hrest : num % den < den := Nat.mod_lt _ hden
  have hup : (num / den + 1) * den = den * (num / den) + den := by
    ring
  have hdown : num / den * den = den * (num / den) := Nat.mul_comm _ _
  simp only [roundHalfEven]
  split_ifs
  · omega
  · omega
  · rcases Nat.mod_two_eq_zero_or_one (num / den) with heven | hodd
    · rw [heven, Nat.add_zero]
      omega
    · rw [hodd]
      omega

namespace Format

variable {f : Format}

/-- The precision holds the magnitude: its spare bits are zero. -/
def Exact
    (f : Format)
    (quanta : Nat) : Prop :=
  2 ^ f.spare quanta ∣ quanta

/-- The precision is not empty, and the numbers within it are values. -/
class Regular (f : Format) : Prop where
  precision_pos : 0 < f.precision
  precision_le_scale : f.precision ≤ f.scale
  precision_add_scale_lt : f.precision + f.scale < f.ceiling

instance : Regular binary32 :=
  ⟨by decide, by decide, by decide⟩

instance : Regular binary64 :=
  ⟨by decide, by decide, by decide⟩

theorem representable_iff
    {quanta : Nat} :
    f.Representable quanta ↔ f.Exact quanta ∧ quanta < 2 ^ f.ceiling :=
  and_congr_left' (Nat.dvd_iff_mod_eq_zero ..).symm

/-- A magnitude has few enough bits once its spare ones are cut off. -/
theorem lt_two_pow_spare
    (f : Format)
    (quanta : Nat) :
    quanta < 2 ^ (f.precision + f.spare quanta) := by
  refine lt_of_lt_of_le Nat.lt_log2_self (Nat.pow_le_pow_right (by decide) ?_)
  unfold spare
  omega

theorem spare_mono
    {quanta greater : Nat}
    (h : quanta ≤ greater) :
    f.spare quanta ≤ f.spare greater := by
  have hlog : Nat.log2 quanta ≤ Nat.log2 greater := by
    rw [Nat.log2_eq_log_two, Nat.log2_eq_log_two]
    exact Nat.log_mono_right h
  unfold spare
  omega

/-- The step of a quotient below a power of two that fills the precision. -/
theorem spare_div_le
    [f.Regular]
    {num den bits : Nat}
    (hless : num < 2 ^ bits * den)
    (hbits : f.precision ≤ bits) :
    f.spare (num / den) + f.precision ≤ bits := by
  have hprecision : 0 < f.precision := Regular.precision_pos
  unfold spare
  rcases Nat.eq_zero_or_pos (num / den) with hnone | hpositive
  · rw [hnone, Nat.log2_zero]
    omega
  · have hquotient : num / den < 2 ^ bits :=
      Nat.div_lt_of_lt_mul (by rwa [Nat.mul_comm])
    have hlog := (Nat.log2_lt hpositive.ne').mpr hquotient
    omega

/-- A multiple of a step within the precision is exact. -/
theorem exact_of_dvd
    {quanta step : Nat}
    [f.Regular]
    (hdvd : 2 ^ step ∣ quanta)
    (hle : quanta ≤ 2 ^ (f.precision + step)) :
    f.Exact quanta := by
  have hprecision : 0 < f.precision := Regular.precision_pos
  unfold Exact
  rcases hle.lt_or_eq with hless | heq
  · -- No more bits are spare than the step leaves out.
    rcases Nat.eq_zero_or_pos quanta with rfl | hpositive
    · exact dvd_zero _
    · have hbits : Nat.log2 quanta < f.precision + step :=
        (Nat.log2_lt hpositive.ne').mpr hless
      refine dvd_trans (pow_dvd_pow 2 ?_) hdvd
      unfold spare
      omega
  · rw [heq]
    refine pow_dvd_pow 2 ?_
    unfold spare
    rw [Nat.log2_two_pow]
    omega

theorem exact_two_pow
    [f.Regular]
    (bits : Nat) :
    f.Exact (2 ^ bits) :=
  exact_of_dvd dvd_rfl (Nat.pow_le_pow_right (by decide) (Nat.le_add_left _ _))

theorem nearest_eq (num den : Nat) :
    f.nearest num den =
      roundHalfEven num (den * 2 ^ f.spare (num / den)) * 2 ^ f.spare (num / den) :=
  rfl

/-- Only the quotient matters. -/
theorem nearest_scale
    {factor : Nat}
    (hfactor : 0 < factor)
    (num den : Nat) :
    f.nearest (num * factor) (den * factor) = f.nearest num den := by
  rw [nearest_eq, nearest_eq, Nat.mul_div_mul_right _ _ hfactor, Nat.mul_right_comm den factor,
    roundHalfEven_scale hfactor]

/-- An exact magnitude is its own nearest. -/
theorem nearest_mul_right
    {quanta den : Nat}
    (hden : 0 < den)
    (hexact : f.Exact quanta) :
    f.nearest (quanta * den) den = quanta := by
  obtain ⟨n, hn⟩ := hexact
  rw [nearest_eq, Nat.mul_div_cancel quanta hden]
  generalize f.spare quanta = spare at hn ⊢
  have hnum : quanta * den = n * (den * 2 ^ spare) := by
    rw [hn]
    ring
  rw [hnum, roundHalfEven_mul_right (Nat.mul_pos hden (Nat.two_pow_pos _)), hn, Nat.mul_comm]

theorem nearest_one
    {quanta : Nat}
    (hexact : f.Exact quanta) :
    f.nearest quanta 1 = quanta := by
  simpa using nearest_mul_right Nat.one_pos hexact

/-- Rounding gives at most a full precision of bits at the step of the quotient. -/
theorem nearest_le_two_pow (num den : Nat) :
    f.nearest num den ≤ 2 ^ (f.precision + f.spare (num / den)) := by
  have hwhole : num / (den * 2 ^ f.spare (num / den)) < 2 ^ f.precision := by
    rw [← Nat.div_div_eq_div_mul]
    refine Nat.div_lt_of_lt_mul ?_
    rw [← Nat.pow_add, Nat.add_comm]
    exact f.lt_two_pow_spare _
  rw [Nat.pow_add]
  exact Nat.mul_le_mul_right _ (le_trans (roundHalfEven_bounds _ _).2 hwhole)

/-- Rounding gives an exact magnitude. -/
theorem exact_nearest
    [f.Regular]
    (num den : Nat) :
    f.Exact (f.nearest num den) :=
  exact_of_dvd (Dvd.intro_left _ rfl) (nearest_le_two_pow num den)

/-- Only the ceiling keeps a rounded magnitude from being a value. -/
theorem representable_nearest_iff
    [f.Regular]
    (num den : Nat) :
    f.Representable (f.nearest num den) ↔ f.nearest num den < 2 ^ f.ceiling := by
  rw [representable_iff]
  exact and_iff_right (exact_nearest num den)

section Order

variable (f : Format) [f.Regular]

/-- With a spare bit the magnitude fills the precision. -/
theorem two_pow_le_of_spare
    {quanta : Nat}
    (hspare : 0 < f.spare quanta) :
    2 ^ (f.precision - 1) * 2 ^ f.spare quanta ≤ quanta := by
  have hprecision : 0 < f.precision := Regular.precision_pos
  have hpositive : quanta ≠ 0 := by
    rintro rfl
    simp only [spare, Nat.log2_zero] at hspare
    omega
  rw [← Nat.pow_add]
  refine le_trans (Nat.pow_le_pow_right (by decide) ?_) (Nat.log2_self_le hpositive)
  unfold spare at *
  omega

/-- So does what it is rounded to. -/
theorem two_pow_le_nearest
    {num den : Nat}
    (hspare : 0 < f.spare (num / den)) :
    2 ^ (f.precision - 1) * 2 ^ f.spare (num / den) ≤ f.nearest num den := by
  have hwhole : 2 ^ (f.precision - 1) ≤ num / (den * 2 ^ f.spare (num / den)) := by
    rw [← Nat.div_div_eq_div_mul, Nat.le_div_iff_mul_le (Nat.two_pow_pos _)]
    exact f.two_pow_le_of_spare hspare
  exact Nat.mul_le_mul_right _ (le_trans hwhole (roundHalfEven_bounds _ _).1)

theorem nearest_mono_num
    {num greater : Nat}
    (h : num ≤ greater)
    (den : Nat) :
    f.nearest num den ≤ f.nearest greater den := by
  have hstep : f.spare (num / den) ≤ f.spare (greater / den) :=
    spare_mono (Nat.div_le_div_right h)
  rcases hstep.lt_or_eq with hless | hsame
  · -- A power of two lies between the two grids.
    refine le_trans (nearest_le_two_pow num den) (le_trans ?_ (f.two_pow_le_nearest ?_))
    · rw [← Nat.pow_add]
      exact Nat.pow_le_pow_right (by decide) (by omega)
    · omega
  · rw [nearest_eq, nearest_eq, hsame]
    exact Nat.mul_le_mul_right _ (roundHalfEven_mono h _)

/-- Rounding keeps the order of quotients. -/
theorem nearest_mono
    {num den greater base : Nat}
    (hden : 0 < den)
    (hbase : 0 < base)
    (h : num * base ≤ greater * den) :
    f.nearest num den ≤ f.nearest greater base := by
  rw [← nearest_scale hbase num den, ← nearest_scale hden greater base, Nat.mul_comm base den]
  exact f.nearest_mono_num h _

/-- Rounding does not pass an exact magnitude downwards. -/
theorem le_nearest
    {quanta num den : Nat}
    (hden : 0 < den)
    (hexact : f.Exact quanta)
    (h : quanta * den ≤ num) :
    quanta ≤ f.nearest num den := by
  rw [← nearest_mul_right hden hexact]
  exact f.nearest_mono_num h den

/-- Rounding does not pass an exact magnitude upwards. -/
theorem nearest_le
    {quanta num den : Nat}
    (hden : 0 < den)
    (hexact : f.Exact quanta)
    (h : num ≤ quanta * den) :
    f.nearest num den ≤ quanta := by
  conv_rhs => rw [← nearest_mul_right hden hexact]
  exact f.nearest_mono_num h den

end Order

/-! ### How far rounding moves -/

/-- Rounding moves a quotient by half a step of its grid at most. -/
theorem two_mul_nearest
    (f : Format)
    {den : Nat}
    (hden : 0 < den)
    (num : Nat) :
    2 * (f.nearest num den * den) ≤ 2 * num + den * 2 ^ f.spare (num / den) ∧
      2 * num ≤ 2 * (f.nearest num den * den) + den * 2 ^ f.spare (num / den) := by
  have hregroup :
      f.nearest num den * den =
        roundHalfEven num (den * 2 ^ f.spare (num / den)) * (den * 2 ^ f.spare (num / den)) := by
    rw [nearest_eq]
    ring
  rw [hregroup]
  exact two_mul_roundHalfEven (Nat.mul_pos hden (Nat.two_pow_pos _)) num

/-- From the least magnitude on that fills the precision, this is at most one part in
`2 ^ precision`. -/
theorem nearest_near
    (f : Format)
    [f.Regular]
    {num den : Nat}
    (hden : 0 < den)
    (hfull : 2 ^ (f.precision - 1) * den ≤ num) :
    2 ^ f.precision * (f.nearest num den * den) ≤ 2 ^ f.precision * num + num ∧
      2 ^ f.precision * num ≤ 2 ^ f.precision * (f.nearest num den * den) + num := by
  have hstep : 2 ^ (f.precision - 1) * (den * 2 ^ f.spare (num / den)) ≤ num := by
    rcases Nat.eq_zero_or_pos (f.spare (num / den)) with hnone | hspare
    · rwa [hnone, pow_zero, Nat.mul_one]
    · have hquotient := f.two_pow_le_of_spare hspare
      rw [Nat.le_div_iff_mul_le hden] at hquotient
      calc 2 ^ (f.precision - 1) * (den * 2 ^ f.spare (num / den))
          = 2 ^ (f.precision - 1) * 2 ^ f.spare (num / den) * den := by ring
        _ ≤ num := hquotient
  obtain ⟨hup, hdown⟩ := f.two_mul_nearest hden num
  have hdouble : 2 ^ f.precision = 2 ^ (f.precision - 1) * 2 :=
    (Nat.pow_pred_mul Regular.precision_pos).symm
  have hupper := Nat.mul_le_mul_left (2 ^ (f.precision - 1)) hup
  have hlower := Nat.mul_le_mul_left (2 ^ (f.precision - 1)) hdown
  rw [Nat.mul_add] at hupper hlower
  rw [hdouble, Nat.mul_assoc, Nat.mul_assoc]
  constructor
  · omega
  · omega

/-- On a finer grid a magnitude is rounded alike. -/
theorem nearest_mul_two_pow
    (f : Format)
    [f.Regular]
    (quanta bits : Nat) :
    f.nearest (quanta * 2 ^ bits) 1 = f.nearest quanta 1 * 2 ^ bits := by
  rcases Nat.eq_zero_or_pos (f.spare quanta) with hnone | hspare
  · -- The precision holds the magnitude, and with it the shifted one.
    have hexact : f.Exact quanta := by
      unfold Exact
      rw [hnone]
      exact one_dvd quanta
    have hless : quanta < 2 ^ f.precision := by
      simpa [hnone] using f.lt_two_pow_spare quanta
    have hshifted : f.Exact (quanta * 2 ^ bits) := by
      refine exact_of_dvd (dvd_mul_left _ _) ?_
      rw [Nat.pow_add]
      exact Nat.mul_le_mul_right _ hless.le
    rw [nearest_one hexact, nearest_one hshifted]
  · -- The step grows with the magnitude.
    have hpositive : quanta ≠ 0 :=
      (lt_of_lt_of_le (by positivity) (f.two_pow_le_of_spare hspare)).ne'
    have hlog : Nat.log2 (quanta * 2 ^ bits) = Nat.log2 quanta + bits := by
      obtain ⟨hleast, hmost⟩ := (Nat.log2_eq_iff hpositive).mp rfl
      rw [Nat.log2_eq_iff (Nat.mul_ne_zero hpositive (by positivity)), Nat.pow_add,
        Nat.add_right_comm, Nat.pow_add]
      exact ⟨Nat.mul_le_mul_right _ hleast, Nat.mul_lt_mul_of_pos_right hmost (by positivity)⟩
    have hstep : f.spare (quanta * 2 ^ bits) = f.spare quanta + bits := by
      unfold spare at hspare ⊢
      omega
    rw [nearest_eq, nearest_eq, Nat.div_one, Nat.div_one, hstep, Nat.one_mul, Nat.one_mul, Nat.pow_add,
      roundHalfEven_scale (by positivity), Nat.mul_assoc]

end Format

namespace Binary

variable {f : Format}

/-- An exact quotient is rounded to itself. -/
theorem round_mul_right
    (negative : Bool)
    {quanta den : Nat}
    (hden : 0 < den)
    (hfits : f.Representable quanta) :
    (round negative (quanta * den) den : Binary f) = .finite negative quanta hfits := by
  unfold round ofQuanta
  simp only [Format.nearest_mul_right hden (Format.representable_iff.mp hfits).1, dif_pos hfits]

end Binary
end Numeric
end FaultTolerance
