import FaultTolerance.Numeric.Decimal
import FaultTolerance.Proofs.Numeric.Rounding

/-!
# Reading numerals

Reading a numeral gives the nearest value of a binary format.  The numeral that spells out a finite
value exactly therefore reads back as that value, and the numeral of a natural number reads as the
value nearest to that number.

**Results.**
* `Decimal.toBinary_ofQuanta`: an exact numeral reads back.
* `Decimal.toBinary_natural`: a natural number reads as the value nearest to it.
-/

namespace FaultTolerance
namespace Numeric

namespace Decimal

variable {f : Format}

/-- The numeral that spells out a finite value exactly reads back as that value.  The digits of the
least quantum must not vanish past the horizon, as they do not in the interchange formats. -/
theorem toBinary_ofQuanta
    (hhorizon : 10 ^ (f.scale - 400) ≤ 5 ^ f.scale)
    (negative : Bool)
    {quanta : Nat}
    (hfits : f.Representable quanta) :
    ((ofQuanta f negative quanta).toBinary : Binary f) = .finite negative quanta hfits := by
  rcases Nat.eq_zero_or_pos quanta with rfl | hpositive
  · simp [toBinary, ofQuanta, Binary.zero]
  · have hdigits : 5 ^ f.scale ≤ quanta * 5 ^ f.scale :=
      Nat.le_mul_of_pos_left _ hpositive
    have hseen : ¬ -(f.scale : Int) + digitCount (quanta * 5 ^ f.scale) < -horizon := by
      intro hvanished
      have hfew : digitCount (quanta * 5 ^ f.scale) ≤ f.scale - 400 := by
        simp only [horizon] at hvanished
        omega
      have hless : quanta * 5 ^ f.scale < 10 ^ (f.scale - 400) := by
        refine (Nat.length_toDigits_le_iff (by decide) ?_).mp hfew
        simp only [horizon] at hvanished
        omega
      omega
    have hexact : quanta * 5 ^ f.scale * 10 ^ 0 * 2 ^ f.scale = quanta * 10 ^ f.scale := by
      have hten : (10 : Nat) ^ f.scale = 5 ^ f.scale * 2 ^ f.scale := Nat.mul_pow 5 2 f.scale
      rw [hten]
      ring
    have hnone : (-(f.scale : Int)).toNat = 0 := by
      omega
    have hplaces : (-(-(f.scale : Int))).toNat = f.scale := by
      omega
    unfold toBinary ofQuanta
    simp only [Nat.pow_eq]
    rw [if_neg (by positivity), if_neg (by simp only [horizon]; omega), if_neg hseen, hnone, hplaces,
      hexact]
    exact Binary.round_mul_right negative (Nat.pos_of_neZero _) hfits

/-- A natural number reads as the nearest value. -/
theorem toBinary_natural (n : Nat) :
    ((⟨false, n, 0⟩ : Decimal).toBinary : Binary f) = Binary.ofNat n := by
  have hseen : ¬ (0 : Int) + digitCount n < -horizon := by
    simp only [horizon]
    omega
  unfold toBinary
  rw [if_neg (show ¬ horizon < (0 : Int) by decide), if_neg hseen]
  rcases Nat.eq_zero_or_pos n with rfl | hpositive
  · unfold Binary.ofNat
    rw [if_pos rfl, Nat.zero_mul]
    exact (Binary.round_mul_right false Nat.one_pos f.representable_zero).symm
  · rw [if_neg hpositive.ne']
    show Binary.round false (n * 1 * 2 ^ f.scale) 1 = _
    rw [Nat.mul_one]
    rfl

end Decimal

end Numeric
end FaultTolerance
