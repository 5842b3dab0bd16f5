import FaultTolerance.Proofs.Numeric.Value

/-!
# Powers in floating point

A power is a chain of rounded products, so it is not known exactly; but rounding passes no power of
two, and that is enough to say on which side of the ceiling it ends.  A bound by a power of two is
carried through the products by a grade that adds up.

## Main definitions

* `Binary.FromTwoPow`: infinity, or a value from a power of two on.
* `Binary.UpToTwoPow`: a value from one up to a power of two, if there is room for that power.

**Results.**
* `Binary.pow_graded`: what adds up along products multiplies along a power.
* `Binary.isFinite_pow`: a power with room below the ceiling is finite.
* `Binary.HasValue.pow_fromTwoPow`, `Binary.FromTwoPow.isFinite_eq_false`: a power that reaches the
  ceiling is not.
-/

namespace FaultTolerance
namespace Numeric
namespace Binary

variable {f : Format} {P : Nat → Binary f → Prop}

section Graded

variable (hmul : ∀ {i j : Nat} {x y : Binary f}, P i x → P j y → P (i + j) (x.mul y))
include hmul

/-- The loop invariant of repeated squaring: the grade of the square times the exponent that is left,
and that of the product. -/
theorem pow_go_graded
    {i j : Nat}
    {square product : Binary f}
    (n : Nat)
    (hsquare : P i square)
    (hproduct : P j product) :
    P (i * n + j) (pow.go square n product) := by
  induction n using Nat.strong_induction_on generalizing i j square product with
  | _ n ih =>
      rw [pow.go]
      -- The low bit of the exponent decides whether the square is taken.
      have hnext :
          P (i * (n % 2) + j) (if n % 2 = 1 then product.mul square else product) := by
        rcases Nat.mod_two_eq_zero_or_one n with heven | hodd
        · simpa [heven] using hproduct
        · simpa [hodd, Nat.add_comm] using hmul hproduct hsquare
      have hsplit : i * n = (i + i) * (n / 2) + i * (n % 2) := by
        conv_lhs => rw [← Nat.div_add_mod n 2]
        ring
      by_cases hlast : n / 2 = 0
      · rw [hlast, Nat.mul_zero, Nat.zero_add] at hsplit
        rw [hsplit, if_pos hlast]
        exact hnext
      · rw [hsplit, if_neg hlast, Nat.add_assoc]
        exact ih (n / 2) (by omega) (hmul hsquare hsquare) hnext

/-- What adds up along products multiplies along a power. -/
theorem pow_graded
    {i : Nat}
    {base : Binary f}
    (hone : P 0 (ofNat 1))
    (hbase : P i base)
    (n : Nat) :
    P (i * n) (base.pow n) :=
  pow_go_graded hmul n hbase hone

end Graded

/-- Infinity, or a value from a power of two on. -/
def FromTwoPow
    (bits : Nat)
    (x : Binary f) : Prop :=
  x = .infinite false ∨
    ∃ quanta fits, x = .finite false quanta fits ∧ 2 ^ (bits + f.scale) ≤ quanta

/-- A value from one up to a power of two, if there is room for that power. -/
def UpToTwoPow
    (bits : Nat)
    (x : Binary f) : Prop :=
  bits + f.scale < f.ceiling → ∃ v, x.HasValue v ∧ 1 ≤ v ∧ v ≤ 2 ^ bits

variable {x y : Binary f} {v : ℚ} {i j : Nat}

theorem HasValue.fromTwoPow
    (hx : x.HasValue v)
    (hv : 2 ^ i ≤ v) :
    x.FromTwoPow i := by
  obtain ⟨s, a, hfits, rfl, rfl⟩ := hx.exists_finite
  have hpositive : 0 < (signed s a : ℚ) / 2 ^ f.scale :=
    lt_of_lt_of_le (by positivity) hv
  have hmagnitude := (HasValue.magnitude_of_nonneg hpositive.le).1
  have hsign : s = false := by
    cases s with
    | false => rfl
    | true =>
        rw [(HasValue.magnitude_of_nonneg hpositive.le).2 rfl] at hpositive
        simp [signed] at hpositive
  subst hsign
  rw [hmagnitude, le_div_iff₀ (by positivity), ← pow_add] at hv
  exact Or.inr ⟨a, hfits, rfl, by exact_mod_cast hv⟩

/-- What comes from a power of two on is a value as soon as it is finite. -/
theorem FromTwoPow.exists_hasValue
    (hx : x.FromTwoPow i)
    (hfinite : x.isFinite = true) :
    ∃ v, x.HasValue v ∧ 2 ^ i ≤ v := by
  rcases hx with rfl | ⟨a, hfits, rfl, hleast⟩
  · cases hfinite
  · refine ⟨_, hasValue_value rfl, ?_⟩
    show (2 : ℚ) ^ i ≤ ((a : Int) : ℚ) / 2 ^ f.scale
    rw [le_div_iff₀ (by positivity), ← pow_add]
    exact_mod_cast hleast

/-- Otherwise it is infinity. -/
theorem FromTwoPow.eq_infinite
    (hx : x.FromTwoPow i)
    (hinfinite : x.isFinite = false) :
    x = .infinite false := by
  rcases hx with rfl | ⟨a, hfits, rfl, -⟩
  · rfl
  · cases hinfinite

/-- There is no value from the ceiling on. -/
theorem FromTwoPow.isFinite_eq_false
    (hx : x.FromTwoPow i)
    (hceiling : f.ceiling ≤ i + f.scale) :
    x.isFinite = false := by
  rcases hx with rfl | ⟨a, hfits, rfl, hleast⟩
  · rfl
  · have hbelow := (Format.representable_iff.mp hfits).2
    have hpower : 2 ^ f.ceiling ≤ 2 ^ (i + f.scale) := Nat.pow_le_pow_right (by decide) hceiling
    omega

section Bounds

variable [f.Regular]

theorem UpToTwoPow.mul
    (hx : x.UpToTwoPow i)
    (hy : y.UpToTwoPow j) :
    (x.mul y).UpToTwoPow (i + j) := by
  intro hroom
  obtain ⟨v, hvalue, hlow, hhigh⟩ := hx (by omega)
  obtain ⟨w, hother, hotherLow, hotherHigh⟩ := hy (by omega)
  have hproductHigh : v * w ≤ 2 ^ (i + j) := by
    rw [pow_add]
    gcongr
  have hproductLow : 2 ^ 0 ≤ v * w := by
    rw [pow_zero]
    exact one_le_mul_of_one_le_of_one_le hlow hotherLow
  refine ⟨f.toNearest (v * w), ?_, ?_, ?_⟩
  · exact hvalue.mul hother (by linarith) (by linarith) hproductHigh hroom
  · simpa using f.two_pow_le_toNearest hproductLow
  · exact f.toNearest_le_two_pow (by positivity) hproductHigh

theorem FromTwoPow.mul
    (hx : x.FromTwoPow i)
    (hy : y.FromTwoPow j) :
    (x.mul y).FromTwoPow (i + j) := by
  have hpositive {bits n : Nat} (hn : 2 ^ bits ≤ n) : n ≠ 0 :=
    (lt_of_lt_of_le (Nat.two_pow_pos _) hn).ne'
  rcases hx with rfl | ⟨a, _, rfl, ha⟩
  · rcases hy with rfl | ⟨b, _, rfl, hb⟩
    · exact Or.inl rfl
    · exact Or.inl (if_neg (hpositive hb))
  · rcases hy with rfl | ⟨b, _, rfl, hb⟩
    · exact Or.inl (if_neg (hpositive ha))
    · have hproduct : 2 ^ (i + j + f.scale) * 2 ^ f.scale ≤ a * b := by
        calc 2 ^ (i + j + f.scale) * 2 ^ f.scale = 2 ^ (i + f.scale) * 2 ^ (j + f.scale) := by ring
          _ ≤ a * b := Nat.mul_le_mul ha hb
      have hleast : 2 ^ (i + j + f.scale) ≤ f.nearest (a * b) (2 ^ f.scale) :=
        f.le_nearest (Nat.two_pow_pos _) (Format.exact_two_pow _) hproduct
      by_cases hfits : f.Representable (f.nearest (a * b) (2 ^ f.scale))
      · exact Or.inr ⟨_, hfits, dif_pos hfits, hleast⟩
      · exact Or.inl (dif_neg hfits)

/-- A power with room below the ceiling is finite. -/
theorem isFinite_pow
    {n : Nat}
    (hx : x.HasValue v)
    (hlow : 1 ≤ v)
    (hhigh : v ≤ 2 ^ i)
    (hroom : i * n + f.scale < f.ceiling) :
    (x.pow n).isFinite = true := by
  have hstart : (ofNat 1 : Binary f).UpToTwoPow 0 := fun _ =>
    ⟨1, hasValue_one, le_rfl, by norm_num⟩
  obtain ⟨w, hvalue, -, -⟩ :=
    pow_graded UpToTwoPow.mul hstart (fun _ => ⟨v, hx, hlow, hhigh⟩) n hroom
  exact hvalue.1

/-- A power of a value from a power of two on. -/
theorem HasValue.pow_fromTwoPow
    (hx : x.HasValue v)
    (hv : 2 ^ i ≤ v)
    (n : Nat) :
    (x.pow n).FromTwoPow (i * n) :=
  pow_graded FromTwoPow.mul
    (hasValue_one.fromTwoPow (by norm_num)) (hx.fromTwoPow hv) n

end Bounds
end Binary
end Numeric
end FaultTolerance
