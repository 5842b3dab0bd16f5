import FaultTolerance.Proofs.Interval.Growth

/-!
# Waits that are cut at random

A random wait cuts the exponential one by up to a factor of itself.  It works on whole milliseconds: it
drops what the wait has beyond them, and again what the product has.  A wait of less than a millisecond,
or one that a cut brings below one, becomes zero.  In between, the share that is kept and the product
are rounded to double precision, which can cost one more millisecond as long as the precision holds
the wait, and a few parts in `2 ^ 53` of it beyond.  So the least that a cut is to leave is left only
if enough whole milliseconds are kept.

## Main definitions

* `IsShare`: a value between zero and one.
* `keptShare`: the share of the wait that is kept, as it is computed.
* `keptMillis`: the milliseconds that are kept, before they are cut to a whole number.

**Results.**
* `shorten_eq`, `shorten_eq_floor`: the cut as a product of values, and its whole part.
* `share_le_shorten_iff`, `shorten_le_iff`: when a cut leaves what it is to leave.
* `randomized_wait_within`: the bounds of the wait, in whole milliseconds.
-/

namespace FaultTolerance
namespace Interval

open Time Numeric

variable {factor draw : Binary64} {φ δ : ℚ}

/-! ### The share that is kept -/

/-- A value between zero and one. -/
structure IsShare
    (x : Binary64)
    (v : ℚ) : Prop where
  hasValue : x.HasValue v
  nonneg : 0 ≤ v
  le_one : v ≤ 1

/-- The share of a wait that is kept, as it is computed. -/
def keptShare (factor draw : Binary64) : Binary64 :=
  ((Binary.ofNat 1).sub factor).add (draw.mul factor)

/-- Accepted factors lie between zero and one. -/
theorem isShare_of_checkFactor (h : checkFactor factor = .ok ()) : IsShare factor factor.value := by
  have hvalue := Binary.hasValue_value (isFinite_of_checkFactor h)
  have hzero : (Binary.zero false : Binary64).HasValue 0 := Binary.hasValue_zero false
  have hone : (Binary.ofNat 1 : Binary64).HasValue 1 := Binary.hasValue_one
  simp only [checkFactor, require_eq_ok_iff, Bool.and_eq_true] at h
  exact ⟨hvalue, (hzero.le_iff hvalue).mp h.1, (hvalue.le_iff hone).mp h.2⟩

/-- A factor of zero cuts nothing. -/
theorem shorten_of_zero
    (hfactor : factor.HasValue 0)
    (span : Span)
    (draw : Binary64) :
    shorten span factor draw = span :=
  if_pos ((hfactor.le_iff (Binary.hasValue_zero false)).mpr le_rfl)

/-- A quarter of a step above one is rounded down to one. -/
theorem toNearest_one_add_quarter_step : binary64.toNearest (1 + 1 / 2 ^ 54) = 1 := by
  have hnearest : binary64.nearest (2 ^ 54 + 1) 1 = 2 ^ 54 := by
    decide
  have hround := binary64.toNearest_div_two_pow (by decide : 54 ≤ _) (2 ^ 54 + 1)
  rw [hnearest] at hround
  norm_num at hround ⊢
  exact hround

section Share

variable (hfactor : IsShare factor φ)
include hfactor

/-- A factor between zero and one is its own clamp. -/
theorem clampFactor_eq : clampFactor factor = factor := by
  have hzero : (Binary.zero false : Binary64).HasValue 0 := Binary.hasValue_zero false
  have hone : (Binary.ofNat 1 : Binary64).HasValue 1 := Binary.hasValue_one
  have hlow : ¬ factor.lt (Binary.zero false) = true := by
    rw [hfactor.hasValue.lt_iff hzero]
    exact not_lt.mpr hfactor.nonneg
  have hhigh : ¬ (Binary.ofNat 1 : Binary64).lt factor = true := by
    rw [hone.lt_iff hfactor.hasValue]
    exact not_lt.mpr hfactor.le_one
  obtain ⟨s, a, hfits, rfl, -⟩ := hfactor.hasValue.exists_finite
  unfold clampFactor
  simp only [hlow, hhigh, if_false, Bool.false_eq_true]

/-- A cut by a factor above zero, as a product. -/
theorem shorten_eq
    (hsome : φ ≠ 0)
    (span : Span)
    (draw : Binary64) :
    shorten span factor draw =
      Span.ofMillis (((Binary.ofNat span.millis).mul (keptShare factor draw)).truncate maxTicks) := by
  have hpositive : ¬ factor.le (Binary.zero false) = true := by
    rw [hfactor.hasValue.le_iff (Binary.hasValue_zero false)]
    exact fun hle => hsome (le_antisymm hle hfactor.nonneg)
  unfold shorten
  rw [if_neg hpositive]
  simp only [clampFactor_eq hfactor]
  rfl

/-- The share that is kept is at least one less the factor, but for a quarter of a step. -/
theorem exists_isShare_keptShare (hdraw : IsShare draw δ) :
    ∃ share, IsShare (keptShare factor draw) share ∧ 1 - φ - 1 / 2 ^ 54 ≤ share := by
  have hone : (Binary.ofNat 1 : Binary64).HasValue 1 := Binary.hasValue_one
  have hleast : 0 ≤ 1 - φ :=
    sub_nonneg.mpr hfactor.le_one
  have hleastBelow : 1 - φ ≤ 2 ^ 0 := by
    have hnonneg := hfactor.nonneg
    linarith
  have hcut : δ * φ ≤ φ := mul_le_of_le_one_left hfactor.nonneg hdraw.le_one
  have hcutNonneg : 0 ≤ δ * φ := mul_nonneg hdraw.nonneg hfactor.nonneg
  have hcutBelow : δ * φ ≤ 2 ^ 0 := by
    rw [pow_zero]
    exact hcut.trans hfactor.le_one
  -- The least share and the part that the draw gives back, each rounded.
  have hbase := hone.sub hfactor.hasValue hfactor.le_one hleastBelow (by decide)
  have hback := hdraw.hasValue.mul hfactor.hasValue hdraw.nonneg hfactor.nonneg hcutBelow (by decide)
  have hbaseNonneg := binary64.toNearest_nonneg (1 - φ)
  have hbackNonneg := binary64.toNearest_nonneg (δ * φ)
  have hbaseNear := abs_le.mp (binary64.abs_toNearest_sub_le hleast hleastBelow)
  have hbackBelow := hfactor.hasValue.toNearest_le hcutNonneg hcut
  norm_num at hbaseNear
  have hsum : binary64.toNearest (1 - φ) + binary64.toNearest (δ * φ) ≤ 1 + 1 / 2 ^ 54 := by
    norm_num
    linarith
  have hsumBelow : binary64.toNearest (1 - φ) + binary64.toNearest (δ * φ) ≤ 2 ^ 1 :=
    hsum.trans (by norm_num)
  have hsumNonneg : 0 ≤ binary64.toNearest (1 - φ) + binary64.toNearest (δ * φ) :=
    add_nonneg hbaseNonneg hbackNonneg
  have hkept := hbase.le_toNearest hbaseNonneg (le_add_of_nonneg_right hbackNonneg)
  refine ⟨_, ⟨hbase.add hback hsumNonneg hsumBelow (by decide), binary64.toNearest_nonneg _, ?_⟩, ?_⟩
  · exact (binary64.toNearest_mono hsumNonneg hsum).trans_eq toNearest_one_add_quarter_step
  · norm_num
    linarith

end Share

/-! ### The product -/

/-- What is kept of a number of milliseconds, before it is cut to a whole number. -/
def keptMillis
    (whole : Nat)
    (share : ℚ) : ℚ :=
  binary64.toNearest (binary64.toNearest whole * share)

theorem keptMillis_nonneg
    (whole : Nat)
    (share : ℚ) :
    0 ≤ keptMillis whole share :=
  binary64.toNearest_nonneg _

section Product

variable {x : Binary64} {share : ℚ} (hshare : IsShare x share)
include hshare

section Held

variable {whole : Nat} (hwhole : whole ≤ 2 ^ 64)
include hwhole

theorem hasValue_keptMillis : ((Binary.ofNat whole).mul x).HasValue (keptMillis whole share) := by
  have hcount : (Binary.ofNat whole : Binary64).HasValue (binary64.toNearest whole) :=
    Binary.hasValue_ofNat hwhole (by decide)
  have hbelow : binary64.toNearest whole ≤ 2 ^ 64 :=
    binary64.toNearest_le_two_pow (by positivity) (by exact_mod_cast hwhole)
  have hnonneg := binary64.toNearest_nonneg whole
  have hproduct : binary64.toNearest whole * share ≤ 2 ^ 64 :=
    (mul_le_of_le_one_right hnonneg hshare.le_one).trans hbelow
  exact hcount.mul hshare.hasValue hnonneg hshare.nonneg hproduct (by decide)

/-- No more is kept than there is, but for the rounding of the number itself. -/
theorem keptMillis_le : keptMillis whole share ≤ binary64.toNearest whole := by
  have hcount : (Binary.ofNat whole : Binary64).HasValue (binary64.toNearest whole) :=
    Binary.hasValue_ofNat hwhole (by decide)
  have hnonneg := binary64.toNearest_nonneg whole
  exact hcount.toNearest_le (mul_nonneg hnonneg hshare.nonneg)
    (mul_le_of_le_one_right hnonneg hshare.le_one)

end Held

variable (hleast : 1 - φ - 1 / 2 ^ 54 ≤ share)
include hleast

/-- As long as the precision holds the number, at most one millisecond is lost. -/
theorem le_keptMillis_add_one
    {whole : Nat}
    (hwhole : whole ≤ 2 ^ 53) :
    (1 - φ) * whole ≤ keptMillis whole share + 1 := by
  have hcast : (whole : ℚ) ≤ 2 ^ 53 := by
    exact_mod_cast hwhole
  have hexact : binary64.toNearest whole = whole :=
    binary64.toNearest_natCast hwhole
  have hnonneg : 0 ≤ (whole : ℚ) * share :=
    mul_nonneg (by positivity) hshare.nonneg
  have hproduct : (whole : ℚ) * share ≤ 2 ^ 53 :=
    (mul_le_of_le_one_right (by positivity) hshare.le_one).trans hcast
  have hnear := (abs_le.mp (binary64.abs_toNearest_sub_le hnonneg hproduct)).1
  have hhalf : (2 : ℚ) ^ 53 / 2 ^ (binary64.precision + 1) = 1 / 2 := by
    norm_num
  have hkept : (1 - φ - 1 / 2 ^ 54) * whole ≤ share * whole := by
    gcongr
  rw [hhalf] at hnear
  unfold keptMillis
  rw [hexact]
  linarith

/-- In general up to four parts in `2 ^ 53` are lost, by rounding the number, the share and the
product. -/
theorem le_keptMillis_add
    (hfactor : IsShare factor φ)
    (whole : Nat) :
    (1 - φ) * whole ≤ keptMillis whole share + whole / 2 ^ 51 := by
  have hlow := hfactor.nonneg
  have hhigh := hfactor.le_one
  rcases Nat.eq_zero_or_pos whole with rfl | hpositive
  · rw [Nat.cast_zero, mul_zero, zero_div, add_zero]
    exact keptMillis_nonneg 0 share
  · have hsome : (1 : ℚ) ≤ whole := by
      exact_mod_cast hpositive
    have hnonneg := binary64.toNearest_nonneg whole
    obtain ⟨hless, hmore⟩ := abs_le.mp (binary64.abs_toNearest_natCast_sub_le whole)
    have hproduct : binary64.toNearest whole * share ≤ binary64.toNearest whole :=
      mul_le_of_le_one_right hnonneg hshare.le_one
    have hnear := (abs_le.mp (binary64.abs_toNearest_sub_le_add_one
      (mul_nonneg hnonneg hshare.nonneg))).1
    have hkept : (1 - φ - 1 / 2 ^ 54) * binary64.toNearest whole ≤
        share * binary64.toNearest whole := by
      gcongr
    have hcut : (1 - φ) * (whole - whole / 2 ^ 53) ≤ (1 - φ) * binary64.toNearest whole :=
      mul_le_mul_of_nonneg_left (by linarith) (by linarith)
    have hgain : 0 ≤ φ * whole := by
      positivity
    have hpower : (2 : ℚ) ^ binary64.precision = 2 ^ 53 := rfl
    rw [hpower] at hnear hless hmore
    unfold keptMillis
    linarith

end Product

/-! ### The wait -/

section Whole

variable {share : ℚ}
variable (hfactor : IsShare factor φ) (hsome : φ ≠ 0) (hshare : IsShare (keptShare factor draw) share)
variable (span : Span)
include hfactor hsome hshare

/-- A cut leaves the whole part of the milliseconds that are kept, as far as it can be counted. -/
theorem shorten_eq_floor :
    shorten span factor draw =
      Span.ofMillis (min ⌊keptMillis span.millis share⌋₊ maxTicks) := by
  have hwhole : span.millis ≤ 2 ^ 64 := (Span.millis_le span).trans (by decide)
  rw [shorten_eq hfactor hsome,
    (hasValue_keptMillis hshare hwhole).truncate (keptMillis_nonneg _ share)]

/-- A cut leaves its share of the wait exactly if as many milliseconds are kept as make it up, and if
these can be counted. -/
theorem share_le_shorten_iff :
    let least := ⌈(1 - φ) * span.nanos / nanosPerMilli⌉₊
    (1 - φ) * span.nanos ≤ (shorten span factor draw).nanos ↔
      least ≤ maxTicks ∧ (least : ℚ) ≤ keptMillis span.millis share := by
  intro least
  have hmilli : (0 : ℚ) < nanosPerMilli := by
    norm_num
  rw [shorten_eq_floor hfactor hsome hshare, Span.ofMillis_nanos (Nat.min_le_right _ _),
    Nat.cast_mul, ← div_le_iff₀ hmilli, ← Nat.ceil_le, le_min_iff,
    Nat.le_floor_iff (keptMillis_nonneg _ share), and_comm]

/-- A cut leaves no more than the wait exactly if less than one millisecond is gained, or if there are
more milliseconds than can be counted. -/
theorem shorten_le_iff :
    (shorten span factor draw).nanos ≤ span.nanos ↔
      keptMillis span.millis share < span.millis + 1 ∨ span.millis = maxTicks := by
  have hmillis : span.millis = min (span.nanos / nanosPerMilli) maxTicks := rfl
  have hfloor :
      keptMillis span.millis share < span.millis + 1 ↔
        ⌊keptMillis span.millis share⌋₊ < span.millis + 1 := by
    rw [Nat.floor_lt (keptMillis_nonneg _ share)]
    push_cast
    rfl
  rw [shorten_eq_floor hfactor hsome hshare, Span.ofMillis_nanos (Nat.min_le_right _ _), hfloor,
    ← Nat.le_div_iff_mul_le (by decide)]
  generalize ⌊keptMillis span.millis share⌋₊ = kept at hfloor ⊢
  omega

end Whole

/-- A cut wait in whole milliseconds. -/
theorem exists_shorten
    (hfactor : IsShare factor φ)
    (hsome : φ ≠ 0)
    (hdraw : IsShare draw δ)
    (span : Span) :
    ∃ r : Nat, r ≤ maxTicks ∧ shorten span factor draw = Span.ofMillis r ∧
      (span.millis ≤ 2 ^ 53 → ⌊(1 - φ) * span.millis⌋₊ ≤ r + 1 ∧ r ≤ span.millis) ∧
      (1 - φ) * span.millis ≤ r + 1 + span.millis / 2 ^ 51 ∧
      (r : ℚ) ≤ span.millis + span.millis / 2 ^ 53 := by
  obtain ⟨share, hshare, hleast⟩ := exists_isShare_keptShare hfactor hdraw
  have hticks := Span.millis_le span
  rw [shorten_eq_floor hfactor hsome hshare]
  generalize span.millis = whole at hticks ⊢
  have hwhole : whole ≤ 2 ^ 64 :=
    hticks.trans (by decide)
  have hnonneg := keptMillis_nonneg whole share
  have hfloor := Nat.floor_le hnonneg
  have hnext := Nat.lt_floor_add_one (keptMillis whole share)
  have hbelow := keptMillis_le hshare hwhole
  -- The part that has to be kept is itself within the counter.
  have hpart : (1 - φ) * whole ≤ whole :=
    mul_le_of_le_one_left (by positivity) (sub_le_self 1 hfactor.nonneg)
  refine ⟨_, Nat.min_le_right _ _, rfl, fun hexact => ⟨?_, ?_⟩, ?_, ?_⟩
  · have hkept : ⌊(1 - φ) * (whole : ℚ)⌋₊ ≤ ⌊keptMillis whole share⌋₊ + 1 := by
      rw [← Nat.floor_add_one hnonneg]
      exact Nat.floor_le_floor (le_keptMillis_add_one hshare hleast hexact)
    have hcounted : ⌊(1 - φ) * (whole : ℚ)⌋₊ ≤ whole :=
      Nat.floor_le_of_le hpart
    omega
  · rw [binary64.toNearest_natCast hexact] at hbelow
    exact (Nat.min_le_left _ _).trans (Nat.floor_le_of_le hbelow)
  · rcases Nat.le_total ⌊keptMillis whole share⌋₊ maxTicks with hinside | hbeyond
    · have hkept := le_keptMillis_add hshare hleast hfactor whole
      rw [Nat.min_eq_left hinside]
      linarith
    · rw [Nat.min_eq_right hbeyond, add_assoc]
      calc (1 - φ) * (whole : ℚ) ≤ whole := hpart
        _ ≤ maxTicks := by exact_mod_cast hticks
        _ ≤ maxTicks + (1 + whole / 2 ^ 51) := le_add_of_nonneg_right (by positivity)
  · have hcut : ((min ⌊keptMillis whole share⌋₊ maxTicks : Nat) : ℚ) ≤ ⌊keptMillis whole share⌋₊ := by
      exact_mod_cast Nat.min_le_left _ _
    have hmore := (abs_le.mp (binary64.abs_toNearest_natCast_sub_le whole)).2
    have hpower : (2 : ℚ) ^ binary64.precision = 2 ^ 53 := rfl
    rw [hpower] at hmore
    linarith

/-- The bounds in nanoseconds: parts of a millisecond are dropped before the product and after it, and
one more millisecond may be lost. -/
theorem nanos_within
    (hfactor : IsShare factor φ)
    {span : Span}
    {whole r : Nat}
    (hwhole : whole = span.millis)
    (hexact : whole ≤ 2 ^ 53)
    (hleast : ⌊(1 - φ) * (whole : ℚ)⌋₊ ≤ r + 1)
    (hmost : r ≤ whole) :
    (1 - φ) * span.nanos < ((r * nanosPerMilli : Nat) : ℚ) + 3 * 1000000 ∧
      r * nanosPerMilli ≤ span.nanos := by
  obtain ⟨hfloor, hceil⟩ := Span.millis_bounds hwhole hexact
  have hnonneg := hfactor.nonneg
  have hkept : (1 - φ) * whole < r + 2 := by
    have hnext := Nat.lt_floor_add_one ((1 - φ) * (whole : ℚ))
    have hcast : (⌊(1 - φ) * (whole : ℚ)⌋₊ : ℚ) ≤ r + 1 := by
      exact_mod_cast hleast
    linarith
  have hspan : (span.nanos : ℚ) ≤ (whole + 1) * 1000000 := by
    exact_mod_cast hceil.le
  have hcut : (1 - φ) * span.nanos ≤ (1 - φ) * ((whole + 1) * 1000000) :=
    mul_le_mul_of_nonneg_left hspan (sub_nonneg.mpr hfactor.le_one)
  constructor
  · push_cast
    linarith
  · exact (Nat.mul_le_mul_right _ hmost).trans hfloor

/-- **Waits that are cut at random.**  For an accepted random function and a draw between zero and one,
let `grown` be the wait without the cut, and `whole` its milliseconds.  A factor of zero cuts nothing.
With any other the wait is a whole number of milliseconds.  Up to `2 ^ 53` milliseconds it is at most
`whole`, and at least the whole part of `1 - factor` times `whole`, or one less; so it lies between
three milliseconds less than `1 - factor` times the grown wait and that wait.  Beyond, the bounds
widen by the rounding of the number of milliseconds.

So the wait need not be as long as `1 - factor` times the grown one.  It is exactly if the milliseconds
that are `kept` after the product are as many as are needed for that, and can be counted; and it is no
longer than the grown one exactly if less than a millisecond is gained by rounding, or if the counter
is full. -/
theorem randomized_wait_within
    {initial cap : Span}
    {multiplier factor draw : Binary64}
    (haccepted : (Interval.randomized initial multiplier cap factor).validate = .ok ())
    (hdraw : draw.isFinite = true)
    (hdrawLow : 0 ≤ draw.value)
    (hdrawHigh : draw.value ≤ 1)
    (attempt : Nat) :
    let grown := (Interval.exponential initial multiplier cap).wait draw attempt
    let wait := (Interval.randomized initial multiplier cap factor).wait draw attempt
    let whole := grown.millis
    (factor.value = 0 → wait = grown) ∧
      (factor.value ≠ 0 → ∃ r : Nat, wait = Span.ofMillis r ∧ wait.nanos = r * nanosPerMilli ∧
        (whole ≤ 2 ^ 53 → ⌊(1 - factor.value) * whole⌋₊ ≤ r + 1 ∧ r ≤ whole) ∧
        (1 - factor.value) * whole ≤ r + 1 + whole / 2 ^ 51 ∧
        (r : ℚ) ≤ whole + whole / 2 ^ 53) ∧
      (whole ≤ 2 ^ 53 →
        (1 - factor.value) * grown.nanos < wait.nanos + 3 * nanosPerMilli ∧
          wait.nanos ≤ grown.nanos) ∧
      (factor.value ≠ 0 →
        let kept := ((Binary.ofNat whole).mul (keptShare factor draw)).value
        let least := ⌈(1 - factor.value) * grown.nanos / nanosPerMilli⌉₊
        ((1 - factor.value) * grown.nanos ≤ wait.nanos ↔
            least ≤ maxTicks ∧ (least : ℚ) ≤ kept) ∧
          (wait.nanos ≤ grown.nanos ↔ kept < whole + 1 ∨ whole = maxTicks)) := by
  intro grown wait whole
  have hchecked :=
    (checked_bind_eq_ok_iff (checkMultiplier multiplier) (fun _ => checkFactor factor) ()).mp haccepted
  have hfactor := isShare_of_checkFactor hchecked.2
  have hgiven : IsShare draw draw.value := ⟨Binary.hasValue_value hdraw, hdrawLow, hdrawHigh⟩
  have hwait : wait = shorten grown factor draw := rfl
  have hwhole : whole = grown.millis := rfl
  clear_value wait whole
  generalize grown = span at hwait hwhole ⊢
  have hnone (hzero : factor.value = 0) : wait = span := by
    rw [hzero] at hfactor
    exact hwait.trans (shorten_of_zero hfactor.hasValue span draw)
  have hsome (hpositive : factor.value ≠ 0) :=
    exists_shorten hfactor hpositive hgiven span
  rw [← hwait, ← hwhole] at hsome
  refine ⟨hnone, fun hpositive => ?_, fun hexact => ?_, fun hpositive => ?_⟩
  · obtain ⟨r, hticks, hr, hbounds⟩ := hsome hpositive
    exact ⟨r, hr, hr ▸ Span.ofMillis_nanos hticks, hbounds⟩
  · have hmilli : ((nanosPerMilli : Nat) : ℚ) = 1000000 := Nat.cast_ofNat
    rw [hmilli]
    by_cases hzero : factor.value = 0
    · rw [hnone hzero, hzero]
      refine ⟨?_, le_rfl⟩
      linarith
    · obtain ⟨r, hticks, hr, hbounds, -⟩ := hsome hzero
      have hnanos : wait.nanos = r * nanosPerMilli := hr ▸ Span.ofMillis_nanos hticks
      rw [hnanos]
      exact nanos_within hfactor hwhole hexact (hbounds hexact).1 (hbounds hexact).2
  · obtain ⟨share, hshare, -⟩ := exists_isShare_keptShare hfactor hgiven
    have hmillis : span.millis ≤ 2 ^ 64 := (Span.millis_le span).trans (by decide)
    rw [hwait, hwhole, (hasValue_keptMillis hshare hmillis).2]
    exact ⟨share_le_shorten_iff hfactor hpositive hshare span,
      shorten_le_iff hfactor hpositive hshare span⟩

/-- 90 milliseconds cut by the value nearest to three tenths, with nothing given back.  That value lies
below three tenths and leaves just over 63 milliseconds, but one less it is rounded down, and 62 are
left. -/
theorem randomized_wait_within_three_tenths :
    let factor : Binary64 := (⟨false, 3, -1⟩ : Decimal).toBinary
    let draw : Binary64 := Binary.zero false
    let interval := Interval.randomized (Span.ofMillis 90) (Binary.ofNat 1) Span.max factor
    interval.validate = .ok () ∧
      (Interval.exponential (Span.ofMillis 90) (Binary.ofNat 1) Span.max).wait draw 1 =
        Span.ofMillis 90 ∧
      ⌊(1 - factor.value) * 90⌋₊ = 63 ∧
      interval.wait draw 1 = Span.ofMillis 62 ∧
      ∃ r : Nat, interval.wait draw 1 = Span.ofMillis r ∧ 63 ≤ r + 1 ∧ r ≤ 90 := by
  intro factor draw interval
  have haccepted : interval.validate = .ok () := by
    decide +kernel
  have hdraw : draw.HasValue 0 := Binary.hasValue_zero false
  have hvalue : factor.value = 5404319552844595 / 2 ^ 54 := by
    decide +kernel
  have hwhole :
      (Interval.exponential (Span.ofMillis 90) (Binary.ofNat 1) Span.max).wait draw 1 =
        Span.ofMillis 90 := by
    decide +kernel
  have hmillis : (Span.ofMillis 90).millis = 90 := by
    decide
  have hfloor : ⌊(1 - factor.value) * (90 : ℚ)⌋₊ = 63 := by
    rw [hvalue, Nat.floor_eq_iff (by norm_num)]
    norm_num
  obtain ⟨-, hcut, -⟩ :=
    randomized_wait_within haccepted hdraw.1 hdraw.2.ge (hdraw.2.le.trans zero_le_one) 1
  obtain ⟨r, hr, -, hbounds, -⟩ := hcut (by rw [hvalue]; norm_num)
  rw [hwhole, hmillis, Nat.cast_ofNat, hfloor] at hbounds
  exact ⟨haccepted, hwhole, hfloor, by decide +kernel, r, hr, hbounds (by norm_num)⟩

/-- A wait of one millisecond that is to be cut by a quarter at most, with half of the cut given back:
nothing is left of it. -/
theorem randomized_wait_lt_share :
    let factor : Binary64 := (Binary.ofNat 1).div (Binary.ofNat 4)
    let draw : Binary64 := middle
    let grown := (Interval.exponential (Span.ofMillis 1) (Binary.ofNat 1) Span.max).wait draw 1
    let interval := Interval.randomized (Span.ofMillis 1) (Binary.ofNat 1) Span.max factor
    interval.validate = .ok () ∧
      draw.value = 1 / 2 ∧
      factor.value = 1 / 4 ∧
      grown = Span.ofMillis 1 ∧
      interval.wait draw 1 = Span.zero ∧
      ((interval.wait draw 1).nanos : ℚ) < (1 - factor.value) * grown.nanos := by
  intro factor draw grown interval
  have hfactor : factor.value = 1 / 4 := by
    decide +kernel
  have hgrown : grown = Span.ofMillis 1 := by
    decide +kernel
  have hwait : interval.wait draw 1 = Span.zero := by
    decide +kernel
  refine ⟨by decide +kernel, by decide +kernel, hfactor, hgrown, hwait, ?_⟩
  rw [hwait, hgrown, hfactor, Span.zero_nanos, Span.ofMillis_nanos (by decide)]
  norm_num

end Interval
end FaultTolerance
