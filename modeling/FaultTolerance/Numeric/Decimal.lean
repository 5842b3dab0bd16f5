import FaultTolerance.Numeric.Binary

/-!
# Decimal numerals and binary values

A decimal numeral is a sign, a natural significand and a power of ten.  Reading one gives the
nearest binary value; writing a binary value gives the numeral with the fewest digits that reads
back to it, the nearest of those, and the upper one of two equally near.

## Main definitions

* `Decimal`: a numeral.
* `Decimal.toBinary`: the binary value nearest to a numeral.
* `Binary.shortest`: the shortest numeral of a finite magnitude.
* `Binary.plain`: the text of a value without an exponent.
* `Binary.gradedTo`, `Binary.graded`: the text with at least one decimal place, and with an
  exponent for very large and very small values.
-/

namespace FaultTolerance
namespace Numeric

/-- The numeral `± digits * 10 ^ exponent`. -/
structure Decimal where
  negative : Bool
  digits : Nat
  exponent : Int
deriving DecidableEq, Repr

/-- The number of decimal digits of `n`; zero has one. -/
def digitCount (n : Nat) : Nat :=
  (Nat.toDigits 10 n).length

namespace Decimal

variable {f : Format}

/-- An exponent past which every nonzero numeral overflows, and below whose opposite every numeral
vanishes, in both interchange formats. -/
def horizon : Int := 400

/-- The binary value nearest to the numeral. -/
def toBinary (d : Decimal) : Binary f :=
  if d.digits = 0 then Binary.zero d.negative
  else if horizon < d.exponent then .infinite d.negative
  else if d.exponent + digitCount d.digits < -horizon then Binary.zero d.negative
  else
    Binary.round d.negative
      (d.digits * Nat.pow 10 d.exponent.toNat * Nat.pow 2 f.scale)
      (Nat.pow 10 (-d.exponent).toNat)

/-- The exact value of a finite binary magnitude as a numeral. -/
def ofQuanta
    (f : Format)
    (negative : Bool)
    (quanta : Nat) : Decimal :=
  ⟨negative, quanta * Nat.pow 5 f.scale, -(f.scale : Int)⟩

/-- The same value without trailing zero digits. -/
def trim (d : Decimal) : Decimal :=
  let zeros := ((Nat.toDigits 10 d.digits).reverse.takeWhile (· == '0')).length
  if d.digits = 0 then ⟨d.negative, 0, 0⟩
  else ⟨d.negative, d.digits / Nat.pow 10 zeros, d.exponent + zeros⟩

/-- The sign as text. -/
def signText (d : Decimal) : String :=
  if d.negative then "-" else ""

/-- Positional text; `places` is the least number of decimal places shown. -/
def positional
    (places : Nat)
    (d : Decimal) : String :=
  let figures := Nat.toDigits 10 d.digits
  let whole := (figures ++ List.replicate d.exponent.toNat '0')
  let shown := (-d.exponent).toNat
  let padded := List.replicate (shown + 1 - whole.length) '0' ++ whole
  let cut := padded.length - shown
  let tail := padded.drop cut ++ List.replicate (places - shown) '0'
  let point := if tail.isEmpty then "" else "."
  d.signText ++ String.ofList (padded.take cut) ++ point ++ String.ofList tail

/-- Scientific text: one digit, the others after a point, and the exponent. -/
def scientific (d : Decimal) : String :=
  let figures := Nat.toDigits 10 d.digits
  let exponent := d.exponent + (figures.length - 1 : Nat)
  let point := if figures.length ≤ 1 then "" else "."
  d.signText ++ String.ofList (figures.take 1) ++ point ++ String.ofList (figures.drop 1)
    ++ "e" ++ toString exponent

end Decimal

namespace Binary

variable {f : Format}

/-- The place of the leading digit of `num / den`: the least `k` with `num / den < 10 ^ k`. -/
def leadingPlace (num den : Nat) : Int :=
  if den ≤ num then digitCount (num / den)
  else
    let k := digitCount (den / num) - 1
    if den ≤ num * Nat.pow 10 k then 1 - (k : Int) else -(k : Int)

/-- The interval of exact values that read as a magnitude, in quarters of a quantum; its ends
belong to it when the significand is even.  The lower half is halved below a power of two, where
the neighbour is twice as near. -/
def readingInterval
    (f : Format)
    (quanta : Nat) : Nat × Nat × Bool :=
  let step := Nat.pow 2 (f.spare quanta)
  let binade := quanta = Nat.pow 2 (Nat.log2 quanta) ∧ 1 < step
  (4 * quanta - (if binade then step else 2 * step),
    4 * quanta + 2 * step,
    quanta / step % 2 = 0)

/-- The multiple of `10 ^ place` nearest to a magnitude among its two neighbours on that grid, if
one of them reads back as the magnitude; the upper one when both are equally near. -/
def onGrid
    (f : Format)
    (quanta : Nat)
    (place : Int) : Option Nat :=
  let (low, high, closed) := readingInterval f quanta
  let up := Nat.pow 10 place.toNat
  let down := Nat.pow 10 (-place).toNat
  -- one grid step and the value itself, in quarters of a quantum times `down`
  let unit := up * Nat.pow 2 f.scale * 4
  let value := quanta * 4 * down
  let reads (n : Nat) : Bool :=
    if closed then low * down ≤ n * unit && n * unit ≤ high * down
    else low * down < n * unit && n * unit < high * down
  let below := value / unit
  match reads below, reads (below + 1) with
  | true, true =>
    some (if value - below * unit < (below + 1) * unit - value then below else below + 1)
  | true, false => some below
  | false, true => some (below + 1)
  | false, false => none

/-- The numeral with the fewest digits that reads back as a positive magnitude, and the nearest of
those.  Seventeen digits always suffice for the two interchange formats. -/
def shortest
    (f : Format)
    (negative : Bool)
    (quanta : Nat) : Decimal :=
  let place := leadingPlace quanta (Nat.pow 2 f.scale)
  let found := (List.range 17).findSome? fun n =>
    (onGrid f quanta (place - (n + 1 : Nat))).map fun digits =>
      (⟨negative, digits, place - (n + 1 : Nat)⟩ : Decimal)
  (found.getD (Decimal.ofQuanta f negative quanta)).trim

/-- The numeral of a finite magnitude, zero included. -/
def numeral
    (f : Format)
    (negative : Bool)
    (quanta : Nat) : Decimal :=
  if quanta = 0 then ⟨negative, 0, 0⟩ else shortest f negative quanta

/-- Text of a value: the shortest numeral in positional form, whole numbers without a point. -/
def plain : Binary f → String
  | .nan => "NaN"
  | .infinite negative => if negative then "-inf" else "inf"
  | .finite negative quanta _ => (numeral f negative quanta).positional 0

/-- Magnitudes from here up are written with an exponent in graded text. -/
def largeFrom : Binary f := ofNat 10000000000000000

/-- Text of a value that always shows it is not an integer: a decimal place, or an exponent.
Nonzero magnitudes below `10 ^ -places` are written with an exponent. -/
def gradedTo (places : Nat) : Binary f → String
  | .nan => "NaN"
  | .infinite negative => if negative then "-inf" else "inf"
  | .finite negative quanta fits =>
    let magnitude : Binary f := .finite false quanta fits
    let least : Binary f := (⟨false, 1, -places⟩ : Decimal).toBinary
    let digits := numeral f negative quanta
    if quanta ≠ 0 ∧ (magnitude.lt least ∨ largeFrom.le magnitude) then digits.scientific
    else digits.positional 1

/-- Graded text down to a tenth of a thousandth. -/
def graded : Binary f → String := gradedTo 4

end Binary

end Numeric
end FaultTolerance
