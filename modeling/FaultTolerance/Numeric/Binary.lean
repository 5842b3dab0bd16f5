/-!
# Binary floating-point numbers on an exact grid

A binary format fixes a precision and a smallest step, the quantum.  Every finite value of the
format is a whole number of quanta, so a value is a sign and a natural number, and an operation is
the exact operation on quanta followed by one rounding to the nearest representable number, ties
going to the even significand.

## Main definitions

* `Format`, `binary32`, `binary64`: the two interchange formats.
* `roundHalfEven`: the quotient of two naturals, rounded to nearest, ties to even.
* `Binary`: the values of a format.
* `Binary.round`: the value nearest to an exact quotient of quanta.
* `Binary.mul`, `Binary.div`, `Binary.add`, `Binary.le`, `Binary.lt`: one rounding each, or none.
* `Binary.bits`: the interchange encoding.
-/

namespace FaultTolerance
namespace Numeric

/-- A binary format: `precision` significant bits, a quantum of `2 ^ (-scale)`, and finite
magnitudes below `2 ^ ceiling` quanta. -/
structure Format where
  precision : Nat
  scale : Nat
  ceiling : Nat
deriving DecidableEq, Repr

/-- Single precision: 24 significant bits, quantum `2 ^ (-149)`, magnitudes below `2 ^ 128`. -/
abbrev binary32 : Format := ⟨24, 149, 277⟩

/-- Double precision: 53 significant bits, quantum `2 ^ (-1074)`, magnitudes below `2 ^ 1024`. -/
abbrev binary64 : Format := ⟨53, 1074, 2098⟩

/-- `num / den` rounded to the nearest natural number; a tie goes to the even neighbour. -/
def roundHalfEven (num den : Nat) : Nat :=
  let quotient := num / den
  let rest := num % den
  if 2 * rest < den then quotient
  else if den < 2 * rest then quotient + 1
  else quotient + quotient % 2

namespace Format

/-- The number of low bits of `quanta` that the precision cannot hold. -/
def spare
    (f : Format)
    (quanta : Nat) : Nat :=
  Nat.log2 quanta + 1 - f.precision

/-- A magnitude is representable when its spare bits are zero and it lies below the ceiling. -/
def Representable
    (f : Format)
    (quanta : Nat) : Prop :=
  quanta % Nat.pow 2 (f.spare quanta) = 0 ∧ quanta < Nat.pow 2 f.ceiling

instance
    (f : Format)
    (quanta : Nat) : Decidable (f.Representable quanta) :=
  inferInstanceAs (Decidable (_ ∧ _))

/-- The magnitude nearest to `num / den` quanta when only the precision limits it. -/
def nearest
    (f : Format)
    (num den : Nat) : Nat :=
  let spare := f.spare (num / den)
  roundHalfEven num (den * Nat.pow 2 spare) * Nat.pow 2 spare

theorem representable_zero (f : Format) : f.Representable 0 :=
  ⟨Nat.zero_mod _, Nat.two_pow_pos _⟩

end Format

/-- A value of a binary format. -/
inductive Binary (f : Format) where
  | nan
  | infinite (negative : Bool)
  | finite (negative : Bool) (quanta : Nat) (fits : f.Representable quanta)
deriving DecidableEq

/-- A single-precision value. -/
abbrev Binary32 := Binary binary32

/-- A double-precision value. -/
abbrev Binary64 := Binary binary64

namespace Binary

variable {f : Format}

/-- The value with this sign and magnitude; a magnitude past the range overflows. -/
def ofQuanta
    (negative : Bool)
    (quanta : Nat) : Binary f :=
  if fits : f.Representable quanta then .finite negative quanta fits else .infinite negative

/-- The value nearest to `num / den` quanta with the given sign. -/
def round
    (negative : Bool)
    (num den : Nat) : Binary f :=
  ofQuanta negative (f.nearest num den)

/-- Zero with a sign. -/
def zero (negative : Bool) : Binary f :=
  .finite negative 0 f.representable_zero

/-- The value nearest to a natural number. -/
def ofNat (n : Nat) : Binary f :=
  round false (n * Nat.pow 2 f.scale) 1

/-- The value nearest to an integer. -/
def ofInt (n : Int) : Binary f :=
  round (decide (n < 0)) (n.natAbs * Nat.pow 2 f.scale) 1

/-- The value nearest to a value of another format. -/
def convert
    {g : Format} : Binary g → Binary f
  | .nan => .nan
  | .infinite negative => .infinite negative
  | .finite negative quanta _ =>
    round negative (quanta * Nat.pow 2 f.scale) (Nat.pow 2 g.scale)

/-- The same magnitude with the other sign. -/
def neg : Binary f → Binary f
  | .nan => .nan
  | .infinite negative => .infinite (!negative)
  | .finite negative quanta fits => .finite (!negative) quanta fits

/-- Whether the value is neither an infinity nor not-a-number. -/
def isFinite : Binary f → Bool
  | .finite _ _ _ => true
  | _ => false

/-- The exact product, rounded once. -/
def mul : Binary f → Binary f → Binary f
  | .nan, _ => .nan
  | _, .nan => .nan
  | .infinite s, .infinite t => .infinite (s != t)
  | .infinite s, .finite t b _ => if b = 0 then .nan else .infinite (s != t)
  | .finite s a _, .infinite t => if a = 0 then .nan else .infinite (s != t)
  | .finite s a _, .finite t b _ => round (s != t) (a * b) (Nat.pow 2 f.scale)

/-- The exact quotient, rounded once. -/
def div : Binary f → Binary f → Binary f
  | .nan, _ => .nan
  | _, .nan => .nan
  | .infinite _, .infinite _ => .nan
  | .infinite s, .finite t _ _ => .infinite (s != t)
  | .finite s _ _, .infinite t => zero (s != t)
  | .finite s a _, .finite t b _ =>
    if b = 0 then
      if a = 0 then .nan else .infinite (s != t)
    else round (s != t) (a * Nat.pow 2 f.scale) b

/-- A finite value as a signed number of quanta. -/
def signed
    (negative : Bool)
    (quanta : Nat) : Int :=
  if negative then -(quanta : Int) else quanta

/-- The exact sum, rounded once; a zero sum is negative only when both terms are. -/
def add : Binary f → Binary f → Binary f
  | .nan, _ => .nan
  | _, .nan => .nan
  | .infinite s, .infinite t => if s = t then .infinite s else .nan
  | .infinite s, .finite _ _ _ => .infinite s
  | .finite _ _ _, .infinite t => .infinite t
  | .finite s a _, .finite t b _ =>
    let sum := signed s a + signed t b
    if sum = 0 then zero (s && t) else round (decide (sum < 0)) sum.natAbs 1

/-- The exact difference, rounded once. -/
def sub (x y : Binary f) : Binary f :=
  add x y.neg

/-- A place on the extended line; not-a-number has none. -/
def le : Binary f → Binary f → Bool
  | .nan, _ => false
  | _, .nan => false
  | .infinite s, .infinite t => s || !t
  | .infinite s, .finite _ _ _ => s
  | .finite _ _ _, .infinite t => !t
  | .finite s a _, .finite t b _ => decide (signed s a ≤ signed t b)

/-- Strictly below; false as soon as one side is not-a-number. -/
def lt (x y : Binary f) : Bool :=
  x.le y && !y.le x

/-- The whole part clamped to `[0, limit]`; not-a-number gives zero. -/
def truncate
    (limit : Nat) : Binary f → Nat
  | .nan => 0
  | .infinite negative => if negative then 0 else limit
  | .finite negative quanta _ => if negative then 0 else min (quanta / Nat.pow 2 f.scale) limit

/-- The value times itself `n` times, by repeated squaring: the partial product takes the current
square whenever the exponent is odd, and both roundings happen in that order. -/
def pow
    (base : Binary f)
    (exponent : Nat) : Binary f :=
  go base exponent (ofNat 1)
where
  /-- Multiply `product` by `square ^ n`. -/
  go
      (square : Binary f)
      (n : Nat)
      (product : Binary f) : Binary f :=
    let product := if n % 2 = 1 then product.mul square else product
    if n / 2 = 0 then product else go (square.mul square) (n / 2) product
  termination_by n
  decreasing_by omega

/-- The unsigned part of the interchange encoding of a magnitude: exponent field, then fraction. -/
def magnitudeBits
    (f : Format)
    (quanta : Nat) : Nat :=
  f.spare quanta * Nat.pow 2 (f.precision - 1) + quanta / Nat.pow 2 (f.spare quanta)

/-- The interchange encoding in `width` bits: sign, exponent field, fraction. -/
def bits
    (width : Nat)
    (x : Binary f) : Nat :=
  let sign (negative : Bool) : Nat := if negative then Nat.pow 2 (width - 1) else 0
  match x with
  | .nan => magnitudeBits f (Nat.pow 2 f.ceiling) + Nat.pow 2 (f.precision - 2)
  | .infinite negative => sign negative + magnitudeBits f (Nat.pow 2 f.ceiling)
  | .finite negative quanta _ => sign negative + magnitudeBits f quanta

end Binary

end Numeric
end FaultTolerance
