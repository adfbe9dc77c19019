import ChangeReview.Text

/-!
# Shortest decimal text

A decimal fraction as the double-precision number nearest to it, and the shortest decimal text that
reads back as that number, without an exponent. All arithmetic is exact.

## Main definitions

- `Decimal.Binary`: a number `mantissa * 2 ^ exponent` of double precision.
- `Decimal.nearest?`: the nearest number of double precision, unless it is too large.
- `Decimal.shortest`: the fewest digits that read back, and the power of ten they count.
- `Decimal.positional`: digits and a power of ten written without an exponent.
-/

namespace ChangeReview.Decimal

/-- A positive fraction. -/
structure Fraction where
  numerator : Nat
  denominator : Nat
  deriving Repr

namespace Fraction

/-- The product with a power of a base. -/
def scale (base : Nat) (value : Fraction) : Int → Fraction
  | .ofNat n => ⟨value.numerator * Nat.pow base n, value.denominator⟩
  | .negSucc n => ⟨value.numerator, value.denominator * Nat.pow base (n + 1)⟩

/-- The largest whole number that is not above the fraction. -/
def floor (value : Fraction) : Nat := value.numerator / value.denominator

/-- The nearest whole number, where a half goes to the even neighbour. -/
def round (value : Fraction) : Nat :=
  let whole := value.floor
  let rest := 2 * (value.numerator % value.denominator)
  if rest < value.denominator then whole
  else if value.denominator < rest then whole + 1
  else if whole % 2 = 0 then whole else whole + 1

/-- Strict order. -/
def less (a b : Fraction) : Bool := a.numerator * b.denominator < b.numerator * a.denominator

/-- The distance between two fractions. -/
def distance (a b : Fraction) : Fraction :=
  let x := a.numerator * b.denominator
  let y := b.numerator * a.denominator
  ⟨(x - y) + (y - x), a.denominator * b.denominator⟩

end Fraction

/-- A number of double precision. -/
structure Binary where
  mantissa : Nat
  exponent : Int
  deriving DecidableEq, Repr

/-- The number of bits of a mantissa. -/
def precision : Nat := 53

/-- The smallest exponent. -/
def minExponent : Int := -1074

/-- The exponent with which a fraction has a mantissa of full length, or the smallest one. -/
def exponentFor (value : Fraction) : Int :=
  let guess : Int := Nat.log2 value.numerator - Nat.log2 value.denominator - precision + 1
  let tooSmall := Nat.pow 2 precision ≤ (value.scale 2 (-guess)).floor
  let tooLarge := (value.scale 2 (-guess)).floor < Nat.pow 2 (precision - 1)
  max minExponent (if tooSmall then guess + 1 else if tooLarge then guess - 1 else guess)

/-- The nearest number of double precision, unless it is too large. -/
def nearest? (value : Fraction) : Option Binary :=
  let exponent := exponentFor value
  let mantissa := (value.scale 2 (-exponent)).round
  let number : Binary :=
    if mantissa = Nat.pow 2 precision then ⟨Nat.pow 2 (precision - 1), exponent + 1⟩
    else ⟨mantissa, exponent⟩
  if number.exponent ≤ 971 then some number else none

namespace Binary

/-- The exact value. -/
def value (number : Binary) : Fraction := (⟨number.mantissa, 1⟩ : Fraction).scale 2 number.exponent

/-- Whether a fraction lies between the halfway points to the two neighbours. The points themselves
read back if the mantissa is even. -/
def readsBack (number : Binary) (candidate : Fraction) : Bool :=
  let quarter := (⟨1, 1⟩ : Fraction).scale 2 (number.exponent - 2)
  let isNarrow := number.mantissa = Nat.pow 2 (precision - 1) && minExponent < number.exponent
  let below := if isNarrow then 1 else 2
  let low : Fraction := ⟨(4 * number.mantissa - below) * quarter.numerator, quarter.denominator⟩
  let high : Fraction := ⟨(4 * number.mantissa + 2) * quarter.numerator, quarter.denominator⟩
  if number.mantissa % 2 = 0 then !candidate.less low && !high.less candidate
  else low.less candidate && candidate.less high

end Binary

/-- A whole number that counts a power of ten. -/
structure Scaled where
  digits : Nat
  power : Int
  deriving DecidableEq, Repr

/-- The exact value. -/
def Scaled.value (decimal : Scaled) : Fraction :=
  (⟨decimal.digits, 1⟩ : Fraction).scale 10 decimal.power

/-- The better of the two neighbours of a number among the multiples of a power of ten, if one of
them reads back. -/
def onGrid? (number : Binary) (power : Int) : Option Scaled :=
  let lower : Scaled := ⟨(number.value.scale 10 (-power)).floor, power⟩
  let upper : Scaled := ⟨lower.digits + 1, power⟩
  let lowerFits := 0 < lower.digits && number.readsBack lower.value
  let upperFits := number.readsBack upper.value
  if lowerFits && upperFits then
    some (if (number.value.distance upper.value).less (number.value.distance lower.value) then upper
      else lower)
  else if lowerFits then some lower
  else if upperFits then some upper
  else none

/-- The coarsest of `count` ever finer grids, from a power of ten down, that has a neighbour which
reads back. -/
def search (number : Binary) : Nat → Int → Scaled
  | 0, power => ⟨number.mantissa, power⟩
  | count + 1, power =>
    match onGrid? number power with
    | some decimal => decimal
    | none => search number count (power - 1)

/-- The fewest digits that read back, and the power of ten they count. -/
def shortest (number : Binary) : Scaled :=
  let size : Int := Nat.log2 number.value.numerator - Nat.log2 number.value.denominator
  search number 64 ((if 0 ≤ size then 31 * size else 30 * size) / 100 + 2)

/-- Digits and a power of ten without an exponent. -/
def positional (decimal : Scaled) : Text :=
  let digits := Text.ofNat decimal.digits
  match decimal.power with
  | .ofNat n => digits ++ List.replicate n '0'
  | .negSucc n =>
    let places := n + 1
    let padded := List.replicate (places + 1 - digits.length) '0' ++ digits
    padded.take (padded.length - places) ++ '.' :: padded.drop (padded.length - places)

end ChangeReview.Decimal
