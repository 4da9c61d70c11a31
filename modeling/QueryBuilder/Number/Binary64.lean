/-!
# Binary floating-point numbers

The finite numbers of the 64-bit binary format, kept exactly.

* `Binary64`: a sign, a whole mantissa and a power of two.
* `Binary64.ofDecimal?`: the number nearest to a decimal, an exact tie going to the even mantissa;
  nothing when the decimal lies beyond the largest number.
* `Binary64.truncate`: the whole part.
-/

namespace QueryBuilder

/-- A finite number of the 64-bit binary format: `mantissa * 2 ^ exponent` under a sign. -/
structure Binary64 where
  negative : Bool
  mantissa : Nat
  exponent : Int
  deriving DecidableEq, Repr

namespace Binary64

/-- The least exponent of the format. -/
def minExponent : Int := -1074

/-- The greatest exponent of the format. -/
def maxExponent : Int := 971

/-- The bound that every mantissa stays below. -/
def mantissaBound : Nat := Nat.pow 2 53

/-- Zero, with a sign. -/
def zero (negative : Bool) : Binary64 :=
  { negative, mantissa := 0, exponent := minExponent }

/-- The number is zero, whatever its sign. -/
def isZero (x : Binary64) : Bool :=
  x.mantissa == 0

/-- A quotient rounded to the nearest whole number, an exact half going to the even neighbour. -/
def divHalfEven (num den : Nat) : Nat :=
  let q := num / den
  let r := num % den
  if 2 * r < den then q
  else if den < 2 * r then q + 1
  else if q % 2 = 0 then q else q + 1

/-- A quotient divided by a power of two, again as a quotient. -/
def unscale (num den : Nat) (exponent : Int) : Nat × Nat :=
  (num * Nat.pow 2 (-exponent).toNat, den * Nat.pow 2 exponent.toNat)

/-- The exponent under which the quotient has a mantissa of 53 binary digits, or the least one. -/
def fittingExponent (num den : Nat) : Int :=
  let guess := max ((num.log2 : Int) - den.log2 - 53) minExponent
  let (n, d) := unscale num den guess
  if n / d < mantissaBound then guess else guess + 1

/-- The number nearest to a positive quotient, unless that lies beyond the largest number. -/
def nearest? (negative : Bool) (num den : Nat) : Option Binary64 :=
  let exponent := fittingExponent num den
  let (n, d) := unscale num den exponent
  let mantissa := divHalfEven n d
  -- rounding up may reach the bound, where one digit is shifted out
  let (mantissa, exponent) :=
    if mantissa = mantissaBound then (mantissaBound / 2, exponent + 1) else (mantissa, exponent)
  if maxExponent < exponent then none else some { negative, mantissa, exponent }

/-- How many decimal digits a whole number has. -/
def digitCount (n : Nat) : Nat :=
  (Nat.toDigits 10 n).length

/-- The number nearest to `digits * 10 ^ scale`, unless that lies beyond the largest number. -/
def ofDecimal? (negative : Bool) (digits : Nat) (scale : Int) : Option Binary64 :=
  if digits = 0 then some (zero negative)
  else
    let size := (digitCount digits : Int) + scale
    -- far out of range the powers below would be needlessly large
    if 400 < size then none
    else if size < -400 then some (zero negative)
    else nearest? negative (digits * Nat.pow 10 scale.toNat) (Nat.pow 10 (-scale).toNat)

/-- The whole part of a number, without its fraction. -/
def truncate (x : Binary64) : Int :=
  let size : Nat := x.mantissa * Nat.pow 2 x.exponent.toNat / Nat.pow 2 (-x.exponent).toNat
  if x.negative then -(size : Int) else size

/-- Two numbers are equal as numbers: both zeros count as one. -/
def equals (x y : Binary64) : Bool :=
  (x.isZero && y.isZero) || x == y

end Binary64

end QueryBuilder
