import QueryBuilder.Number.Binary64

/-!
# Shortest decimals

The fewest decimal digits that read back as a given binary number.

* `Rounding`: the decimals that round to a number, between its two neighbours.
* `shortest`: of the decimals with the fewest digits in that interval, the nearest to the number.
-/

namespace QueryBuilder.Binary64

/-- The interval of reals that round to a number: three numerators over one denominator, and whether
the two ends belong to it. -/
structure Rounding where
  low : Nat
  value : Nat
  high : Nat
  denominator : Nat
  closed : Bool

/-- The interval of `mantissa * 2 ^ exponent`. The gap below a power of two is half as wide. -/
def Rounding.of (mantissa : Nat) (exponent : Int) : Rounding :=
  -- at a power of two the next number below is only half as far away
  let below := if mantissa = mantissaBound / 2 ∧ minExponent < exponent then 1 else 2
  let up := Nat.pow 2 (exponent - 2).toNat
  { low := (4 * mantissa - below) * up
    value := 4 * mantissa * up
    high := (4 * mantissa + 2) * up
    denominator := Nat.pow 2 (2 - exponent).toNat
    closed := mantissa % 2 == 0 }

namespace Rounding

/-- The decimal `digits * 10 ^ scale` lies in the interval. -/
def holds (r : Rounding) (digits : Nat) (scale : Int) : Bool :=
  let point := digits * Nat.pow 10 scale.toNat * r.denominator
  let shift := Nat.pow 10 (-scale).toNat
  if r.closed then r.low * shift ≤ point && point ≤ r.high * shift
  else r.low * shift < point && point < r.high * shift

/-- The greatest multiple of `10 ^ scale` that does not exceed the number, as a multiple. -/
def floorAt (r : Rounding) (scale : Int) : Nat :=
  r.value * Nat.pow 10 (-scale).toNat / (r.denominator * Nat.pow 10 scale.toNat)

/-- The distance of a multiple of `10 ^ scale` from the number, over a denominator that depends on
`scale` only. -/
def distanceAt (r : Rounding) (digits : Nat) (scale : Int) : Nat :=
  let point := digits * Nat.pow 10 scale.toNat * r.denominator
  let value := r.value * Nat.pow 10 (-scale).toNat
  if point ≤ value then value - point else point - value

/-- The nearer of the number's two neighbours on the grid of `10 ^ scale`, if one lies in the
interval; of two equally near the even one. -/
def hit? (r : Rounding) (scale : Int) : Option Nat :=
  let below := r.floorAt scale
  match r.holds below scale, r.holds (below + 1) scale with
  | true, false => some below
  | false, true => some (below + 1)
  | false, false => none
  | true, true =>
    let left := r.distanceAt below scale
    let right := r.distanceAt (below + 1) scale
    if left < right then some below
    else if right < left then some (below + 1)
    else if below % 2 = 0 then some below else some (below + 1)

/-- The decimal exponent of the number's leading digit. -/
def leadingExponent (r : Rounding) : Int :=
  (digitCount (r.value * Nat.pow 10 400 / r.denominator) : Int) - 401

end Rounding

/-- Digits without the zeros they end with. -/
def dropTrailingZeros (digits : List Char) : List Char :=
  (digits.reverse.dropWhile (· == '0')).reverse

/-- The fewest digits that read back as `mantissa * 2 ^ exponent`, and the decimal exponent of the
first of them. Seventeen digits always suffice. -/
def shortest (mantissa : Nat) (exponent : Int) : List Char × Int :=
  let r := Rounding.of mantissa exponent
  let lead := r.leadingExponent
  -- one digit more at a time, so that the first hit has the fewest
  let found := (List.range 17).findSome? fun (i : Nat) =>
    (r.hit? (lead - i)).map fun digits => (digits, lead - (i : Int))
  match found with
  | some (digits, scale) =>
    let shown := Nat.toDigits 10 digits
    (dropTrailingZeros shown, scale + shown.length - 1)
  | none => (['0'], 0)

end QueryBuilder.Binary64
