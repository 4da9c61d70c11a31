import QueryBuilder.Number.Shortest
import QueryBuilder.Text.Join

/-!
# Numbers and their texts

The numbers among the values of §10.1 of the specification.

* `Number`: a whole number or a binary fraction, the two kept apart.
* `Number.text`: how a number is written in SQL, in keys and in messages.
* `Decimal.read?`: the texts that count as decimals, and what they denote.
-/

namespace QueryBuilder

/-- A number value. `1` and `1.0` are different numbers (§10.1, serialization). -/
inductive Number where
  | whole (n : Int)
  | real (x : Binary64)
  deriving DecidableEq, Repr

/-- Where the plain form of a decimal ends. -/
structure DecimalLayout where
  /-- The least decimal exponent written in plain form. -/
  plainFrom : Int
  /-- The least decimal exponent too large for plain form. -/
  plainBelow : Int

namespace Number

/-- Plain form from a hundred-thousandth up to sixteen digits before the point. -/
def layout : DecimalLayout := ⟨-5, 16⟩

/-- A decimal in plain form: at least one digit on each side of the point. -/
def plainText (digits : List Char) (exponent : Int) : List Char :=
  if exponent < 0 then
    ['0', '.'] ++ List.replicate ((-exponent).toNat - 1) '0' ++ digits
  else
    let places := exponent.toNat + 1
    if digits.length ≤ places then
      digits ++ List.replicate (places - digits.length) '0' ++ ['.', '0']
    else
      digits.take places ++ '.' :: digits.drop places

/-- A decimal with its exponent, whose sign is always written. -/
def exponentText (digits : List Char) (exponent : Int) : List Char :=
  let significand :=
    match digits with
    | [] => []
    | [d] => [d]
    | d :: ds => d :: '.' :: ds
  significand ++ 'e' :: (if exponent < 0 then '-' else '+') :: Nat.toDigits 10 exponent.natAbs

/-- The shortest text that reads back as the number. -/
def realText (x : Binary64) : String :=
  let sign := if x.negative then ['-'] else []
  let body :=
    -- a zero has no first digit to place the point by
    if x.isZero then ['0', '.', '0']
    else
      let (digits, exponent) := Binary64.shortest x.mantissa x.exponent
      if layout.plainFrom ≤ exponent ∧ exponent < layout.plainBelow then plainText digits exponent
      else exponentText digits exponent
  String.ofList (sign ++ body)

/-- A whole number in decimal. -/
def wholeText (n : Int) : String :=
  String.ofList ((if n < 0 then ['-'] else []) ++ Nat.toDigits 10 n.natAbs)

/-- The text of a number. -/
def text : Number → String
  | .whole n => wholeText n
  | .real x => realText x

/-- Two numbers are equal: of one kind, and equal within it. -/
def equals : Number → Number → Bool
  | .whole m, .whole n => m == n
  | .real x, .real y => x.equals y
  | _, _ => false

end Number

/-! ## Reading decimals -/

/-- What a decimal text denotes. -/
inductive Decimal where
  | notANumber
  | infinite (negative : Bool)
  | finite (x : Binary64)

namespace Decimal

/-- The whole number that a list of digits denotes. -/
def digitsValue (cs : List Char) : Nat :=
  cs.foldl (fun n c => 10 * n + (c.toNat - '0'.toNat)) 0

/-- A sign in front of a text, and the rest. -/
def splitSign : List Char → Bool × List Char
  | '-' :: cs => (true, cs)
  | '+' :: cs => (false, cs)
  | cs => (false, cs)

/-- An exponent after the digits: absent, or a mark, an optional sign and at least one digit. -/
def readExponent? : List Char → Option Int
  | [] => some 0
  | c :: cs =>
    if c = 'e' ∨ c = 'E' then
      let (negative, digits) := splitSign cs
      if digits.isEmpty || !digits.all Char.isDigit then none
      else
        let n : Int := digitsValue digits
        some (if negative then -n else n)
    else none

/-- Digits with an optional point, at least one digit in all, and an optional exponent. -/
def readFinite? (negative : Bool) (cs : List Char) : Option Decimal := do
  let whole := cs.takeWhile Char.isDigit
  let rest := cs.dropWhile Char.isDigit
  let (fraction, rest) :=
    match rest with
    | '.' :: rest => (rest.takeWhile Char.isDigit, rest.dropWhile Char.isDigit)
    | rest => ([], rest)
  if whole.isEmpty && fraction.isEmpty then none
  else
    let exponent ← readExponent? rest
    match Binary64.ofDecimal? negative (digitsValue (whole ++ fraction))
        (exponent - fraction.length) with
    | some x => some (.finite x)
    | none => some (.infinite negative)

/-- Reads a decimal, or one of the words for infinity and for what is no number. -/
def read? (s : String) : Option Decimal :=
  let (negative, cs) := splitSign s.toList
  match Text.lowerAscii (String.ofList cs) with
  | "inf" | "infinity" => some (.infinite negative)
  | "nan" => some .notANumber
  | _ => readFinite? negative cs

end Decimal

end QueryBuilder
