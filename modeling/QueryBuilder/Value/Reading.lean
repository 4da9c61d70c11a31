import QueryBuilder.Value.Text
import QueryBuilder.Text.Blank

/-!
# Reading values that a database returned

A database may return a number as a number, as a text or as a truth value, and two queries may
return one key in different forms (§4.4 of the specification).

* `Value.toInt?`: a value read as a 64-bit whole number.
* `Value.isTrue`: a value read as a truth value.
* `Value.key?`: the text by which rows of two results are matched.
-/

namespace QueryBuilder

/-- The least 64-bit whole number. -/
def minInt64 : Int := -(Nat.pow 2 63 : Nat)

/-- The greatest 64-bit whole number. -/
def maxInt64 : Int := (Nat.pow 2 63 : Nat) - 1

/-- The nearest 64-bit whole number. -/
def clampInt64 (n : Int) : Int :=
  max minInt64 (min n maxInt64)

namespace Decimal

/-- A decimal as a 64-bit whole number: the fraction dropped, values out of range at the nearest
end, and zero for what is no number. -/
def toInt64 : Decimal → Int
  | .notANumber => 0
  | .infinite negative => if negative then minInt64 else maxInt64
  | .finite x => clampInt64 x.truncate

/-- Reads an optional sign and at least one digit as a 64-bit whole number. -/
def readInt64? (s : String) : Option Int :=
  let (negative, digits) := splitSign s.toList
  if digits.isEmpty || !digits.all Char.isDigit then none
  else
    let n : Int := if negative then -(digitsValue digits : Int) else digitsValue digits
    if minInt64 ≤ n ∧ n ≤ maxInt64 then some n else none

end Decimal

namespace Value

/-- A value read as a whole number: a number, a text that holds one, or a truth value. -/
def toInt? : Value → Option Int
  | .number (.whole n) => some (clampInt64 n)
  | .number (.real x) => some (clampInt64 x.truncate)
  | .text s =>
    let s := Text.trim s
    match Decimal.readInt64? s with
    | some n => some n
    | none => (Decimal.read? s).map Decimal.toInt64
  | .bool b => some (if b then 1 else 0)
  | _ => none

/-- A value read as a truth value: null, zero, the empty text, `0` and `false` are false (§6, the
check for a row). -/
def isTrue : Value → Bool
  | .bool b => b
  | .null => false
  | .text s => !(s == "" || s == "0" || Text.lowerAscii s == "false")
  | v => match v.toInt? with
    | some n => n != 0
    | none => false

/-- The text of a key, by which rows are matched: `1` and `"1"` are one key, null is none (§4.4,
step 4). -/
def key? : Value → Option String
  | .null => none
  | .text s => some s
  | v => some v.json

/-- The text of a value in a joined list: nothing for null (§10.2, `implode`). -/
def plainText : Value → String
  | .null => ""
  | .text s => s
  | v => v.json

end Value

end QueryBuilder
