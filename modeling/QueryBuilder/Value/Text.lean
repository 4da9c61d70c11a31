import QueryBuilder.Value.Basic
import QueryBuilder.Text.Printable

/-!
# Values as text

Keys of rows, joined columns and the messages of §7 of the specification show values as texts. Two
written forms of a value.

* `Value.json`: compact JSON, used where a value becomes part of a text.
* `Value.describe`: the form in which a message shows an offending value, with the kind of each
  part.
-/

namespace QueryBuilder

namespace Text

/-- A number below sixteen as a hexadecimal digit. -/
def hexDigit (n : Nat) : Char :=
  (Nat.toDigits 16 n).headD '0'

/-- One character inside a JSON string. -/
def jsonChar (c : Char) : List Char :=
  match c with
  | '"' => ['\\', '"']
  | '\\' => ['\\', '\\']
  | '\n' => ['\\', 'n']
  | '\r' => ['\\', 'r']
  | '\t' => ['\\', 't']
  | c =>
    let n := c.toNat
    if n = 8 then ['\\', 'b']
    else if n = 12 then ['\\', 'f']
    else if n < 32 then ['\\', 'u', '0', '0', hexDigit (n / 16), hexDigit (n % 16)]
    else [c]

/-- A text as a JSON string. -/
def jsonString (s : String) : String :=
  "\"" ++ String.ofList (s.toList.flatMap jsonChar) ++ "\""

/-- One character inside a described text: marks and line ends behind a backslash, characters that
do not show by their code point. -/
def describeChar (c : Char) : List Char :=
  match c with
  | '"' => ['\\', '"']
  | '\\' => ['\\', '\\']
  | '\n' => ['\\', 'n']
  | '\r' => ['\\', 'r']
  | '\t' => ['\\', 't']
  | c =>
    if c.toNat = 0 then ['\\', '0']
    else if isPrintable c then [c]
    else '\\' :: 'u' :: '\x7b' :: Nat.toDigits 16 c.toNat ++ ['\x7d']

/-- A text between quotes, as messages show it. -/
def describe (s : String) : String :=
  "\"" ++ String.ofList (s.toList.flatMap describeChar) ++ "\""

end Text

namespace Value

/-- The word for a truth value. -/
def boolText (b : Bool) : String :=
  if b then "true" else "false"

/-! ## JSON -/

mutual

/-- Compact JSON (§4.4, keys are compared as texts). -/
def json : Value → String
  | .null => "null"
  | .bool b => boolText b
  | .number n => n.text
  | .text s => Text.jsonString s
  | .list items => "[" ++ Text.join "," (jsonItems items) ++ "]"
  | .record fields => "\x7b" ++ Text.join "," (jsonFields fields) ++ "\x7d"

/-- The items of a list, each in JSON. -/
def jsonItems : List Value → List String
  | [] => []
  | v :: vs => json v :: jsonItems vs

/-- The fields of a record, each in JSON. -/
def jsonFields : List (String × Value) → List String
  | [] => []
  | (name, v) :: rest => (Text.jsonString name ++ ":" ++ json v) :: jsonFields rest

end

/-! ## Descriptions -/

mutual

/-- A value as messages show it. -/
def describe : Value → String
  | .null => "Null"
  | .bool b => "Bool(" ++ boolText b ++ ")"
  | .number n => "Number(" ++ n.text ++ ")"
  | .text s => "String(" ++ Text.describe s ++ ")"
  | .list items => "Array [" ++ Text.join ", " (describeItems items) ++ "]"
  | .record fields => "Object \x7b" ++ Text.join ", " (describeFields fields) ++ "\x7d"

/-- The items of a list as messages show them. -/
def describeItems : List Value → List String
  | [] => []
  | v :: vs => describe v :: describeItems vs

/-- The fields of a record as messages show them. -/
def describeFields : List (String × Value) → List String
  | [] => []
  | (name, v) :: rest => (Text.describe name ++ ": " ++ describe v) :: describeFields rest

end

end Value

end QueryBuilder
