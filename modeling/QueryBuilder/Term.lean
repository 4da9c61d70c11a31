import QueryBuilder.Value.Reading

/-!
# Terms of a statement

What stands at the places of a statement: names that are wrapped, values that are bound, and raw
expressions (§4.2 of the specification).

* `Operand`: a value that is bound, or SQL written as it is.
* `Column`, `Source`: a name that is quoted, or SQL written as it is.
* `Column.resultField`: the field under which a selected column comes back.
-/

namespace QueryBuilder

/-- A value position (§4.2, values and raw expressions). -/
inductive Operand where
  /-- A value that a placeholder stands for. -/
  | value (v : Value)
  /-- SQL that is neither quoted nor bound. -/
  | raw (sql : String)
  deriving Repr

/-- A column position (§3, `columns`). -/
inductive Column where
  /-- A name, perhaps dotted, perhaps with an alias. -/
  | name (text : String)
  /-- SQL that is not quoted. -/
  | raw (sql : String)
  deriving DecidableEq, Repr

/-- What a query reads from or writes to (§3, `source`). -/
inductive Source where
  /-- A table name, perhaps with an alias. -/
  | table (text : String)
  /-- SQL that is not quoted. -/
  | raw (sql : String)
  deriving DecidableEq, Repr

namespace Operand

/-- A text as an operand. -/
def text (s : String) : Operand := .value (.text s)

/-- The operand is the value null. -/
def isNull : Operand → Bool
  | value v => v.isNull
  | raw _ => false

/-- The value that the operand binds, if it binds one. -/
def bound? : Operand → Option Value
  | value v => some v
  | raw _ => none

/-- What an operand binds behind a single placeholder. -/
def scalars (o : Operand) : List Value :=
  match o with
  | value v => [v.scalar]
  | raw _ => []

/-- An operand as messages show it. -/
def describe : Operand → String
  | value v => "Value(" ++ v.describe ++ ")"
  | raw sql => "Raw(Expression(" ++ Text.describe sql ++ "))"

/-- Two operands are equal. -/
def equals : Operand → Operand → Bool
  | value v, value w => v.equals w
  | raw s, raw t => s == t
  | _, _ => false

end Operand

namespace Column

/-- All columns. -/
def star : Column := .name "*"

/-- The text of a column. -/
def text : Column → String
  | name s => s
  | raw s => s

/-- What follows the last ` as ` of a name, if there is one. -/
def givenAlias? (name : String) : Option String :=
  (Text.afterLast " as ".toList name.toList).map String.ofList

/-- The field under which a selected column comes back: its alias, or the last part of its name. -/
def resultField (column : String) : String :=
  match givenAlias? column with
  | some rest => Text.trim rest
  | none => String.ofList ((Text.pieces '.' column.toList).getLastD [])

end Column

namespace Source

/-- The text of a source. -/
def text : Source → String
  | table s => s
  | raw s => s

/-- A quotation mark of some dialect. -/
def isQuoteMark (c : Char) : Bool :=
  c == '\x60' || c == '"'

/-- A text without the quotation marks at its ends. -/
def unquote (s : String) : String :=
  String.ofList (((s.toList.dropWhile isQuoteMark).reverse.dropWhile isQuoteMark).reverse)

/-- The name that qualifies the columns of a source: its alias if it has one (§4.4, the outer
query's table or alias). -/
def qualifier (s : Source) : String :=
  unquote (Text.trim ((Column.givenAlias? s.text).getD s.text))

end Source

end QueryBuilder
