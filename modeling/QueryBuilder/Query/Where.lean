import QueryBuilder.Query.Subquery
import QueryBuilder.Text.LowerCase

/-!
# Conditions

The predicates of §3 of the specification, built by the rules of §4.1 on the arguments of a
comparison.

* `Comparand`, `Subject`: the two sides of a comparison.
* `Query.compare`: a comparison of any shape. A null value asks for null, an absent operator means
  equality, and a sub-query alone on the left is a group of conditions.
* `Query.whereRows`, `Query.wherePairs`: several comparisons in one group.
* `Query.addGroup`: the conditions of another query as one group; an empty group adds nothing.
-/

namespace QueryBuilder

/-- The right side of a comparison. -/
inductive Comparand where
  | operand (o : Operand)
  | query (s : Subquery)

/-- The left side of a comparison. -/
inductive Subject where
  | column (c : Column)
  | query (s : Subquery)

/-- What a column is looked up in. -/
inductive Candidates where
  | operands (os : List Operand)
  | query (s : Subquery)

namespace Comparand

/-- A value to compare with. -/
def value (v : Value) : Comparand := .operand (.value v)

/-- The comparand is the value null. -/
def isNull : Comparand → Bool
  | operand o => o.isNull
  | query _ => false

/-- A comparand as messages show it. -/
def describe : Comparand → String
  | operand o => "Operand(" ++ o.describe ++ ")"
  | query s => "Query(" ++ s.describe ++ ")"

/-- A comparand that has to be a text, as a named part of a condition row. -/
def text (part : String) : Comparand → Except Error String
  | operand (.value (.text s)) => .ok s
  | c => .error (.misuse (.rowPartNotText part c.describe))

/-- A comparand that stands first in a condition row. -/
def subject : Comparand → Except Error Subject
  | operand (.value (.text s)) => .ok (.column (.name s))
  | operand (.raw sql) => .ok (.column (.raw sql))
  | query s => .ok (.query s)
  | operand o => .error (.misuse (.notAColumn o.describe))

/-- A comparand that has to be a column. -/
def column : Comparand → Except Error Column
  | operand (.value (.text s)) => .ok (.name s)
  | operand (.raw sql) => .ok (.raw sql)
  | c => .error (.misuse (.notAColumn c.describe))

end Comparand

namespace Query

/-! ## Single comparisons -/

/-- An operator without blanks around it and in small letters, if the dialect knows it so (§7,
rejected when a query is built). -/
def checkedOperator (q : Query) (operator : String) : Except Error String :=
  let operator := Text.lower (Text.trim operator)
  if q.dialect.knows operator then .ok operator else .error (.misuse (.illegalOperator operator))

/-- Compares a column (§4.1, null values and sub-queries as values). -/
def compareColumn (q : Query) (connector : Connector) (column : Column) (operator : Option String)
    (value : Comparand) : Except Error Query :=
  if operator.isNone && value.isNull then .ok (q.addWhere connector (.isNull false column))
  else do
    -- from here on there is an operator or a value, and the operator is checked first
    let operator ← q.checkedOperator (operator.getD "=")
    match value with
    | .query s =>
      let sub ← s.build q
      return (q.bind .wheres sub.values).addWhere connector (.compareQuery column operator sub)
    | .operand o =>
      if o.isNull then return q.addWhere connector (.isNull (operator != "=") column)
      else return (q.bind .wheres o.scalars).addWhere connector (.compare column operator o)

/-- Adds the conditions of another query as one group; without conditions it adds nothing (§4.1,
nested groups). -/
def addGroup (q : Query) (connector : Connector) (nested : Query) : Query :=
  if nested.wheres.isEmpty then q
  else (q.bind .wheres (nested.bindings.get .wheres)).addWhere connector (.group nested.wheres)

/-- Adds the conditions that a closure builds as one group. -/
def group (q : Query) (connector : Connector) (build : Query → Except Error Query) :
    Except Error Query := do
  return q.addGroup connector (← build q.freshOnSource)

/-- A comparison. A sub-query on the left with neither operator nor value is a group (§4.1, the
rules on arguments). -/
def compare (q : Query) (connector : Connector) (subject : Subject) (operator : Option String)
    (value : Comparand) : Except Error Query :=
  match subject with
  | .column c => q.compareColumn connector c operator value
  | .query s =>
    -- without operator and value a closure is no sub-query but a list of conditions
    if operator.isNone && value.isNull then
      match s with
      | .closure build => q.group connector build
      | .query nested => .ok (q.addGroup connector nested)
      | .sql _ => .error .subqueryExpected
    else do
      let (sql, values) ← s.text q
      (q.bind .wheres values).compareColumn connector (.raw ("(" ++ sql ++ ")")) operator value

/-- A column stands in a relation to a value. -/
def whereIs (q : Query) (column operator : String) (value : Comparand) : Except Error Query :=
  q.compare .and (.column (.name column)) (some operator) value

/-- A comparison of two columns (§10.2, `where_column`). -/
def compareColumns (q : Query) (connector : Connector) (first : Column) (operator : String)
    (second : Column) : Except Error Query := do
  let operator ← q.checkedOperator operator
  return q.addWhere connector (.compareColumns first operator second)

/-! ## Rows and pairs -/

/-- A condition row of its two sides, an operator and a connector. -/
def compareRow (q : Query) (connector : Connector) (subject : Subject) (operator : String)
    (value : Comparand) : Except Error Query :=
  q.compare connector subject (some operator) value

/-- A condition row that compares two columns. -/
def compareColumnRow (q : Query) (connector : Connector) (subject : Subject) (operator : String)
    (value : Comparand) : Except Error Query :=
  match subject with
  | .column first => do q.compareColumns connector first operator (← value.column)
  | .query _ => .error (.misuse .columnExpected)

/-- How a condition row is taken once its parts are read. -/
abbrev RowReading := Query → Connector → Subject → String → Comparand → Except Error Query

/-- Adds one condition row (§4.1, list-of-lists; §7, wrong arity). -/
def addRow (reading : RowReading) (q : Query) (row : List Comparand) : Except Error Query :=
  match row with
  | [.query (.closure build)] => q.group .and build
  | [c] => .error (.misuse (.rowNotGroup c.describe))
  | [head, value] => do reading q .and (← head.subject) "=" value
  | [head, operator, value] => do
    reading q .and (← head.subject) (← operator.text "operator") value
  | [head, operator, value, connector] => do
    let subject ← head.subject
    let operator ← operator.text "operator"
    let connector ← Connector.read (← connector.text "boolean")
    reading q connector subject operator value
  | row => .error (.misuse (.rowLength row.length))

/-- Adds condition rows as one group; the first row that fails decides (§4.1, list-of-lists). -/
def addRows (reading : RowReading) (q : Query) (connector : Connector)
    (rows : List (List Comparand)) : Except Error Query := do
  return q.addGroup connector (← rows.foldlM (addRow reading) q.freshOnSource)

/-- Rows of a column and a value, perhaps with an operator and a connector. -/
def whereRows (q : Query) (connector : Connector) (rows : List (List Comparand)) :
    Except Error Query :=
  q.addRows compareRow connector rows

/-- Rows of two columns, perhaps with an operator and a connector. -/
def whereColumnRows (q : Query) (rows : List (List Comparand)) : Except Error Query :=
  q.addRows compareColumnRow .and rows

/-- Columns and the values that they equal (§4.1, map arguments). -/
def wherePairs (q : Query) (connector : Connector) (pairs : List (String × Comparand)) :
    Except Error Query := do
  let nested ← pairs.foldlM (fun nested (column, value) => nested.whereIs column "=" value)
    q.freshOnSource
  return q.addGroup connector nested

/-! ## Other conditions -/

/-- A column is null, or is not. -/
def whereNull (q : Query) (connector : Connector) (negated : Bool) (column : Column) : Query :=
  q.addWhere connector (.isNull negated column)

/-- A condition in SQL with the values it binds. -/
def whereRaw (q : Query) (connector : Connector) (sql : String) (values : List Value) : Query :=
  (q.bind .wheres values).addWhere connector (.raw sql)

/-- A column is among the candidates, or is not (§10.2, `where_in`). -/
def whereIn (q : Query) (connector : Connector) (negated : Bool) (column : Column)
    (candidates : Candidates) : Except Error Query :=
  match candidates with
  | .operands os =>
    .ok ((q.bind .wheres (os.flatMap Operand.scalars)).addWhere connector (.isIn negated column os))
  | .query s => do
    let (sql, values) ← s.text q
    return (q.bind .wheres values).addWhere connector (.isIn negated column [.raw sql])

/-- A column lies between two operands, or does not (§10.2, `where_between`). -/
def whereBetween (q : Query) (connector : Connector) (negated : Bool) (column : Column)
    (low high : Operand) : Query :=
  (q.bind .wheres (low.scalars ++ high.scalars)).addWhere connector
    (.between negated column low high)

/-- A column lies between two columns, or does not. -/
def whereBetweenColumns (q : Query) (negated : Bool) (column low high : Column) : Query :=
  q.addWhere .and (.betweenColumns negated column low high)

/-- A number or a text in two digits at least. -/
def padded : Value → Value
  | .number n => .text (Text.padTwo n.text)
  | .text s => .text (Text.padTwo s)
  | v => v

/-- A value as it is compared with a part of a date (§10.2, days and months are padded). -/
def datePartOperand (part : DatePart) : Operand → Operand
  | .value v => .value (if part.isPadded then padded v else v)
  | o => o

/-- A part of a date stands in a relation to a value (§10.2, `where_date` and its kin). -/
def whereDatePart (q : Query) (connector : Connector) (part : DatePart) (column : Column)
    (operator : String) (value : Operand) : Except Error Query := do
  let operator ← q.checkedOperator operator
  let value := datePartOperand part value
  return (q.bind .wheres value.scalars).addWhere connector (.datePart part column operator value)

/-- A query has a row, or has none. -/
def addExists (q : Query) (connector : Connector) (negated : Bool) (sub : Query) : Query :=
  (q.bind .wheres sub.values).addWhere connector (.exists negated sub)

/-- A sub-query has a row, or has none (§10.2, `where_exists`). -/
def whereExists (q : Query) (connector : Connector) (negated : Bool) (s : Subquery) :
    Except Error Query := do
  return q.addExists connector negated (← s.build q)

/-! ## Conditions on groups -/

/-- A column of a group stands in a relation to a value (§10.2, `having`). -/
def having (q : Query) (connector : Connector) (column : Column) (operator : String)
    (value : Operand) : Except Error Query := do
  let operator ← q.checkedOperator operator
  return (q.bind .havings value.scalars).addHaving connector (.compare column operator value)

/-- A condition on groups in SQL with the values it binds. -/
def havingRaw (q : Query) (connector : Connector) (sql : String) (values : List Value) : Query :=
  (q.bind .havings values).addHaving connector (.raw sql)

/-- A column of a group is null, or is not. -/
def havingNull (q : Query) (negated : Bool) (column : Column) : Query :=
  q.addHaving .and (.isNull negated column)

/-- A column of a group lies between two operands. -/
def havingBetween (q : Query) (column : Column) (low high : Operand) : Query :=
  (q.bind .havings (low.scalars ++ high.scalars)).addHaving .and (.between false column low high)

/-! ## Windows by cursor -/

/-- Rows whose column is beyond the last value seen, in the order of that column (§4.5, cursor
pagination). -/
def cursorPage (q : Query) (size : Nat) (last : Option Value) (column operator : String)
    (direction : Direction) : Except Error Query := do
  let q := q.withoutOrdersBy column
  -- the first window has no value to go on from
  let q ← match last with
    | some v => q.whereIs column operator (.value v)
    | none => pure q
  return (q.orderBy (.name column) direction).limit size

/-- The rows after the last value seen, in ascending order (§10.2, `for_page_after_id`). -/
def pageAfter (q : Query) (size : Nat) (last : Option Value) (column : String) :
    Except Error Query :=
  q.cursorPage size last column ">" .ascending

/-- The rows before the last value seen, in descending order (§10.2, `for_page_before_id`). -/
def pageBefore (q : Query) (size : Nat) (last : Option Value) (column : String) :
    Except Error Query :=
  q.cursorPage size last column "<" .descending

end Query

end QueryBuilder
