import QueryBuilder.Relation.Loading

/-!
# Reading rows

The reading half of the execution facade (§2 and §10.2 of the specification).

* `Query.fetch`: runs a query and loads its relations onto the rows.
* `Query.first`, `Query.find`, `Query.sole`, `Query.value`, `Query.pluck`: parts of the result.
* `Query.compute`, `Query.count` and their kin: a function over all rows.
-/

namespace QueryBuilder.Query

/-- Runs a query; its relations are not loaded (§6, `executeQuery`). -/
def fetchBase (q : Query) : Run (List Record) :=
  q.connection.query q.sql q.values

/-- Runs a query and loads its relations in the order in which they were registered, to a depth of
nesting. -/
def fetchWithin : Nat → Query → Run (List Record)
  | 0, q => q.fetchBase
  | depth + 1, q => do
    let rows ← q.fetchBase
    q.eagerLoads.foldlM
      (fun rows load => load.2.load (fetchWithin depth) q.connection load.1 rows) rows

/-- Runs a query and loads its relations (§10.2, `get`). -/
def fetch (q : Query) : Run (List Record) :=
  fetchWithin q.loadDepth q

/-! ## Single rows -/

/-- The first row (§10.2, `first`). -/
def first (q : Query) : Run (Option Record) := do
  return (← (q.limit 1).fetch).head?

/-- The first row whose column stands in a relation to an operand. -/
def firstWhere (q : Query) (column operator : String) (o : Operand) : Run (Option Record) := do
  (← Run.ofExcept (q.whereIs column operator (.operand o))).first

/-- The row that a key identifies (§10.2, `find`). -/
def find (q : Query) (key : Operand) : Run (Option Record) :=
  q.firstWhere q.connection.config.primaryKey "=" key

/-- The only row (§7, `RecordNotFound` and `MultipleRecordsFound`). -/
def sole (q : Query) : Run Record := do
  -- two rows are enough to know that there are several
  match ← (q.limit 2).fetch with
  | [] => throw .recordNotFound
  | [row] => return row
  | rows => throw (.multipleRecords rows.length)

/-! ## Columns of rows -/

/-- One column of the first row. -/
def value (q : Query) (column : String) : Run (Option Value) := do
  let row ← (q.select [.name column]).first
  return row.bind fun row => row.get? (Column.resultField column)

/-- One column of the only row. -/
def soleValue (q : Query) (column : String) : Run Value := do
  let row ← (q.select [.name column]).sole
  return (row.get? (Column.resultField column)).getD .null

/-- The query with these columns, unless it selects some already. -/
def selectIfNone (q : Query) (columns : List String) : Query :=
  if q.columns.isEmpty then q.select (columns.map Column.name) else q

/-- A field of a row, null if it has none. -/
def fieldOrNull (field : String) (row : Record) : Value :=
  (row.get? field).getD .null

/-- One column of all rows (§10.2, `pluck`). -/
def pluck (q : Query) (column : String) : Run (List Value) := do
  let rows ← (q.selectIfNone [column]).fetch
  return rows.map (fieldOrNull (Column.resultField column))

/-- One column of all rows under the text of another; of rows with one key the last wins (§10.2,
`pluck_keyed`). -/
def pluckKeyed (q : Query) (column key : String) : Run Record := do
  let rows ← (q.selectIfNone [column, key]).fetch
  return Record.ofFields <| rows.map fun row =>
    ((rowKey? (Column.resultField key) row).getD "", fieldOrNull (Column.resultField column) row)

/-- One column of all rows as a text, with `glue` between neighbours. -/
def implode (q : Query) (column glue : String) : Run String := do
  return Text.join glue ((← q.pluck column).map Value.plainText)

/-! ## Functions over all rows -/

/-- The query has a row (§6, `executeScalarMap`; §10.2, `exists`). -/
def hasRow (q : Query) : Run Bool := do
  let rows ← q.connection.query q.existsSql q.values
  match rows with
  | [] => throw .recordNotFound
  | row :: _ => return ((row.get? "exists").map Value.isTrue).getD false

/-- The query has no row. -/
def hasNoRow (q : Query) : Run Bool := do
  return !(← q.hasRow)

/-- The query for a function over all rows. Selected columns do not matter to it and are dropped,
except in a union, whose selects have to keep their columns (§10.2, `aggregate`). -/
def aggregateQuery (q : Query) (function : String) (columns : List String) : Query :=
  let columns := columns.map Column.name
  -- the values of dropped columns are dropped with them, or they would outnumber the placeholders
  let base :=
    if q.isUnion then q.without [.eagerLoads]
    else (q.without [.columns, .eagerLoads]).withoutBindings [.columns]
  let base := if base.columns.isEmpty then { base with columns } else base
  base.computing function columns

/-- A function over all rows; nothing if the result is null (§10.2, `aggregate`). -/
def compute (q : Query) (function : String) (columns : List String) : Run (Option Value) := do
  let rows ← (q.aggregateQuery function columns).fetch
  return (rows.head?.bind fun row => row.get? "aggregate").filter fun v => !v.isNull

/-- How many rows have a value in a column (§10.2, `count`). -/
def count (q : Query) (column : String) : Run Int := do
  return ((← q.compute "count" [column]).bind Value.toInt?).getD 0

/-- The least value of a column. -/
def minimum (q : Query) (column : String) : Run (Option Value) :=
  q.compute "min" [column]

/-- The greatest value of a column. -/
def maximum (q : Query) (column : String) : Run (Option Value) :=
  q.compute "max" [column]

/-- The sum of a column, zero over no rows. -/
def sum (q : Query) (column : String) : Run Value := do
  return (← q.compute "sum" [column]).getD (.ofInt 0)

/-- The mean of a column. -/
def average (q : Query) (column : String) : Run (Option Value) :=
  q.compute "avg" [column]

end QueryBuilder.Query
