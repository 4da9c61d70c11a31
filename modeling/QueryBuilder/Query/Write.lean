import QueryBuilder.Assignments
import QueryBuilder.Query.Select

/-!
# The texts of writes

The statements of §4.2 of the specification that change rows.

* `Query.insertText`, `Query.insertIgnoringText`, `Query.upsertText` and `insertValues`.
* `Query.updateText` and `updateValues`, `Query.deleteText` and `deleteValues`.
* `Query.truncateStatements`: what empties a table.

The first row of an insert gives the columns of all rows. One dialect has no joins in updates and
deletes and selects the rows to write by their row number instead.
-/

namespace QueryBuilder

/-- SQL and the values it binds. -/
structure Statement where
  sql : String
  values : List Value
  deriving Repr

/-! ## Inserts -/

/-- A row's cells for the given columns; a column that the row lacks is null. -/
def cells (columns : List String) (row : Assignments) : List Operand :=
  columns.map fun column => (row.get? column).getD (.value .null)

/-- The columns of an insert: those of its first row (§4.2, insert). -/
def insertColumns : List Assignments → List String
  | [] => []
  | first :: _ => first.columns

/-- The values that an insert binds, row by row. -/
def insertValues (rows : List Assignments) : List Value :=
  rows.flatMap fun row => (cells (insertColumns rows) row).filterMap Operand.bound?

namespace Query

/-- The table to write to. -/
def target (q : Query) : Except Error String :=
  match q.source with
  | some s => .ok (q.dialect.source s)
  | none => .error (.misuse .noTable)

/-- An insert that starts with the given words. -/
def insertWith (q : Query) (words : String) (rows : List Assignments) : Except Error String := do
  let table ← q.target
  if rows.isEmpty then return words ++ " into " ++ table ++ " default values"
  else
    let columns := insertColumns rows
    let groups := rows.map fun row => "(" ++ Operand.sqlList (cells columns row) ++ ")"
    return words ++ " into " ++ table ++ " (" ++ q.dialect.columns (columns.map Column.name) ++
      ") values " ++ Text.join ", " groups

/-- An insert. -/
def insertText (q : Query) (rows : List Assignments) : Except Error String :=
  q.insertWith "insert" rows

/-- An insert that passes over rows that collide with others (§10.2, `insert ignore`). -/
def insertIgnoringText (q : Query) (rows : List Assignments) : Except Error String :=
  match q.dialect with
  | .mysql => q.insertWith "insert ignore" rows
  | .sqlite => q.insertWith "insert or ignore" rows
  | .plain => .error (.unsupported "insert or ignore")

/-- An insert that updates columns of the rows that collide on the unique columns (§10.2, upserts
by dialect). -/
def upsertText (q : Query) (rows : List Assignments) (unique update : List String) :
    Except Error String :=
  match q.dialect with
  | .mysql => do
    let sql ← q.insertText rows
    let entries := update.map fun column =>
      let column := q.dialect.quoteName column
      column ++ " = values(" ++ column ++ ")"
    return sql ++ " on duplicate key update " ++ Text.join ", " entries
  | .sqlite => do
    let sql ← q.insertText rows
    let entries := update.map fun column =>
      let column := q.dialect.quoteName column
      column ++ " = " ++ q.dialect.quote "excluded" ++ "." ++ column
    return sql ++ " on conflict (" ++ q.dialect.columns (unique.map Column.name) ++
      ") do update set " ++ Text.join ", " entries
  | .plain => .error (.unsupported "upsert")

/-! ## Updates and deletes -/

/-- The where clause. -/
def whereText (q : Query) : String :=
  keyword "where" (conditionsText q.dialect q.wheres)

/-- The name of a written source that qualifies its columns: its alias if it has one. -/
def writtenAlias (table : String) : String :=
  match Text.afterLastExact " as ".toList table.toList with
  | some label => String.ofList label
  | none => table

/-- The select of the row numbers that a write with joins changes (§4.2, joined updates by
dialect). -/
def rowIdText (q : Query) (table : String) : String :=
  Text.trim ("select " ++ writtenAlias table ++ ".rowid from " ++ table ++ " " ++
    joinsText q.dialect q.joins ++ " " ++ q.whereText)

/-- The condition that a row is among those that the joins find. -/
def byRowIdText (q : Query) (table : String) : String :=
  "where " ++ q.dialect.quote "rowid" ++ " in (" ++ q.rowIdText table ++ ")"

/-- The assignments of an update. -/
def assignmentsText (d : Dialect) (row : Assignments) : String :=
  Text.join ", " (row.entries.map fun entry => d.quoteName entry.1 ++ " = " ++ entry.2.sql)

/-- An update (§4.2, update). -/
def updateText (q : Query) (row : Assignments) : Except Error String := do
  let table ← q.target
  let columns := assignmentsText q.dialect row
  return Text.trim <|
    if q.joins.isEmpty then "update " ++ table ++ " set " ++ columns ++ " " ++ q.whereText
    else match q.dialect with
      -- no joins in its updates: the rows are sought by their numbers instead
      | .sqlite => "update " ++ table ++ " set " ++ columns ++ " " ++ q.byRowIdText table
      | _ =>
        "update " ++ table ++ " " ++ joinsText q.dialect q.joins ++ " set " ++ columns ++ " " ++
          q.whereText

/-- The values that an update binds. Where joins stand in front of the assignments, so do their
values; where the joins have moved into the trailing condition, the assignments come first (§4.2,
the order of bindings). -/
def updateValues (q : Query) (row : Assignments) : List Value :=
  match q.dialect with
  | .sqlite => row.bound ++ q.bindings.flattenExcept [.columns]
  | _ => q.bindings.joins ++ row.bound ++ q.bindings.flattenExcept [.columns, .joins]

/-- A delete (§4.2, delete). -/
def deleteText (q : Query) : Except Error String := do
  let table ← q.target
  return Text.trim <|
    if q.joins.isEmpty then "delete from " ++ table ++ " " ++ q.whereText
    else match q.dialect with
      -- the same in its deletes
      | .sqlite => "delete from " ++ table ++ " " ++ q.byRowIdText table
      | _ => "delete " ++ writtenAlias table ++ " from " ++ table ++ " " ++
          joinsText q.dialect q.joins ++ " " ++ q.whereText

/-- The values that a delete binds (§4.2, without those of the selection). -/
def deleteValues (q : Query) : List Value :=
  q.bindings.flattenExcept [.columns]

/-- What empties the table. One dialect counts its keys in a table of its own (§10.2, truncate
with a sequence reset). -/
def truncateStatements (q : Query) : Except Error (List Statement) := do
  let table ← q.target
  match q.dialect with
  | .sqlite =>
    let name := (q.source.map Source.text).getD ""
    return [⟨"delete from sqlite_sequence where name = ?", [.text name]⟩,
      ⟨"delete from " ++ table, []⟩]
  | _ => return [⟨"truncate table " ++ table, []⟩]

end Query

end QueryBuilder
