import QueryBuilder.Query.Fetch
import QueryBuilder.Query.Write

/-!
# Writing rows

The writing half of the execution facade (§2 and §10.2 of the specification).

* `Query.insert`, `Query.insertMany`, `Query.insertBatches`, `Query.insertReturning`,
  `Query.insertIgnoring`, `Query.upsert`: new rows. No rows send no statement.
* `Query.update`, `Query.increment`, `Query.decrement`: changed rows.
* `Query.delete`, `Query.deleteByKey`, `Query.truncate`: removed rows.
-/

namespace QueryBuilder.Query

/-- Inserts rows in one statement; the answer is how many were inserted (§10.2, `insert_many`). -/
def insertMany (q : Query) (rows : List Assignments) : Run Nat := do
  if rows.isEmpty then return 0
  else
    let sql ← Run.ofExcept (q.insertText rows)
    q.connection.update sql (insertValues rows)

/-- Inserts a row. -/
def insert (q : Query) (row : Assignments) : Run Nat :=
  q.insertMany [row]

/-- A list in pieces of at most `size` elements, `size` being positive; `fuel` bounds their
number. -/
def batchesWithin {α : Type} (size : Nat) : Nat → List α → List (List α)
  | 0, _ => []
  | _, [] => []
  | fuel + 1, x :: xs => (x :: xs).take size :: batchesWithin size fuel ((x :: xs).drop size)

/-- A list in pieces of at most `size` elements; zero counts as one. -/
def batches {α : Type} (size : Nat) (xs : List α) : List (List α) :=
  batchesWithin (Nat.max size 1) xs.length xs

/-- Inserts rows in statements of at most `size` rows each (§10.2, `insert_many` with a batch
size). -/
def insertBatches (q : Query) (rows : List Assignments) (size : Nat) : Run Nat :=
  (batches size rows).foldlM (fun total batch => do return total + (← q.insertMany batch)) 0

/-- Inserts a row and gives back the key it was given. The key column is the primary key unless it
is named (§6, `executeInsertReturningKey`). -/
def insertReturning (q : Query) (row : Assignments) (key : Option String) : Run Int := do
  q.connection.requireExecutor
  let key := key.getD q.connection.config.primaryKey
  let sql ← Run.ofExcept (q.insertText [row])
  q.connection.insertReturning sql (insertValues [row]) key

/-- Inserts rows and passes over those that collide with others (§10.2, `insert_or_ignore`). -/
def insertIgnoring (q : Query) (rows : List Assignments) : Run Nat := do
  if rows.isEmpty then return 0
  else
    let sql ← Run.ofExcept (q.insertIgnoringText rows)
    q.connection.update sql (insertValues rows)

/-- Inserts rows; those that collide on the unique columns have columns updated, all inserted ones
unless they are named (§10.2, `upsert`). -/
def upsert (q : Query) (rows : List Assignments) (unique : List String)
    (update : Option (List String)) : Run Nat := do
  if rows.isEmpty then return 0
  else
    let sql ← Run.ofExcept (q.upsertText rows unique (update.getD (insertColumns rows)))
    q.connection.update sql (insertValues rows)

/-- Updates the rows of the query (§10.2, `update`). -/
def update (q : Query) (row : Assignments) : Run Nat := do
  let sql ← Run.ofExcept (q.updateText row)
  q.connection.update sql (q.updateValues row)

/-- Moves a column by an amount, and updates further columns (§10.2, `increment` and
`decrement`). -/
def shift (q : Query) (sign column : String) (amount : Value) (extra : Assignments) : Run Nat :=
  match amount with
  | .number n =>
    let moved := q.dialect.quoteName column ++ " " ++ sign ++ " " ++ n.text
    q.update (extra.set column (.raw moved))
  | _ => throw (.misuse .notNumeric)

/-- Adds an amount to a column. -/
def increment (q : Query) (column : String) (amount : Value) (extra : Assignments) : Run Nat :=
  q.shift "+" column amount extra

/-- Takes an amount off a column. -/
def decrement (q : Query) (column : String) (amount : Value) (extra : Assignments) : Run Nat :=
  q.shift "-" column amount extra

/-- Deletes the rows of the query (§10.2, `delete`). -/
def delete (q : Query) : Run Nat := do
  let sql ← Run.ofExcept q.deleteText
  q.connection.update sql q.deleteValues

/-- Deletes the row that a key identifies (§10.2, `delete_by_id`). -/
def deleteByKey (q : Query) (key : Operand) : Run Nat := do
  let column := q.qualify q.connection.config.primaryKey
  (← Run.ofExcept (q.whereIs column "=" (.operand key))).delete

/-- Empties the table (§10.2, `truncate`). -/
def truncate (q : Query) : Run Unit := do
  let statements ← Run.ofExcept q.truncateStatements
  statements.forM fun statement => do
    let _ ← q.connection.update statement.sql statement.values

end QueryBuilder.Query
