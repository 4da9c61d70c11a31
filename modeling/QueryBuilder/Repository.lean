import QueryBuilder.Calendar
import QueryBuilder.Query.Store

/-!
# Repositories

The repositories of §10.2 of the specification. A repository is bound to a table. It fills
timestamp columns, asks before it deletes, and announces each write that succeeded.

* `Repository`: the table, and what is asked and filled in.
* `Announcement`: what is said after a write.
* `Repository.insert`, `Repository.update`, `Repository.delete`, `Repository.find`.
-/

namespace QueryBuilder

/-- What is said after a write that succeeded (§10.2, the after-hooks). -/
inductive Announcement where
  | inserted (key : Int) (row : Assignments)
  | updated (key : Operand) (changed : Nat) (row : Assignments)
  | deleted (key : Operand) (changed : Nat)
  deriving Repr

/-- A table with its conventions (§10.2, repository). -/
structure Repository where
  connection : Connection
  table : String
  /-- Whether timestamp columns are filled in, and with which moment. -/
  timestamp : Option Moment := none
  /-- Whether the row of a key may be deleted. -/
  mayDelete : Operand → Bool := fun _ => true

namespace Repository

/-- A query on the table. -/
def query (r : Repository) : Query :=
  Query.table r.connection r.table

/-- A query on the table under an alias. -/
def queryAs (r : Repository) (label : String) : Query :=
  (Query.on r.connection).fromAs r.table label

/-- A row as it is inserted: both timestamp columns are filled in (§10.2, timestamps). -/
def stampNew (r : Repository) (row : Assignments) : Assignments :=
  match r.timestamp with
  | some now =>
    let now := Operand.text now.text
    (row.set r.connection.config.createdColumn now).set r.connection.config.updatedColumn now
  | none => row

/-- A row as it is updated: the column of the last change is filled in. -/
def stampChanged (r : Repository) (row : Assignments) : Assignments :=
  match r.timestamp with
  | some now => row.set r.connection.config.updatedColumn (.text now.text)
  | none => row

/-- Inserts a row and gives back its key (§10.2, repository). -/
def insert (r : Repository) (row : Assignments) : Walk Announcement Int := do
  let row := r.stampNew row
  let key ← (r.query.insertReturning row none).toWalk
  Walk.note (.inserted key row)
  return key

/-- The row of a key. -/
def find (r : Repository) (key : Operand) : Walk Announcement (Option Record) :=
  (r.query.find key).toWalk

/-- Updates the row of a key. -/
def update (r : Repository) (key : Operand) (row : Assignments) : Walk Announcement Nat := do
  let row := r.stampChanged row
  let q ← (Run.ofExcept
    (r.query.whereIs r.connection.config.primaryKey "=" (.operand key))).toWalk
  let changed ← (q.update row).toWalk
  Walk.note (.updated key changed row)
  return changed

/-- Deletes the row of a key, unless that is forbidden (§10.2, `before_delete`). -/
def delete (r : Repository) (key : Operand) : Walk Announcement Nat := do
  if r.mayDelete key then
    let changed ← (r.query.deleteByKey key).toWalk
    Walk.note (.deleted key changed)
    return changed
  else return 0

end Repository

end QueryBuilder
