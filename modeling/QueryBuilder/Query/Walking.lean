import QueryBuilder.Query.Fetch

/-!
# Walks

The chunking engine of §4.5 of the specification.

A long result is read window by window; a callback is shown what was read and may stop the walk.
The answer is `false` exactly if the callback stopped it.

* `Query.chunk`, `Query.each`: windows by row number. The rows need an ordering.
* `Query.chunkByCursor`, `Query.eachByCursor`: windows by the last value seen of a column.

Each window takes an answer from the executor's queue, and an empty queue ends the walk: its
length bounds the number of windows.
-/

namespace QueryBuilder.Query

/-- How many windows a walk can have at most. -/
def windowBound {α : Type} : Walk α Nat := do
  return (← get).session.rows.length + 1

/-- Shows a callback each row with the number of calls before it. -/
def visitRows (visitor : Visitor (Nat × Record)) : List Record → Walk (Nat × Record) Bool
  | [] => return true
  | row :: rest => do
    let index := (← get).calls.length
    if ← visitor.call (index, row) then visitRows visitor rest else return false

/-- Reads windows of `size` rows from a page on. A window that is not full is the last (§4.5,
`chunk`). -/
def windows {α : Type} (q : Query) (size : Nat) (visit : Nat → List Record → Walk α Bool) :
    Nat → Nat → Walk α Bool
  | 0, _ => return true
  | bound + 1, number => do
    let rows ← (q.page number size).fetch.toWalk
    if rows.isEmpty then return true
    else if ← visit number rows then
      -- a window that is not full has no rows behind it
      if rows.length = size then q.windows size visit bound (number + 1) else return true
    else return false

/-- Reads windows of rows in order; zero rows count as one (§4.5, `OrderRequired`). -/
def walk {α : Type} (q : Query) (size : Nat) (visit : Nat → List Record → Walk α Bool) :
    Walk α Bool := do
  if q.tail.orders.isEmpty && q.unionTail.orders.isEmpty then throw .orderRequired
  else q.windows (Nat.max size 1) visit (← windowBound) 1

/-- Shows a callback each window with its number, counted from one (§10.2, `chunk`). -/
def chunk (q : Query) (size : Nat) (visitor : Visitor (Nat × List Record)) :
    Walk (Nat × List Record) Bool :=
  q.walk size fun number rows => visitor.call (number, rows)

/-- Shows a callback each row with its index, counted from zero (§10.2, `each`). -/
def each (q : Query) (size : Option Nat) (visitor : Visitor (Nat × Record)) :
    Walk (Nat × Record) Bool :=
  q.walk (size.getD q.connection.config.chunkSize) fun _ rows => visitRows visitor rows

/-- The value to continue from after a window. -/
def cursorOf (field : String) (rows : List Record) : Option Value :=
  (rows.getLast?.bind fun row => row.get? field).filter fun v => !v.isNull

/-- Reads windows of `size` rows beyond the last value seen. A window that is not full is the last
(§4.5, `chunkById`). -/
def cursorWindows {α : Type} (q : Query) (size : Nat) (column : String)
    (visit : Nat → List Record → Walk α Bool) : Nat → Nat → Option Value → Walk α Bool
  | 0, _, _ => return true
  | bound + 1, number, last => do
    let window ← (Run.ofExcept (q.pageAfter size last column)).toWalk
    let rows ← window.fetch.toWalk
    if rows.isEmpty then return true
    else if ← visit number rows then
      -- the value is asked for before it is known whether another window follows
      match cursorOf (Column.resultField column) rows with
      | none => throw (.missingCursor (Column.resultField column))
      | some v =>
        if rows.length = size then q.cursorWindows size column visit bound (number + 1) (some v)
        else return true
    else return false

/-- Reads windows by a cursor column, the primary key unless it is named; zero rows count as one
(§4.5, `MissingCursorColumn`). -/
def walkByCursor {α : Type} (q : Query) (size : Nat) (column : Option String)
    (visit : Nat → List Record → Walk α Bool) : Walk α Bool := do
  q.cursorWindows (Nat.max size 1) (column.getD q.connection.config.primaryKey) visit
    (← windowBound) 1 none

/-- Shows a callback each window with its number, counted from one (§10.2, `chunk_by_id`). -/
def chunkByCursor (q : Query) (size : Nat) (column : Option String)
    (visitor : Visitor (Nat × List Record)) : Walk (Nat × List Record) Bool :=
  q.walkByCursor size column fun number rows => visitor.call (number, rows)

/-- Shows a callback each row with its index, counted from zero (§10.2, `each_by_id`). -/
def eachByCursor (q : Query) (size : Option Nat) (column : Option String)
    (visitor : Visitor (Nat × Record)) : Walk (Nat × Record) Bool :=
  q.walkByCursor (size.getD q.connection.config.chunkSize) column fun _ rows =>
    visitRows visitor rows

end QueryBuilder.Query
