import QueryBuilder.Query.Select

/-!
# Columns, sources, groups, orderings and windows

The clauses that take no condition (§10.2 of the specification: selection, sources, grouping,
ordering, windowing). Orderings and windows given after a union belong to the whole union
(`Query.updateTail`), and so do the values that an ordering binds (`Query.orderClause`).

* `Query.without`, `Query.withoutBindings`: a copy that leaves out parts, or values.
* `Query.computing`: the query for an aggregate over its rows.
-/

namespace QueryBuilder.Query

/-! ## Columns -/

/-- Selects these columns and no others (§10.2, `select`). -/
def select (q : Query) (columns : List Column) : Query :=
  { q with columns, bindings := q.bindings.clear .columns }

/-- Selects further columns (§10.2, `add_select`). -/
def addSelect (q : Query) (columns : List Column) : Query :=
  { q with columns := q.columns ++ columns }

/-- Selects an expression with the values it binds (§10.2, `select_raw`). -/
def selectRaw (q : Query) (sql : String) (values : List Value) : Query :=
  (q.addSelect [.raw sql]).bind .columns values

/-- Drops repeated rows. -/
def onlyDistinct (q : Query) : Query :=
  { q with distinct := true }

/-! ## Source -/

/-- Reads from this source. -/
def fromSource (q : Query) (source : Source) : Query :=
  { q with source := some source }

/-- Reads from a table under an alias. -/
def fromAs (q : Query) (table label : String) : Query :=
  q.fromSource (.table (table ++ " as " ++ label))

/-- Reads from an expression with the values it binds (§10.2, `from_raw`). -/
def fromRaw (q : Query) (sql : String) (values : List Value) : Query :=
  (q.fromSource (.raw sql)).bind .source values

/-! ## Groups -/

/-- Groups by further columns. -/
def groupBy (q : Query) (columns : List Column) : Query :=
  { q with groups := q.groups ++ columns }

/-- Groups by an expression with the values it binds (§10.2, `group_by_raw`). -/
def groupByRaw (q : Query) (sql : String) (values : List Value) : Query :=
  (q.groupBy [.raw sql]).bind .groups values

/-! ## Orderings -/

/-- Changes the tail that the next ordering or window belongs to (§3, the invariant on windows of
unions). -/
def updateTail (q : Query) (f : Tail → Tail) : Query :=
  if q.isUnion then { q with unionTail := f q.unionTail } else { q with tail := f q.tail }

/-- The clause under which the values of the next ordering are filed. -/
def orderClause (q : Query) : Clause :=
  if q.isUnion then .unionOrders else .orders

/-- Adds an entry to the ordering. -/
def addSortKey (q : Query) (key : SortKey) : Query :=
  q.updateTail fun tail => { tail with orders := tail.orders ++ [key] }

/-- Orders by a column. -/
def orderBy (q : Query) (column : Column) (direction : Direction) : Query :=
  q.addSortKey (.column column direction)

/-- Orders by an expression with the values it binds (§10.2, `order_by_raw`). -/
def orderByRaw (q : Query) (sql : String) (values : List Value) : Query :=
  (q.addSortKey (.raw sql)).bind q.orderClause values

/-- Newest rows first, by a column or the one that holds when a row came to be (§10.2,
`latest`). -/
def newestFirst (q : Query) (column : Option String) : Query :=
  q.orderBy (.name (column.getD q.connection.config.createdColumn)) .descending

/-- Oldest rows first, by a column or the one that holds when a row came to be (§10.2,
`oldest`). -/
def oldestFirst (q : Query) (column : Option String) : Query :=
  q.orderBy (.name (column.getD q.connection.config.createdColumn)) .ascending

/-- Rows in random order. -/
def inRandomOrder (q : Query) (seed : String) : Query :=
  q.orderByRaw (q.dialect.random seed) []

/-- Drops every ordering together with its values (§10.2, `reorder`). -/
def reorder (q : Query) : Query :=
  { q with
    tail := { q.tail with orders := [] }
    unionTail := { q.unionTail with orders := [] }
    bindings := (q.bindings.clear .orders).clear .unionOrders }

/-- Orders by this column only. -/
def reorderBy (q : Query) (column : Column) (direction : Direction) : Query :=
  q.reorder.orderBy column direction

/-- Drops the entries of the select's own ordering that sort by a plain column (§4.5, removing any
order on the cursor). -/
def withoutOrdersBy (q : Query) (column : String) : Query :=
  { q with tail := { q.tail with orders := q.tail.orders.filter fun key => !key.targets column } }

/-! ## Windows -/

/-- Keeps at most so many rows. -/
def limit (q : Query) (count : Nat) : Query :=
  q.updateTail fun tail => { tail with limit := some count }

/-- Passes over so many rows. -/
def offset (q : Query) (count : Nat) : Query :=
  q.updateTail fun tail => { tail with offset := some count }

/-- Keeps the rows of one page (§10.2, `for_page`). -/
def page (q : Query) (number size : Nat) : Query :=
  (q.offset (pageStart number size)).limit size

/-! ## Relations and values -/

/-- Puts a relation under a name: in the place of the one that had it, or last (§3,
`eager-loads`). -/
def registerLoad (name : String) (relation : Relation) :
    List (String × Relation) → List (String × Relation)
  | [] => [(name, relation)]
  | (key, other) :: rest =>
    -- a name keeps its place when its relation is replaced
    if key = name then (name, relation) :: rest else (key, other) :: registerLoad name relation rest

/-- Has a relation loaded onto the rows (§10.2, `with`). -/
def loading (q : Query) (name : String) (relation : Relation) : Query :=
  { q with eagerLoads := registerLoad name relation q.eagerLoads }

/-- Has a relation no longer loaded. -/
def notLoading (q : Query) (name : String) : Query :=
  { q with eagerLoads := q.eagerLoads.filter fun load => load.1 != name }

/-- Files one more value under a clause; a list is spread into its items (§4.1, `addBinding`). -/
def addBinding (q : Query) (value : Value) (clause : Clause) : Query :=
  { q with bindings := q.bindings.add clause value }

/-- Appends another query's values, clause by clause. -/
def mergeBindings (q other : Query) : Query :=
  { q with bindings := q.bindings.merge other.bindings }

/-! ## Copies -/

/-- The query without one of its parts. -/
def drop (q : Query) : Part → Query
  | .aggregate => { q with aggregate := none }
  | .columns => { q with columns := [] }
  | .source => { q with source := none }
  | .joins => { q with joins := [] }
  | .wheres => { q with wheres := [] }
  | .groups => { q with groups := [] }
  | .havings => { q with havings := [] }
  | .orders => { q with tail := { q.tail with orders := [] } }
  | .limit => { q with tail := { q.tail with limit := none } }
  | .offset => { q with tail := { q.tail with offset := none } }
  | .unions => { q with unions := [] }
  | .unionOrders => { q with unionTail := { q.unionTail with orders := [] } }
  | .unionLimit => { q with unionTail := { q.unionTail with limit := none } }
  | .unionOffset => { q with unionTail := { q.unionTail with offset := none } }
  | .eagerLoads => { q with eagerLoads := [] }

/-- The query without some of its parts; its values stay (§8, `cloneWithout`). -/
def without (q : Query) (parts : List Part) : Query :=
  parts.foldl drop q

/-- The query without the values of some clauses; its parts stay (§8, `cloneWithoutBindings`). -/
def withoutBindings (q : Query) (clauses : List Clause) : Query :=
  { q with bindings := clauses.foldl Bindings.clear q.bindings }

/-- The query for an aggregate over its rows. Without groups an ordering has no effect on it and
is dropped with its values (§3, `aggregate`). -/
def computing (q : Query) (function : String) (columns : List Column) : Query :=
  let q := { q with aggregate := some { function, columns } }
  -- with groups there is one row for each, and their ordering matters
  if q.groups.isEmpty then
    { q with tail := { q.tail with orders := [] }, bindings := q.bindings.clear .orders }
  else q

end QueryBuilder.Query
