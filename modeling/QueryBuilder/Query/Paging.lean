import QueryBuilder.Query.Fetch

/-!
# Pages

Pages with their counts, by §4.5 of the specification.

* `Page`: some rows and their place in the whole result.
* `Query.countQuery?`: the query whose single row tells how many rows the result has, orderings and
  window aside. Groups are counted one by one, over a derived table.
* `Query.paginate`: the count, then the rows of one page if there are any at all.
-/

namespace QueryBuilder

/-- Rows and their place in the whole result (§4.5, `data` and `meta`). -/
structure Page where
  rows : List Record
  number : Nat
  size : Nat
  total : Nat
  /-- How many pages the whole result has. -/
  pages : Nat

/-- A page of a result; pages of no size are none (§8, pagination). -/
def Page.of (rows : List Record) (number size total : Nat) : Page :=
  { rows, number, size, total, pages := if size = 0 then 0 else (total + size - 1) / size }

namespace Query

/-- The query for the count of a query with groups: it counts the rows of a derived table (§4.5, a
wrapped derived table). -/
def groupCountQuery (q : Query) : Except Error Query := do
  let inner := (q.without [.orders, .limit, .offset, .eagerLoads]).withoutBindings [.orders]
  let inner :=
    -- a star over a join would give the derived table the columns of the joined sources as well
    if inner.columns.isEmpty && !inner.joins.isEmpty then
      { inner with columns := [.name (inner.qualifier ++ ".*")] }
    else inner
  return (← q.fresh.fromSub (.query inner) "aggregate_table").computing "count" [Column.star]

/-- The query for the count of a query without groups (§4.5, a stripped count-only query). -/
def plainCountQuery (q : Query) : Query :=
  let counted :=
    if q.isUnion then
      let whole :=
        (q.without [.unionOrders, .unionLimit, .unionOffset, .eagerLoads]).withoutBindings
          [.unionOrders]
      if whole.columns.isEmpty then { whole with columns := [Column.star] } else whole
    else
      (q.without [.columns, .orders, .limit, .offset, .eagerLoads]).withoutBindings
        [.columns, .orders]
  counted.computing "count" [Column.star]

/-- The query for how many rows the result has (§4.5). -/
def countQuery (q : Query) : Except Error Query :=
  if q.groups.isEmpty && q.havings.isEmpty then .ok q.plainCountQuery else q.groupCountQuery

/-- How many rows the result has. -/
def totalCount (q : Query) : Run Nat := do
  let rows ← (← Run.ofExcept q.countQuery).fetch
  let total := (rows.head?.bind fun row => row.get? "aggregate").bind Value.toInt?
  return (total.getD 0).toNat

/-- One page of the result. Pages count from one; the size is the conventional one unless it is
given (§4.5, `paginate`). -/
def paginate (q : Query) (number : Nat) (size : Option Nat) : Run Page := do
  let number := Nat.max number 1
  let size := Nat.max (size.getD q.connection.config.pageSize) 1
  let total ← q.totalCount
  -- nothing is fetched from an empty result
  let rows ← if 0 < total then (q.page number size).fetch else pure []
  return Page.of rows number size total

end Query

end QueryBuilder
