import QueryBuilder.Query.Join

/-!
# Conditions and columns over related rows

The correlated queries of §4.4 of the specification. The related query, on which the relation's
scope has run, is an argument here: it may have failed.

* `Link.correlate`: ties a query for related rows to the current row of the query around it.
* `Query.relationAggregate`: selects an aggregate over the related rows.
* `Query.has`: keeps rows by how many related rows they have.
-/

namespace QueryBuilder

namespace ManyToMany

/-- A column of the pivot table, with the table in front if asked for. -/
def pivotColumn (m : ManyToMany) (qualified : Bool) (column : String) : String :=
  if qualified then m.pivotTable ++ "." ++ column else column

/-- Adds one condition on the pivot table. -/
def addCondition (m : ManyToMany) (qualified : Bool) (q : Query) :
    PivotCondition → Except Error Query
  | .compare column operator value =>
    q.whereIs (m.pivotColumn qualified column) operator (.operand value)
  | .isIn column values negated =>
    q.whereIn .and negated (.name (m.pivotColumn qualified column)) (.operands values)
  | .between column low high negated =>
    .ok (q.whereBetween .and negated (.name (m.pivotColumn qualified column)) low high)
  | .isNull column negated =>
    .ok (q.whereNull .and negated (.name (m.pivotColumn qualified column)))

/-- Adds all conditions on the pivot table (§4.4, pivot-scoped predicates). -/
def addConditions (m : ManyToMany) (qualified : Bool) (q : Query) : Except Error Query :=
  m.conditions.foldlM (m.addCondition qualified) q

/-- Adds the orderings by columns of the pivot table. -/
def addOrders (m : ManyToMany) (qualified : Bool) (q : Query) : Query :=
  m.orders.foldl
    (fun q (column, direction) => q.orderBy (.name (m.pivotColumn qualified column)) direction) q

/-- Joins the pivot table to a query for related rows (§4.4, step 2). -/
def joinPivot (m : ManyToMany) (q : Query) : Query :=
  q.join .inner (.table m.pivotTable) (m.pivotTable ++ "." ++ m.relatedPivotKey) "="
    (m.table ++ "." ++ m.relatedKey)

end ManyToMany

namespace Link

/-- Ties a query for related rows to the current row of the query around it, whose columns are
qualified by `outer` (§4.4, correlated to the outer query's table or alias). -/
def correlate (l : Link) (outer : String) (related : Query) : Except Error Query :=
  match l with
  | hasOne table foreignKey localKey =>
    related.compareColumns .and (.name (table ++ "." ++ foreignKey)) "="
      (.name (outer ++ "." ++ localKey))
  | hasMany table foreignKey localKey =>
    related.compareColumns .and (.name (table ++ "." ++ foreignKey)) "="
      (.name (outer ++ "." ++ localKey))
  | belongsTo table foreignKey ownerKey =>
    related.compareColumns .and (.name (table ++ "." ++ ownerKey)) "="
      (.name (outer ++ "." ++ foreignKey))
  | belongsToMany m => do
    let q ← m.addConditions true (m.joinPivot related)
    q.compareColumns .and (.name (m.pivotTable ++ "." ++ m.foreignPivotKey)) "="
      (.name (outer ++ "." ++ m.localKey))

end Link

/-- What a comparison of a count with a number comes down to, where one row decides: `true` for no
row at all, `false` for at least one (§4.4 and §9, the choice between `EXISTS` and a count). -/
def noneForm? (operator : String) (count : Int) : Option Bool :=
  if operator = ">=" ∧ count = 1 ∨ operator = ">" ∧ count = 0 then some false
  else if operator = "<" ∧ count = 1 ∨ operator = "<=" ∧ count = 0 ∨ operator = "=" ∧ count = 0 then
    some true
  else none

/-- The operator that holds exactly when this one does not (§10.2, `where_doesnt_have`; §7,
`UnsupportedOperator`). -/
def inverseOperator (operator : String) : Except Error String :=
  match operator with
  | ">=" => .ok "<"
  | "<" => .ok ">="
  | ">" => .ok "<="
  | "<=" => .ok ">"
  | "=" => .ok "!="
  | "!=" => .ok "="
  | "<>" => .ok "="
  | other => .error (.noInverse other)

namespace Query

/-- A column of the related table, with the table in front unless it is qualified or the star. -/
def relatedColumn (link : Link) (column : String) : String :=
  if column = "*" ∨ column.toList.contains '.' then column else link.table ++ "." ++ column

/-- Selects an aggregate over the related rows under a name; null reads as zero. A query that
selects no column yet goes on selecting all of its own (§4.4, `withCount` and its kin). -/
def relationAggregate (q : Query) (name : String) (link : Link) (related : Except Error Query)
    (function column : String) : Except Error Query := do
  let call := function ++ "(" ++ q.dialect.quoteName (relatedColumn link column) ++ ")"
  let sub ← link.correlate q.qualifier (← related)
  let sub := sub.select [.raw (q.dialect.ifNull call "0")]
  -- the sub-select must not take the place of the columns that the query had by default
  let q := if q.columns.isEmpty then { q with columns := [.name (q.qualifier ++ ".*")] } else q
  q.selectSub (.query sub) name

/-- Keeps the rows whose number of related rows stands in a relation to a count (§10.2,
`where_has`). -/
def has (q : Query) (connector : Connector) (link : Link) (related : Except Error Query)
    (operator : String) (count : Int) : Except Error Query := do
  let operator ← q.checkedOperator operator
  let sub ← link.correlate q.qualifier (← related)
  match noneForm? operator count with
  | some negated => return q.addExists connector negated sub
  | none =>
    q.compare connector (.query (.query (sub.select [.raw "count(*)"]))) (some operator)
      (.value (.ofInt count))

/-- Keeps the rows without related rows (§10.2, `where_doesnt_have`). -/
def lacks (q : Query) (connector : Connector) (link : Link) (related : Except Error Query) :
    Except Error Query :=
  q.has connector link related "<" 1

/-- Keeps the rows that the same comparison would drop. -/
def hasNot (q : Query) (link : Link) (related : Except Error Query) (operator : String)
    (count : Int) : Except Error Query := do
  q.has .and link related (← inverseOperator operator) count

end Query

end QueryBuilder
