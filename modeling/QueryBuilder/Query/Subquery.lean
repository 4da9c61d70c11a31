import QueryBuilder.Query.Clauses

/-!
# Sub-queries

Queries inside of others, as §4.1 and §10.2 of the specification have them.

* `Subquery`: what can stand for a query inside another: a query, a closure that builds one, or SQL.
* `Subquery.build`: the query it stands for. `Subquery.text`: its SQL and the values that SQL binds.
* The clauses that embed a sub-query.
-/

namespace QueryBuilder

/-- What stands for a query inside another. -/
inductive Subquery where
  | query (q : Query)
  /-- Builds the query from the empty one it is given. -/
  | closure (build : Query → Except Error Query)
  | sql (text : String)

namespace Subquery

/-- The query it stands for; SQL stands for none (§7, `UnsupportedSubqueryType`). -/
def build (s : Subquery) (outer : Query) : Except Error Query :=
  match s with
  | query q => .ok q
  | closure f => f outer.fresh
  | sql _ => .error .subqueryExpected

/-- The SQL it stands for, with the values that the SQL binds. -/
def text (s : Subquery) (outer : Query) : Except Error (String × List Value) :=
  match s with
  | sql text => .ok (text, [])
  | s => do
    let q ← s.build outer
    return (q.sql, q.values)

/-- A sub-query as messages show it. -/
def describe : Subquery → String
  | query q => "Builder(" ++ q.describe ++ ")"
  | closure _ => "Closure(..)"
  | sql text => "Sql(" ++ Text.describe text ++ ")"

end Subquery

namespace Query

/-- Selects the value of a sub-query under an alias (§10.2, `select_sub`). -/
def selectSub (q : Query) (s : Subquery) (label : String) : Except Error Query := do
  let (sql, values) ← s.text q
  return q.selectRaw ("(" ++ sql ++ ") as " ++ q.dialect.quote label) values

/-- Reads from a sub-query under an alias (§10.2, `from_sub`). -/
def fromSub (q : Query) (s : Subquery) (label : String) : Except Error Query := do
  let (sql, values) ← s.text q
  return q.fromRaw ("(" ++ sql ++ ") as " ++ q.dialect.quoteName label) values

/-- Orders by the value of a sub-query (§10.2, `order_by_sub`). -/
def orderBySub (q : Query) (s : Subquery) (direction : Direction) : Except Error Query := do
  let (sql, values) ← s.text q
  return (q.bind q.orderClause values).orderBy (.raw ("(" ++ sql ++ ")")) direction

/-- Unites the rows with those of a further query (§10.2, `union` and `union_all`). -/
def union (q : Query) (all : Bool) (s : Subquery) : Except Error Query := do
  let other ← s.build q
  let q := q.bind .unions other.values
  return { q with unions := q.unions ++ [⟨all, other⟩] }

end Query

end QueryBuilder
