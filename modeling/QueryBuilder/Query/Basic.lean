import QueryBuilder.Step

/-!
# Queries

A query is a value: its clauses as trees, and the values they bind, clause by clause. This is the
clause model of §3 of the specification.

* `Query`, `Condition`, `Predicate`, `Join`, `Union`: the trees.
* `Query.on`: the empty query on a connection.
* `Query.bind`, `Query.andWhere`: the two ways in which clauses grow.
-/

namespace QueryBuilder

/-- A function over columns, computed over all rows (§3, `aggregate`). -/
structure Aggregate where
  function : String
  columns : List Column
  deriving DecidableEq, Repr

mutual

/-- A query (§3, Clause Model). -/
structure Query where
  connection : Connection
  aggregate : Option Aggregate
  /-- The selected columns; none means all. -/
  columns : List Column
  distinct : Bool
  source : Option Source
  joins : List Join
  wheres : List Condition
  groups : List Column
  havings : List Condition
  /-- Orderings and window of the select itself. -/
  tail : Tail
  unions : List Union
  /-- Orderings and window of the whole union. -/
  unionTail : Tail
  /-- Relations to load onto the rows, by name. -/
  eagerLoads : List (String × Relation)
  bindings : Bindings

/-- A predicate and how it is tied to the one before it. -/
structure Condition where
  connector : Connector
  predicate : Predicate

/-- A predicate over a row (§3, Predicate node). -/
inductive Predicate where
  | compare (column : Column) (operator : String) (value : Operand)
  | compareColumns (first : Column) (operator : String) (second : Column)
  | isNull (negated : Bool) (column : Column)
  | raw (sql : String)
  | isIn (negated : Bool) (column : Column) (candidates : List Operand)
  | between (negated : Bool) (column : Column) (low high : Operand)
  | betweenColumns (negated : Bool) (column low high : Column)
  | datePart (part : DatePart) (column : Column) (operator : String) (value : Operand)
  | group (conditions : List Condition)
  | compareQuery (column : Column) (operator : String) (query : Query)
  | exists (negated : Bool) (query : Query)

/-- A joined source with its conditions and the joins inside it (§3, `joins`). -/
structure Join where
  kind : JoinKind
  source : Source
  conditions : List Condition
  joins : List Join

/-- A further query whose rows are united with those before it (§3, `unions`). -/
structure Union where
  all : Bool
  query : Query

end

namespace Query

/-- The empty query on a connection. -/
def on (connection : Connection) : Query :=
  { connection, aggregate := none, columns := [], distinct := false, source := none, joins := []
    wheres := [], groups := [], havings := [], tail := {}, unions := [], unionTail := {}
    eagerLoads := [], bindings := {} }

/-- The empty query on a table. -/
def table (connection : Connection) (name : String) : Query :=
  { on connection with source := some (.table name) }

/-- The empty query on the connection of this one. -/
def fresh (q : Query) : Query :=
  on q.connection

/-- The empty query on the connection and the source of this one. -/
def freshOnSource (q : Query) : Query :=
  { q.fresh with source := q.source }

/-- The dialect of the query's connection. -/
def dialect (q : Query) : Dialect :=
  q.connection.dialect

/-- The name that qualifies the query's columns; empty without a source. -/
def qualifier (q : Query) : String :=
  match q.source with
  | some s => s.qualifier
  | none => ""

/-- A column name with the query's qualifier in front, unless it has one. -/
def qualify (q : Query) (column : String) : String :=
  if column.toList.contains '.' then column else q.qualifier ++ "." ++ column

/-- Files values under a clause (§3, `bindings`). -/
def bind (q : Query) (clause : Clause) (values : List Value) : Query :=
  { q with bindings := q.bindings.extend clause values }

/-- The scalars that the query binds, in the order of their placeholders. -/
def values (q : Query) : List Value :=
  q.bindings.flatten

/-- Ties a predicate to the conditions. -/
def addWhere (q : Query) (connector : Connector) (predicate : Predicate) : Query :=
  { q with wheres := q.wheres ++ [⟨connector, predicate⟩] }

/-- Ties a predicate to the conditions on groups. -/
def addHaving (q : Query) (connector : Connector) (predicate : Predicate) : Query :=
  { q with havings := q.havings ++ [⟨connector, predicate⟩] }

/-- The query unites several. -/
def isUnion (q : Query) : Bool :=
  !q.unions.isEmpty

end Query

end QueryBuilder
