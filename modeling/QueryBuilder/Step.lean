import QueryBuilder.Bindings
import QueryBuilder.Connector
import QueryBuilder.Dialect
import QueryBuilder.Order

/-!
# Programs that build queries

The calls of §10.2 of the specification by which a query is put together, as data. A query is
built by steps. A step that takes a closure holds the closure's own steps, so that programs are
plain data.

* `Step`: one building step. `JoinStep`: one step of a join that is built condition by condition.
* `Nested`: a sub-query as a program writes it.
* `Link`, `Relation`: how the rows of one table belong to those of another, and what restricts
  them.
-/

namespace QueryBuilder

/-- A part of a query that a copy can leave out (§8, `cloneWithout`). -/
inductive Part where
  | aggregate
  | columns
  | source
  | joins
  | wheres
  | groups
  | havings
  | orders
  | limit
  | offset
  | unions
  | unionOrders
  | unionLimit
  | unionOffset
  | eagerLoads
  deriving DecidableEq, Repr

/-- A condition on a column of a pivot table (§10.2, `where_pivot` and its kin). -/
inductive PivotCondition where
  | compare (column operator : String) (value : Operand)
  | isIn (column : String) (values : List Operand) (negated : Bool)
  | between (column : String) (low high : Operand) (negated : Bool)
  | isNull (column : String) (negated : Bool)
  deriving Repr

/-- Rows on both sides that a third table, the pivot, pairs up (§3, `ManyToMany`). -/
structure ManyToMany where
  table : String
  pivotTable : String
  /-- The pivot's column that holds the parent's key. -/
  foreignPivotKey : String
  /-- The pivot's column that holds the related row's key. -/
  relatedPivotKey : String
  localKey : String := "id"
  relatedKey : String := "id"
  conditions : List PivotCondition := []
  orders : List (String × Direction) := []
  deriving Repr

/-- How rows of a related table belong to a parent row (§3, relation descriptors). -/
inductive Link where
  /-- One related row holds the parent's key. -/
  | hasOne (table foreignKey localKey : String)
  /-- Many related rows hold the parent's key. -/
  | hasMany (table foreignKey localKey : String)
  /-- The parent row holds the related row's key. -/
  | belongsTo (table foreignKey ownerKey : String)
  | belongsToMany (through : ManyToMany)
  deriving Repr

mutual

/-- A sub-query as a program writes it. -/
inductive Nested where
  /-- Steps to run on the query that the operation hands them. -/
  | closure (steps : List Step)
  /-- A query that is built before the operation starts, on the current connection or on a separate
  one of the given dialect. -/
  | built (dialect : Option Dialect) (steps : List Step)
  | sql (text : String)

/-- The value side of a condition. -/
inductive ValueTerm where
  | operand (o : Operand)
  | nested (n : Nested)

/-- The column side of a condition. -/
inductive ColumnTerm where
  | column (c : Column)
  | nested (n : Nested)
  /-- Rows of a column and a value, with an operator and a connector where they are not `=` and
  `and`, or of a single closure. -/
  | rows (rows : List (List ValueTerm))
  /-- Columns and the values that they equal. -/
  | pairs (pairs : List (String × ValueTerm))

/-- The candidates of an `in` condition. -/
inductive CandidateTerm where
  | operands (os : List Operand)
  | nested (n : Nested)

/-- A relation: how related rows belong to a parent row, and steps that restrict every query for
related rows (§10.2, the constraint closure). -/
structure Relation where
  link : Link
  scope : List Step

/-- One step of a join that is built condition by condition (§4.3). -/
inductive JoinStep where
  | on (connector : Connector) (first operator second : String)
  | group (connector : Connector) (steps : List JoinStep)
  | compare (connector : Connector) (column operator : String) (value : ValueTerm)
  | isNull (negated : Bool) (column : String)
  | isIn (column : String) (candidates : CandidateTerm)
  | join (source : Source) (first operator second : String)

/-- One building step (§10.2, builder surface). -/
inductive Step where
  /-- A step whose arguments could not be read: running it gives the reason. -/
  | unreadable (why : Error)
  -- columns
  | select (columns : List Column)
  | addSelect (columns : List Column)
  | selectRaw (sql : String) (values : List Value)
  | selectNested (query : Nested) (label : String)
  | distinct
  -- source
  | source (source : Source)
  | sourceAs (table label : String)
  | sourceRaw (sql : String) (values : List Value)
  | sourceNested (query : Nested) (label : String)
  -- joins
  | join (kind : JoinKind) (source : Source) (first operator second : String)
  | crossJoin (source : Source)
  | joinWith (source : Source) (kind : JoinKind) (steps : List JoinStep)
  | joinWhere (kind : JoinKind) (source : Source) (first operator : String) (value : ValueTerm)
  | joinNested (query : Nested) (label : String) (kind : JoinKind) (first operator second : String)
  -- groups
  | groupBy (columns : List Column)
  | groupByRaw (sql : String) (values : List Value)
  -- orderings
  | orderBy (column : Column) (direction : Direction)
  | orderByNested (query : Nested) (direction : Direction)
  | orderByRaw (sql : String) (values : List Value)
  | newestFirst (column : Option String)
  | oldestFirst (column : Option String)
  | randomOrder (seed : String)
  | reorder
  | reorderBy (column : Column) (direction : Direction)
  -- windows
  | limit (count : Nat)
  | offset (count : Nat)
  | page (number size : Nat)
  | pageAfter (size : Nat) (last : Option Value) (column : String)
  | pageBefore (size : Nat) (last : Option Value) (column : String)
  | union (all : Bool) (query : Nested)
  -- composition
  | provided (condition : Bool) (steps : List Step)
  | withRelation (name : String) (relation : Relation)
  | withoutRelation (name : String)
  | addBinding (value : Value) (clause : Clause)
  | mergeBindings (dialect : Option Dialect) (steps : List Step)
  | without (parts : List Part)
  | withoutBindings (clauses : List Clause)
  | fresh
  -- conditions
  | compare (connector : Connector) (column : ColumnTerm) (operator : Option String)
      (value : ValueTerm)
  | group (connector : Connector) (steps : List Step)
  | groupOf (connector : Connector) (dialect : Option Dialect) (steps : List Step)
  | compareColumns (connector : Connector) (first : Column) (operator : String) (second : Column)
  | columnRows (rows : List (List ValueTerm))
  | isNull (connector : Connector) (negated : Bool) (column : Column)
  | whereRaw (connector : Connector) (sql : String) (values : List Value)
  | isIn (connector : Connector) (negated : Bool) (column : Column) (candidates : CandidateTerm)
  | between (connector : Connector) (negated : Bool) (column : Column) (low high : Operand)
  | betweenColumns (negated : Bool) (column low high : Column)
  | datePart (connector : Connector) (part : DatePart) (column : Column) (operator : String)
      (value : Operand)
  | exists (connector : Connector) (negated : Bool) (query : Nested)
  | having (connector : Connector) (column : Column) (operator : String) (value : Operand)
  | havingRaw (connector : Connector) (sql : String) (values : List Value)
  | havingNull (negated : Bool) (column : Column)
  | havingBetween (column : Column) (low high : Operand)
  -- relations
  | relationAggregate (name : String) (relation : Relation) (function column : String)
  | relationCount (name : String) (relation : Relation)
  | has (connector : Connector) (relation : Relation) (operator : String) (count : Int)
  | lacks (connector : Connector) (relation : Relation)
  | hasNot (relation : Relation) (operator : String) (count : Int)

end

namespace Link

/-- The related table. -/
def table : Link → String
  | hasOne table _ _ => table
  | hasMany table _ _ => table
  | belongsTo table _ _ => table
  | belongsToMany through => through.table

/-- The link leads to at most one row. -/
def isSingular : Link → Bool
  | hasOne .. => true
  | belongsTo .. => true
  | _ => false

/-- The field of a parent row by which its related rows are found. -/
def parentKey : Link → String
  | hasOne _ _ localKey => localKey
  | hasMany _ _ localKey => localKey
  | belongsTo _ foreignKey _ => foreignKey
  | belongsToMany through => through.localKey

end Link

/-- The step for an argument that was read, or one that gives the reason why it could not be. -/
def Step.reading {α : Type} (argument : Except Error α) (step : α → Step) : Step :=
  match argument with
  | .ok a => step a
  | .error why => .unreadable why

end QueryBuilder
