import QueryBuilder.Relation.Correlated

/-!
# Running programs

What the calls of §10.2 of the specification do, one after another.

* `runSteps`: a program run on a query; the first step that fails ends it.
* `runStep`: one step. A closure in a step becomes a function that runs the closure's steps.
* `Relation.query`: the query for the related rows of a relation, its scope included.
-/

namespace QueryBuilder

/-- The connection of a query that is built separately: its own dialect, and nothing else. -/
def separateConnection (current : Connection) : Option Dialect → Connection
  | none => current
  | some dialect => { dialect }

mutual

/-- Runs a program (§10.2; §7, the call that detects an error fails). -/
def runSteps : List Step → Query → Except Error Query
  | [], q => .ok q
  | step :: rest, q => do runSteps rest (← runStep step q)

/-- Runs one step (§10.2, builder surface). -/
def runStep : Step → Query → Except Error Query
  | .unreadable why, _ => .error why
  | .select columns, q => .ok (q.select columns)
  | .addSelect columns, q => .ok (q.addSelect columns)
  | .selectRaw sql values, q => .ok (q.selectRaw sql values)
  | .selectNested n label, q => do q.selectSub (← runNested n q) label
  | .distinct, q => .ok q.onlyDistinct
  | .source source, q => .ok (q.fromSource source)
  | .sourceAs table label, q => .ok (q.fromAs table label)
  | .sourceRaw sql values, q => .ok (q.fromRaw sql values)
  | .sourceNested n label, q => do q.fromSub (← runNested n q) label
  | .join kind source first operator second, q => .ok (q.join kind source first operator second)
  | .crossJoin source, q => .ok (q.crossJoin source)
  | .joinWith source kind steps, q => q.joinWith source kind (runJoinSteps steps)
  | .joinWhere kind source first operator value, q => do
    q.joinWhere kind source first operator (← runValue value q)
  | .joinNested n label kind first operator second, q => do
    q.joinSub (← runNested n q) label kind first operator second
  | .groupBy columns, q => .ok (q.groupBy columns)
  | .groupByRaw sql values, q => .ok (q.groupByRaw sql values)
  | .orderBy column direction, q => .ok (q.orderBy column direction)
  | .orderByNested n direction, q => do q.orderBySub (← runNested n q) direction
  | .orderByRaw sql values, q => .ok (q.orderByRaw sql values)
  | .newestFirst column, q => .ok (q.newestFirst column)
  | .oldestFirst column, q => .ok (q.oldestFirst column)
  | .randomOrder seed, q => .ok (q.inRandomOrder seed)
  | .reorder, q => .ok q.reorder
  | .reorderBy column direction, q => .ok (q.reorderBy column direction)
  | .limit count, q => .ok (q.limit count)
  | .offset count, q => .ok (q.offset count)
  | .page number size, q => .ok (q.page number size)
  | .pageAfter size last column, q => q.pageAfter size last column
  | .pageBefore size last column, q => q.pageBefore size last column
  | .union all n, q => do q.union all (← runNested n q)
  | .provided condition steps, q => if condition then runSteps steps q else .ok q
  | .withRelation name relation, q => .ok (q.loading name relation)
  | .withoutRelation name, q => .ok (q.notLoading name)
  | .addBinding value clause, q => .ok (q.addBinding value clause)
  | .mergeBindings dialect steps, q => do
    -- the other query is built on its own; nothing but its values is taken over
    return q.mergeBindings (← runSteps steps (.on (separateConnection q.connection dialect)))
  | .without parts, q => .ok (q.without parts)
  | .withoutBindings clauses, q => .ok (q.withoutBindings clauses)
  | .fresh, q => .ok q.fresh
  | .compare connector column operator value, q => do
    match column with
    | .column c => q.compare connector (.column c) operator (← runValue value q)
    | .nested n =>
      let s ← runNested n q
      q.compare connector (.query s) operator (← runValue value q)
    -- rows and pairs bring their own values; the value beside them only has to be well formed
    | .rows rows =>
      let rows ← runRows rows q
      let _ ← runValue value q
      q.whereRows connector rows
    | .pairs pairs =>
      let pairs ← runPairs pairs q
      let _ ← runValue value q
      q.wherePairs connector pairs
  | .group connector steps, q => q.group connector (runSteps steps)
  | .groupOf connector dialect steps, q => do
    return q.addGroup connector (← runSteps steps (.on (separateConnection q.connection dialect)))
  | .compareColumns connector first operator second, q =>
    q.compareColumns connector first operator second
  | .columnRows rows, q => do q.whereColumnRows (← runRows rows q)
  | .isNull connector negated column, q => .ok (q.whereNull connector negated column)
  | .whereRaw connector sql values, q => .ok (q.whereRaw connector sql values)
  | .isIn connector negated column candidates, q => do
    q.whereIn connector negated column (← runCandidates candidates q)
  | .between connector negated column low high, q =>
    .ok (q.whereBetween connector negated column low high)
  | .betweenColumns negated column low high, q =>
    .ok (q.whereBetweenColumns negated column low high)
  | .datePart connector part column operator value, q =>
    q.whereDatePart connector part column operator value
  | .exists connector negated n, q => do q.whereExists connector negated (← runNested n q)
  | .having connector column operator value, q => q.having connector column operator value
  | .havingRaw connector sql values, q => .ok (q.havingRaw connector sql values)
  | .havingNull negated column, q => .ok (q.havingNull negated column)
  | .havingBetween column low high, q => .ok (q.havingBetween column low high)
  | .relationAggregate name relation function column, q =>
    q.relationAggregate name relation.link (runRelation relation q.connection) function column
  | .relationCount name relation, q =>
    q.relationAggregate name relation.link (runRelation relation q.connection) "count" "*"
  | .has connector relation operator count, q =>
    q.has connector relation.link (runRelation relation q.connection) operator count
  | .lacks connector relation, q =>
    q.lacks connector relation.link (runRelation relation q.connection)
  | .hasNot relation operator count, q =>
    q.hasNot relation.link (runRelation relation q.connection) operator count

/-- The query for the related rows of a relation: its table, and its scope run on it (§10.2, the
constraint closure). -/
def runRelation : Relation → Connection → Except Error Query
  | ⟨link, scope⟩, connection => runSteps scope (.table connection link.table)

/-- A sub-query of a program. One that is built already is built now, and may fail here. -/
def runNested : Nested → Query → Except Error Subquery
  | .closure steps, _ => .ok (.closure (runSteps steps))
  | .built dialect steps, q => do
    return .query (← runSteps steps (.on (separateConnection q.connection dialect)))
  | .sql text, _ => .ok (.sql text)

/-- The value side of a condition. -/
def runValue : ValueTerm → Query → Except Error Comparand
  | .operand o, _ => .ok (.operand o)
  | .nested n, q => do return .query (← runNested n q)

/-- One condition row. -/
def runRow : List ValueTerm → Query → Except Error (List Comparand)
  | [], _ => .ok []
  | value :: rest, q => do
    let c ← runValue value q
    return c :: (← runRow rest q)

/-- Condition rows. -/
def runRows : List (List ValueTerm) → Query → Except Error (List (List Comparand))
  | [], _ => .ok []
  | row :: rest, q => do
    let row ← runRow row q
    return row :: (← runRows rest q)

/-- Columns and the values that they equal. -/
def runPairs : List (String × ValueTerm) → Query → Except Error (List (String × Comparand))
  | [], _ => .ok []
  | (column, value) :: rest, q => do
    let c ← runValue value q
    return (column, c) :: (← runPairs rest q)

/-- The candidates of an `in` condition. -/
def runCandidates : CandidateTerm → Query → Except Error Candidates
  | .operands os, _ => .ok (.operands os)
  | .nested n, q => do return .query (← runNested n q)

/-- Runs the steps of a join. -/
def runJoinSteps : List JoinStep → JoinDraft → Except Error JoinDraft
  | [], j => .ok j
  | step :: rest, j => do runJoinSteps rest (← runJoinStep step j)

/-- Runs one step of a join. -/
def runJoinStep : JoinStep → JoinDraft → Except Error JoinDraft
  | .on connector first operator second, j => .ok (j.on connector first operator second)
  | .group connector steps, j => j.group connector (runJoinSteps steps)
  | .compare connector column operator value, j => do
    j.compare connector column operator (← runValue value j.inner)
  | .isNull negated column, j => .ok (j.whereNull negated column)
  | .isIn column candidates, j => do j.whereIn column (← runCandidates candidates j.inner)
  | .join source first operator second, j => .ok (j.join source first operator second)

end

end QueryBuilder
