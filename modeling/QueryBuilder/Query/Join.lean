import QueryBuilder.Query.Where

/-!
# Joins

The join sub-builder of §4.3 of the specification.

* `JoinDraft`: a join while its conditions are built. They grow on an inner query, so that they
  bind and nest as conditions do.
* `Query.addJoin`: a finished join becomes part of a query, its values among those of the joins.
-/

namespace QueryBuilder

/-- A join while its conditions are built (§4.3). -/
structure JoinDraft where
  kind : JoinKind
  source : Source
  /-- The query on which the conditions grow. -/
  inner : Query

namespace Query

/-- A join without conditions. -/
def draftJoin (q : Query) (kind : JoinKind) (source : Source) : JoinDraft :=
  { kind, source, inner := q.fresh }

/-- Adds a join (§3, `joins`). -/
def addJoin (q : Query) (j : JoinDraft) : Query :=
  let q := q.bind .joins j.inner.values
  { q with joins := q.joins ++ [⟨j.kind, j.source, j.inner.wheres, j.inner.joins⟩] }

end Query

namespace JoinDraft

/-- Compares two columns; the operator is written as it is given (§4.3, `on` and `orOn`). -/
def on (j : JoinDraft) (connector : Connector) (first operator second : String) : JoinDraft :=
  { j with
    inner := j.inner.addWhere connector (.compareColumns (.name first) operator (.name second)) }

/-- Adds the conditions that a closure builds as one group; without conditions it adds nothing
(§4.3, nested `on` groups). -/
def group (j : JoinDraft) (connector : Connector) (build : JoinDraft → Except Error JoinDraft) :
    Except Error JoinDraft := do
  let nested ← build { j with inner := j.inner.fresh }
  if nested.inner.wheres.isEmpty then return j
  else
    let inner := j.inner.mergeBindings nested.inner
    return { j with inner := inner.addWhere connector (.group nested.inner.wheres) }

/-- Compares a column with a value. -/
def compare (j : JoinDraft) (connector : Connector) (column operator : String)
    (value : Comparand) : Except Error JoinDraft := do
  return { j with
    inner := ← j.inner.compare connector (.column (.name column)) (some operator) value }

/-- A column is null, or is not. -/
def whereNull (j : JoinDraft) (negated : Bool) (column : String) : JoinDraft :=
  { j with inner := j.inner.whereNull .and negated (.name column) }

/-- A column is among the candidates. -/
def whereIn (j : JoinDraft) (column : String) (candidates : Candidates) :
    Except Error JoinDraft := do
  return { j with inner := ← j.inner.whereIn .and false (.name column) candidates }

end JoinDraft

namespace Query

/-- Joins a source on a comparison of two columns. -/
def join (q : Query) (kind : JoinKind) (source : Source) (first operator second : String) : Query :=
  q.addJoin ((q.draftJoin kind source).on .and first operator second)

/-- Joins every row of a source. -/
def crossJoin (q : Query) (source : Source) : Query :=
  q.addJoin (q.draftJoin .cross source)

/-- Joins a source on the conditions that a closure builds (§10.2, `join_with`). -/
def joinWith (q : Query) (source : Source) (kind : JoinKind)
    (build : JoinDraft → Except Error JoinDraft) : Except Error Query := do
  return q.addJoin (← build (q.draftJoin kind source))

/-- Joins a source on a comparison with a value (§10.2, `join_where`). -/
def joinWhere (q : Query) (kind : JoinKind) (source : Source) (first operator : String)
    (value : Comparand) : Except Error Query := do
  return q.addJoin (← (q.draftJoin kind source).compare .and first operator value)

/-- Joins a sub-query under an alias (§10.2, `join_sub`). -/
def joinSub (q : Query) (s : Subquery) (label : String) (kind : JoinKind)
    (first operator second : String) : Except Error Query := do
  let (sql, values) ← s.text q
  let source := Source.raw ("(" ++ sql ++ ") as " ++ q.dialect.quoteName label)
  return (q.bind .joins values).join kind source first operator second

end Query

/-- A join inside this one. -/
def JoinDraft.join (j : JoinDraft) (source : Source) (first operator second : String) : JoinDraft :=
  { j with inner := j.inner.join .inner source first operator second }

end QueryBuilder
