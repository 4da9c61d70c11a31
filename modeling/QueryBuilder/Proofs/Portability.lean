import QueryBuilder.Program
import QueryBuilder.Proofs.MirroredOperations

/-!
# Programs that two dialects take alike

A program is portable if none of its identifiers and raw texts holds a quotation mark, and if it
does without what the dialects write in ways of their own: parts of dates, random order, aggregates
over related rows, the operator that a single dialect knows, and queries built for a dialect of
their own. What is asked of a program is read off its syntax; values may be any values.

- `PortableSteps`, `PortableStep` and their kin: one function for each sort of syntax. The
  configuration is read where a step falls back on its column.
-/

namespace QueryBuilder

/-- The text that the value side of a condition is, if it is one. -/
def ValueTerm.asText? : ValueTerm → Option String
  | .operand (.value (.text s)) => some s
  | _ => none

mutual

/-- A program that two dialects take alike. -/
def PortableSteps (config : Config) : List Step → Prop
  | [] => True
  | step :: rest => PortableStep config step ∧ PortableSteps config rest

/-- A step that two dialects take alike. -/
def PortableStep (config : Config) : Step → Prop
  | .unreadable _ => True
  | .select columns => ∀ c ∈ columns, c.Unmarked
  | .addSelect columns => ∀ c ∈ columns, c.Unmarked
  | .selectRaw sql _ => Unmarked sql
  | .selectNested n label => PortableNested config n ∧ Unmarked label
  | .distinct => True
  | .source source => source.Unmarked
  | .sourceAs table label => Unmarked table ∧ Unmarked label
  | .sourceRaw sql _ => Unmarked sql
  | .sourceNested n label => PortableNested config n ∧ Unmarked label
  | .join _ source first operator second => source.Unmarked ∧ UnmarkedOn first operator second
  | .crossJoin source => source.Unmarked
  | .joinWith source _ steps => source.Unmarked ∧ PortableJoinSteps config steps
  | .joinWhere _ source first operator value =>
    source.Unmarked ∧ Unmarked first ∧ SharedOperator operator ∧ PortableValue config value
  | .joinNested n label _ first operator second =>
    PortableNested config n ∧ Unmarked label ∧ UnmarkedOn first operator second
  | .groupBy columns => ∀ c ∈ columns, c.Unmarked
  | .groupByRaw sql _ => Unmarked sql
  | .orderBy column _ => column.Unmarked
  | .orderByNested n _ => PortableNested config n
  | .orderByRaw sql _ => Unmarked sql
  | .newestFirst column => Unmarked (column.getD config.createdColumn)
  | .oldestFirst column => Unmarked (column.getD config.createdColumn)
  | .randomOrder _ => False
  | .reorder => True
  | .reorderBy column _ => column.Unmarked
  | .limit _ => True
  | .offset _ => True
  | .page _ _ => True
  | .pageAfter _ _ column => Unmarked column
  | .pageBefore _ _ column => Unmarked column
  | .union _ n => PortableNested config n
  | .provided condition steps => condition = true → PortableSteps config steps
  | .withRelation _ _ => True
  | .withoutRelation _ => True
  | .addBinding _ _ => True
  | .mergeBindings dialect steps => dialect = none ∧ PortableSteps config steps
  | .without _ => True
  | .withoutBindings _ => True
  | .fresh => True
  | .compare _ column operator value =>
    PortableColumn config column ∧ (∀ o ∈ operator, SharedOperator o) ∧ PortableValue config value
  | .group _ steps => PortableSteps config steps
  | .groupOf _ dialect steps => dialect = none ∧ PortableSteps config steps
  | .compareColumns _ first operator second =>
    first.Unmarked ∧ SharedOperator operator ∧ second.Unmarked
  | .columnRows rows => PortableRows config true rows
  | .isNull _ _ column => column.Unmarked
  | .whereRaw _ sql _ => Unmarked sql
  | .isIn _ _ column candidates => column.Unmarked ∧ PortableCandidates config candidates
  | .between _ _ column low high => column.Unmarked ∧ low.Unmarked ∧ high.Unmarked
  | .betweenColumns _ column low high => column.Unmarked ∧ low.Unmarked ∧ high.Unmarked
  | .datePart _ _ _ _ _ => False
  | .exists _ _ n => PortableNested config n
  | .having _ column operator value => column.Unmarked ∧ SharedOperator operator ∧ value.Unmarked
  | .havingRaw _ sql _ => Unmarked sql
  | .havingNull _ column => column.Unmarked
  | .havingBetween column low high => column.Unmarked ∧ low.Unmarked ∧ high.Unmarked
  | .relationAggregate _ _ _ _ => False
  | .relationCount _ _ => False
  | .has _ relation operator _ => PortableRelation config relation ∧ SharedOperator operator
  | .lacks _ relation => PortableRelation config relation
  | .hasNot relation _ _ => PortableRelation config relation

/-- A relation that two dialects take alike. -/
def PortableRelation (config : Config) : Relation → Prop
  | ⟨link, scope⟩ => link.Portable ∧ PortableSteps config scope

/-- A sub-query that two dialects take alike. -/
def PortableNested (config : Config) : Nested → Prop
  | .closure steps => PortableSteps config steps
  | .built dialect steps => dialect = none ∧ PortableSteps config steps
  | .sql text => Unmarked text

/-- The left side of a condition. -/
def PortableColumn (config : Config) : ColumnTerm → Prop
  | .column c => c.Unmarked
  | .nested n => PortableNested config n
  | .rows rows => PortableRows config false rows
  | .pairs pairs => PortablePairs config pairs

/-- The value side of a condition. -/
def PortableValue (config : Config) : ValueTerm → Prop
  | .operand o => o.Unmarked
  | .nested n => PortableNested config n

/-- The elements of a condition row. -/
def PortableValues (config : Config) : List ValueTerm → Prop
  | [] => True
  | value :: rest => PortableValue config value ∧ PortableValues config rest

/-- Condition rows; a text in a row is a column or an operator by its place. -/
def PortableRows (config : Config) (ofColumns : Bool) : List (List ValueTerm) → Prop
  | [] => True
  | row :: rest =>
    (PortableValues config row ∧ PortableRowTexts ofColumns (row.map ValueTerm.asText?)) ∧
      PortableRows config ofColumns rest

/-- Columns and the values that they equal. -/
def PortablePairs (config : Config) : List (String × ValueTerm) → Prop
  | [] => True
  | (column, value) :: rest =>
    (Unmarked column ∧ PortableValue config value) ∧ PortablePairs config rest

/-- The candidates of an `in` condition. -/
def PortableCandidates (config : Config) : CandidateTerm → Prop
  | .operands os => ∀ o ∈ os, o.Unmarked
  | .nested n => PortableNested config n

/-- The steps of a join. -/
def PortableJoinSteps (config : Config) : List JoinStep → Prop
  | [] => True
  | step :: rest => PortableJoinStep config step ∧ PortableJoinSteps config rest

/-- A step of a join. -/
def PortableJoinStep (config : Config) : JoinStep → Prop
  | .on _ first operator second => UnmarkedOn first operator second
  | .group _ steps => PortableJoinSteps config steps
  | .compare _ column operator value =>
    Unmarked column ∧ SharedOperator operator ∧ PortableValue config value
  | .isNull _ column => Unmarked column
  | .isIn column candidates => Unmarked column ∧ PortableCandidates config candidates
  | .join source first operator second => source.Unmarked ∧ UnmarkedOn first operator second

end

/-- The link of a portable relation is portable. -/
theorem PortableRelation.link {config : Config} {relation : Relation}
    (h : PortableRelation config relation) : relation.link.Portable := by
  cases relation
  exact h.1

end QueryBuilder
