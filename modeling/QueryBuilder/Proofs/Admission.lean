import QueryBuilder.Program

/-!
# What a program may hold

A statement about all programs has to say which raw SQL texts they may hold, with which values, and
whether they may change the parts of a query apart from its values. `Rules` says so, and
`Rules.AllowsSteps` reads a program by it: recursively through closures, joins, relation scopes and
queries built on their own. The reading follows the run, because whether a source may be replaced
depends on the query that has been built so far.

- `Rules`: what is asked of raw texts, and whether parts and values may part.
- `Rules.AllowsSteps`, `Rules.AllowsStep` and their kin: one function for each sort of syntax.
-/

namespace QueryBuilder

/-- What is asked of a program. -/
structure Rules where
  /-- The raw SQL texts that may be supplied, each with the values that are bound for it. -/
  raw : String → List Value → Prop
  /-- Parts of a query may be changed without the values filed for them, and values without the
  parts. -/
  apart : Prop

namespace Rules

variable (r : Rules)

/-- A column is a name or a raw text that binds nothing. -/
def AllowsColumn : Column → Prop
  | .name _ => True
  | .raw sql => r.raw sql []

/-- A source is a table or a raw text that binds nothing. -/
def AllowsSource : Source → Prop
  | .table _ => True
  | .raw sql => r.raw sql []

/-- An operand is a value or a raw text that binds nothing. -/
def AllowsOperand : Operand → Prop
  | .value _ => True
  | .raw sql => r.raw sql []

/-- The source of the query may be replaced: no values are bound for it. -/
def AllowsReplacing (q : Query) : Prop :=
  r.apart ∨ (q.bindings.get .source).flatMap Value.leaves = []

/-- The operands of a condition on a pivot table. -/
def AllowsPivot : PivotCondition → Prop
  | .compare _ _ value => r.AllowsOperand value
  | .isIn _ values _ => ∀ o ∈ values, r.AllowsOperand o
  | .between _ low high _ => r.AllowsOperand low ∧ r.AllowsOperand high
  | .isNull _ _ => True

/-- The operands in the conditions of a link. -/
def AllowsLink : Link → Prop
  | .belongsToMany through => ∀ c ∈ through.conditions, r.AllowsPivot c
  | _ => True

/-- A name is allowed as a column: quoting it leaves no placeholder. -/
theorem allowsColumn_name (s : String) : r.AllowsColumn (.name s) := trivial

theorem allowsSource_table (s : String) : r.AllowsSource (.table s) := trivial

end Rules

/-- The value side of a condition is the value null. -/
def ValueTerm.isNull : ValueTerm → Bool
  | .operand o => o.isNull
  | .nested _ => false

mutual

/-- A program that is run on a query keeps the rules. -/
def Rules.AllowsSteps (r : Rules) : List Step → Query → Prop
  | [], _ => True
  | step :: rest, q =>
    r.AllowsStep step q ∧ ∀ q', runStep step q = .ok q' → r.AllowsSteps rest q'

/-- A step that is run on a query keeps the rules. -/
def Rules.AllowsStep (r : Rules) : Step → Query → Prop
  | .unreadable _, _ => True
  | .select columns, _ => ∀ c ∈ columns, r.AllowsColumn c
  | .addSelect columns, _ => ∀ c ∈ columns, r.AllowsColumn c
  | .selectRaw sql values, _ => r.raw sql values
  | .selectNested n _, q => r.AllowsNested n q.fresh
  | .distinct, _ => True
  | .source source, q => r.AllowsSource source ∧ r.AllowsReplacing q
  | .sourceAs _ _, q => r.AllowsReplacing q
  | .sourceRaw sql values, q => r.raw sql values ∧ r.AllowsReplacing q
  | .sourceNested n _, q => r.AllowsNested n q.fresh ∧ r.AllowsReplacing q
  | .join _ source _ operator _, _ => r.AllowsSource source ∧ r.raw operator []
  | .crossJoin source, _ => r.AllowsSource source
  | .joinWith source _ steps, q => r.AllowsSource source ∧ r.AllowsJoinSteps steps q.connection
  | .joinWhere _ source _ _ value, q => r.AllowsSource source ∧ r.AllowsValue value q.fresh
  | .joinNested n _ _ _ operator _, q => r.AllowsNested n q.fresh ∧ r.raw operator []
  | .groupBy columns, _ => ∀ c ∈ columns, r.AllowsColumn c
  | .groupByRaw sql values, _ => r.raw sql values
  | .orderBy column _, _ => r.AllowsColumn column
  | .orderByNested n _, q => r.AllowsNested n q.fresh
  | .orderByRaw sql values, _ => r.raw sql values
  | .newestFirst _, _ => True
  | .oldestFirst _, _ => True
  | .randomOrder seed, _ => r.raw seed []
  | .reorder, _ => True
  | .reorderBy column _, _ => r.AllowsColumn column
  | .limit _, _ => True
  | .offset _, _ => True
  | .page _ _, _ => True
  | .pageAfter _ _ _, _ => True
  | .pageBefore _ _ _, _ => True
  | .union _ n, q => r.AllowsNested n q.fresh
  | .provided condition steps, q => condition = true → r.AllowsSteps steps q
  | .withRelation _ _, _ => True
  | .withoutRelation _, _ => True
  | .addBinding _ _, _ => r.apart
  | .mergeBindings _ _, _ => r.apart
  | .without _, _ => r.apart
  | .withoutBindings _, _ => r.apart
  | .fresh, _ => True
  | .compare _ column operator value, q =>
    match column with
    | .column c => r.AllowsColumn c ∧ r.AllowsValue value q.fresh
    -- a closure without operator and value builds a group, which starts on the query's own source
    | .nested n =>
      r.AllowsNested n (if operator.isNone && value.isNull then q.freshOnSource else q.fresh) ∧
        r.AllowsValue value q.fresh
    | .rows rows => r.AllowsRows rows q
    | .pairs pairs => r.AllowsPairs pairs q.fresh
  | .group _ steps, q => r.AllowsSteps steps q.freshOnSource
  | .groupOf _ dialect steps, q =>
    r.AllowsSteps steps (.on (separateConnection q.connection dialect))
  | .compareColumns _ first _ second, _ => r.AllowsColumn first ∧ r.AllowsColumn second
  | .columnRows rows, q => r.AllowsRows rows q
  | .isNull _ _ column, _ => r.AllowsColumn column
  | .whereRaw _ sql values, _ => r.raw sql values
  | .isIn _ _ column candidates, q => r.AllowsColumn column ∧ r.AllowsCandidates candidates q.fresh
  | .between _ _ column low high, _ =>
    r.AllowsColumn column ∧ r.AllowsOperand low ∧ r.AllowsOperand high
  | .betweenColumns _ column low high, _ =>
    r.AllowsColumn column ∧ r.AllowsColumn low ∧ r.AllowsColumn high
  | .datePart _ _ column _ value, _ => r.AllowsColumn column ∧ r.AllowsOperand value
  | .exists _ _ n, q => r.AllowsNested n q.fresh
  | .having _ column _ value, _ => r.AllowsColumn column ∧ r.AllowsOperand value
  | .havingRaw _ sql values, _ => r.raw sql values
  | .havingNull _ column, _ => r.AllowsColumn column
  | .havingBetween column low high, _ =>
    r.AllowsColumn column ∧ r.AllowsOperand low ∧ r.AllowsOperand high
  | .relationAggregate _ relation function _, q =>
    r.raw function [] ∧ r.AllowsRelation relation q.connection
  | .relationCount _ relation, q => r.AllowsRelation relation q.connection
  | .has _ relation _ _, q => r.AllowsRelation relation q.connection
  | .lacks _ relation, q => r.AllowsRelation relation q.connection
  | .hasNot relation _ _, q => r.AllowsRelation relation q.connection

/-- A relation keeps the rules: the conditions of its link, and its scope on the related table. -/
def Rules.AllowsRelation (r : Rules) : Relation → Connection → Prop
  | ⟨link, scope⟩, connection =>
    r.AllowsLink link ∧ r.AllowsSteps scope (.table connection link.table)

/-- A sub-query keeps the rules; a closure is run on the query `start`. -/
def Rules.AllowsNested (r : Rules) : Nested → Query → Prop
  | .closure steps, start => r.AllowsSteps steps start
  | .built dialect steps, start =>
    r.AllowsSteps steps (.on (separateConnection start.connection dialect))
  | .sql text, _ => r.raw text []

/-- The value side of a condition keeps the rules. -/
def Rules.AllowsValue (r : Rules) : ValueTerm → Query → Prop
  | .operand o, _ => r.AllowsOperand o
  | .nested n, start => r.AllowsNested n start

/-- The elements of a condition row keep the rules. -/
def Rules.AllowsValues (r : Rules) : List ValueTerm → Query → Prop
  | [], _ => True
  | value :: rest, start => r.AllowsValue value start ∧ r.AllowsValues rest start

/-- A condition row of a query keeps the rules. A row of a single closure is a group. -/
def Rules.AllowsRow (r : Rules) : List ValueTerm → Query → Prop
  | [], _ => True
  | [value], q => r.AllowsValue value q.freshOnSource
  | value :: other :: rest, q =>
    r.AllowsValue value q.fresh ∧ r.AllowsValue other q.fresh ∧ r.AllowsValues rest q.fresh

/-- Condition rows of a query keep the rules. -/
def Rules.AllowsRows (r : Rules) : List (List ValueTerm) → Query → Prop
  | [], _ => True
  | row :: rest, q => r.AllowsRow row q ∧ r.AllowsRows rest q

/-- The values of some columns keep the rules. -/
def Rules.AllowsPairs (r : Rules) : List (String × ValueTerm) → Query → Prop
  | [], _ => True
  | (_, value) :: rest, start => r.AllowsValue value start ∧ r.AllowsPairs rest start

/-- The candidates of an `in` condition keep the rules. -/
def Rules.AllowsCandidates (r : Rules) : CandidateTerm → Query → Prop
  | .operands os, _ => ∀ o ∈ os, r.AllowsOperand o
  | .nested n, start => r.AllowsNested n start

/-- The steps of a join keep the rules. -/
def Rules.AllowsJoinSteps (r : Rules) : List JoinStep → Connection → Prop
  | [], _ => True
  | step :: rest, connection => r.AllowsJoinStep step connection ∧ r.AllowsJoinSteps rest connection

/-- A step of a join keeps the rules. -/
def Rules.AllowsJoinStep (r : Rules) : JoinStep → Connection → Prop
  | .on _ _ operator _, _ => r.raw operator []
  | .group _ steps, connection => r.AllowsJoinSteps steps connection
  | .compare _ _ _ value, connection => r.AllowsValue value (.on connection)
  | .isNull _ _, _ => True
  | .isIn _ candidates, connection => r.AllowsCandidates candidates (.on connection)
  | .join source _ operator _, _ => r.AllowsSource source ∧ r.raw operator []

end

/-- A step that succeeds goes on to the rest of the program. -/
theorem Rules.allowsSteps_cons {r : Rules} {step : Step} {rest : List Step} {q next : Query}
    (hstep : r.AllowsStep step q) (hnext : runStep step q = .ok next)
    (hrest : r.AllowsSteps rest next) : r.AllowsSteps (step :: rest) q :=
  ⟨hstep, fun _ h => Except.ok.inj (hnext.symm.trans h) ▸ hrest⟩

end QueryBuilder
