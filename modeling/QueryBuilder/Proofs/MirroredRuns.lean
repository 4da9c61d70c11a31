import QueryBuilder.Proofs.Portability

/-!
# A portable program in two dialects

A portable program makes mirror images: on a query and on its mirror image every step succeeds on
both sides, and the results are mirror images, or fails on both sides for the same cause.

This is a simulation: `Mirrors` relates the states, one case for each step shows that it is kept,
and the statements are compared at the end alone. A step that fails leaves both queries as they
were, so a program may go on behind it; the failures are compared as well.

- `StepsMirror`, `StepMirrors`, `NestedMirrors` and their kin: what is shown of each sort of syntax.
- `stepMirrors_of_partsMirror`: one case for each step, without recursion. `stepsMirror`: the
  structural induction that puts the sorts together.
- `attempts`: a program run step by step, where a step that fails leaves the query as it was.
- `portable_program`: the failures are the same, the values are the same, and one statement is the
  other with every back-tick replaced by a double quote.
-/

namespace QueryBuilder

section Mirror

variable (c : Connection)

/-- A program ends alike on queries in relation. -/
def StepsMirror (steps : List Step) : Prop :=
  PortableSteps c.config steps → ∀ ⦃q q' : Query⦄, q.Mirrors c q' →
    EndsAlike (Query.Mirrors c) (runSteps steps q) (runSteps steps q')

/-- A step ends alike on queries in relation. -/
def StepMirrors (step : Step) : Prop :=
  PortableStep c.config step → ∀ ⦃q q' : Query⦄, q.Mirrors c q' →
    EndsAlike (Query.Mirrors c) (runStep step q) (runStep step q')

/-- The queries for related rows are built alike on the two connections. -/
def RelationMirrors (relation : Relation) : Prop :=
  PortableRelation c.config relation →
    EndsAlike (Query.Mirrors c) (runRelation relation { c with dialect := .mysql })
      (runRelation relation { c with dialect := .sqlite })

/-- A sub-query is read alike for queries in relation. -/
def NestedMirrors (n : Nested) : Prop :=
  PortableNested c.config n → ∀ ⦃q q' : Query⦄, q.Mirrors c q' →
    EndsAlike (Subquery.Mirrors c) (runNested n q) (runNested n q')

/-- A value is read alike, and it is a text if its term is one. -/
def ValueMirrors (value : ValueTerm) : Prop :=
  PortableValue c.config value → ∀ ⦃q q' : Query⦄, q.Mirrors c q' →
    EndsAlike (fun v v' => v.Mirrors c v' ∧ v.asText? = value.asText?) (runValue value q)
      (runValue value q')

/-- The elements of a row are read alike. -/
def ValuesMirror (row : List ValueTerm) : Prop :=
  PortableValues c.config row → ∀ ⦃q q' : Query⦄, q.Mirrors c q' →
    EndsAlike (fun vs vs' => List.Forall₂ (Comparand.Mirrors c) vs vs' ∧
        vs.map Comparand.asText? = row.map ValueTerm.asText?)
      (runRow row q) (runRow row q')

/-- Rows are read alike, whether they compare columns or values. -/
def RowsMirror (rows : List (List ValueTerm)) : Prop :=
  ∀ ofColumns : Bool, PortableRows c.config ofColumns rows → ∀ ⦃q q' : Query⦄, q.Mirrors c q' →
    EndsAlike (List.Forall₂ (RowMirrors c ofColumns)) (runRows rows q) (runRows rows q')

/-- Columns and values are read alike. -/
def PairsMirror (pairs : List (String × ValueTerm)) : Prop :=
  PortablePairs c.config pairs → ∀ ⦃q q' : Query⦄, q.Mirrors c q' →
    EndsAlike (List.Forall₂ fun p p' => p'.1 = p.1 ∧ Unmarked p.1 ∧ p.2.Mirrors c p'.2)
      (runPairs pairs q) (runPairs pairs q')

/-- The candidates of a condition are read alike. -/
def CandidatesMirror (candidates : CandidateTerm) : Prop :=
  PortableCandidates c.config candidates → ∀ ⦃q q' : Query⦄, q.Mirrors c q' →
    EndsAlike (Candidates.Mirrors c) (runCandidates candidates q) (runCandidates candidates q')

/-- The steps of a join end alike on joins in relation. -/
def JoinStepsMirror (steps : List JoinStep) : Prop :=
  PortableJoinSteps c.config steps → ∀ ⦃j j' : JoinDraft⦄, j.Mirrors c j' →
    EndsAlike (JoinDraft.Mirrors c) (runJoinSteps steps j) (runJoinSteps steps j')

/-- A step of a join ends alike on joins in relation. -/
def JoinStepMirrors (step : JoinStep) : Prop :=
  PortableJoinStep c.config step → ∀ ⦃j j' : JoinDraft⦄, j.Mirrors c j' →
    EndsAlike (JoinDraft.Mirrors c) (runJoinStep step j) (runJoinStep step j')

/-- What the left side of a condition holds is read alike. -/
def ColumnMirrors : ColumnTerm → Prop
  | .column _ => True
  | .nested n => NestedMirrors c n
  | .rows rows => RowsMirror c rows
  | .pairs pairs => PairsMirror c pairs

/-- The programs, sub-queries and relations that a step holds end alike. -/
def PartsMirror : Step → Prop
  | .selectNested n _ => NestedMirrors c n
  | .sourceNested n _ => NestedMirrors c n
  | .joinWith _ _ steps => JoinStepsMirror c steps
  | .joinWhere _ _ _ _ value => ValueMirrors c value
  | .joinNested n _ _ _ _ _ => NestedMirrors c n
  | .orderByNested n _ => NestedMirrors c n
  | .union _ n => NestedMirrors c n
  | .provided _ steps => StepsMirror c steps
  | .mergeBindings _ steps => StepsMirror c steps
  | .compare _ column _ value => ColumnMirrors c column ∧ ValueMirrors c value
  | .group _ steps => StepsMirror c steps
  | .groupOf _ _ steps => StepsMirror c steps
  | .columnRows rows => RowsMirror c rows
  | .isIn _ _ _ candidates => CandidatesMirror c candidates
  | .exists _ _ n => NestedMirrors c n
  | .has _ relation _ _ => RelationMirrors c relation
  | .lacks _ relation => RelationMirrors c relation
  | .hasNot relation _ _ => RelationMirrors c relation
  | _ => True

end Mirror

variable {c : Connection}

/-! ## One step -/

/-- The related rows are fetched on the connections of the two queries. -/
theorem RelationMirrors.query {relation : Relation} (h : RelationMirrors c relation)
    (hportable : PortableRelation c.config relation) {q q' : Query} (hq : q.Mirrors c q') :
    EndsAlike (Query.Mirrors c) (runRelation relation q.connection)
      (runRelation relation q'.connection) := by
  rw [hq.connection, hq.connection']
  exact h hportable

/-- A query that is built beside this one, on the same connection. -/
theorem StepsMirror.beside {steps : List Step} (h : StepsMirror c steps)
    (hportable : PortableSteps c.config steps) {q q' : Query} (hq : q.Mirrors c q') :
    EndsAlike (Query.Mirrors c) (runSteps steps (.on (separateConnection q.connection none)))
      (runSteps steps (.on (separateConnection q'.connection none))) :=
  h hportable hq.fresh

/-- A comparison of any shape. -/
theorem compareMirrors {connector : Connector} {column : ColumnTerm} {operator : Option String}
    {value : ValueTerm} (hcolumn : ColumnMirrors c column) (hvalue : ValueMirrors c value) :
    StepMirrors c (.compare connector column operator value) := by
  rintro ⟨hportable, hoperator, hvalueportable⟩ q q' hq
  have hread := hvalue hvalueportable hq
  cases column with
  | column column =>
    have hname : column.Unmarked := hportable
    refine hread.bind fun v v' hv => ?_
    exact hq.compare connector (.column hname.mirrors) hoperator hv.1
  | nested n =>
    refine (hcolumn hportable hq).bind fun s s' hs => ?_
    refine hread.bind fun v v' hv => ?_
    exact hq.compare connector (.query hs) hoperator hv.1
  | rows rows =>
    refine (hcolumn false hportable hq).bind fun rows rows' hrows => ?_
    refine hread.bind fun _ _ _ => ?_
    exact hq.addRows Query.Mirrors.compareRow connector hrows
  | pairs pairs =>
    refine (hcolumn hportable hq).bind fun pairs pairs' hpairs => ?_
    refine hread.bind fun _ _ _ => ?_
    exact hq.wherePairs connector hpairs

/-- One case for each step. What the step holds enters through `hparts` only, so there is no
recursion here. -/
theorem stepMirrors_of_partsMirror {step : Step} (hparts : PartsMirror c step) :
    StepMirrors c step := by
  intro hportable q q' hq
  -- every operation ends alike; steps that a single dialect writes in its own way are not
  -- portable
  cases step with
  | unreadable why => exact .error rfl
  | select columns => exact .ok (hq.select (respelled_columns hportable))
  | addSelect columns => exact .ok (hq.addSelect (respelled_columns hportable))
  | selectRaw sql values => exact .ok (hq.selectRaw (.of_unmarked hportable) values)
  | selectNested n label =>
    exact (hparts hportable.1 hq).bind fun s s' hs => hq.selectSub hs hportable.2
  | distinct => exact .ok hq.onlyDistinct
  | source source => exact .ok (hq.fromSource (Source.Unmarked.mirrors hportable))
  | sourceAs table label =>
    have hword : Bare " as " := by decide
    have hname := compositional_respelled.around (.of_unmarked hportable.1) hword
      (.of_unmarked hportable.2)
    exact .ok (hq.fromSource (.table hname))
  | sourceRaw sql values => exact .ok (hq.fromRaw (.of_unmarked hportable) values)
  | sourceNested n label =>
    exact (hparts hportable.1 hq).bind fun s s' hs => hq.fromSub hs hportable.2
  | join kind source first operator second =>
    exact .ok (hq.join kind hportable.1.mirrors hportable.2)
  | crossJoin source => exact .ok (hq.crossJoin hportable)
  | joinWith source kind steps =>
    exact hq.joinWith hportable.1 kind fun _ _ hstart => hparts hportable.2 hstart
  | joinWhere kind source first operator value =>
    obtain ⟨hsource, hfirst, hoperator, hvalue⟩ := hportable
    refine (hparts hvalue hq).bind fun v v' hv => ?_
    exact hq.joinWhere kind hsource hfirst hoperator hv.1
  | joinNested n label kind first operator second =>
    obtain ⟨hnested, hlabel, hon⟩ := hportable
    exact (hparts hnested hq).bind fun s s' hs => hq.joinSub hs hlabel kind hon
  | groupBy columns => exact .ok (hq.groupBy (respelled_columns hportable))
  | groupByRaw sql values => exact .ok (hq.groupByRaw (.of_unmarked hportable) values)
  | orderBy column direction => exact .ok (hq.orderBy (Column.Unmarked.mirrors hportable) direction)
  | orderByNested n direction =>
    exact (hparts hportable hq).bind fun s s' hs => hq.orderBySub hs direction
  | orderByRaw sql values => exact .ok (hq.orderByRaw (.of_unmarked hportable) values)
  | newestFirst column => exact .ok (hq.newestFirst hportable)
  | oldestFirst column => exact .ok (hq.oldestFirst hportable)
  | randomOrder seed => exact hportable.elim
  | reorder => exact .ok hq.reorder
  | reorderBy column direction =>
    exact .ok (hq.reorder.orderBy (Column.Unmarked.mirrors hportable) direction)
  | limit count => exact .ok (hq.limit count)
  | offset count => exact .ok (hq.offset count)
  | page number size => exact .ok ((hq.offset (pageStart number size)).limit size)
  | pageAfter size last column =>
    exact hq.cursorPage size last hportable (sharedOperator_of_mem (by decide)) .ascending
  | pageBefore size last column =>
    exact hq.cursorPage size last hportable (sharedOperator_of_mem (by decide)) .descending
  | union all n => exact (hparts hportable hq).bind fun s s' hs => hq.unionSub all hs
  | provided condition steps =>
    cases condition with
    | false => exact .ok hq
    | true => exact hparts (hportable rfl) hq
  | withRelation name relation => exact .ok (hq.withLoads _ _)
  | withoutRelation name => exact .ok (hq.withLoads _ _)
  | addBinding value clause => exact .ok (hq.updateBindings fun b => b.add clause value)
  | mergeBindings dialect steps =>
    obtain ⟨rfl, hsteps⟩ := hportable
    exact (hparts.beside hsteps hq).bind fun _ _ hother => .ok (hq.mergeBindings hother)
  | without parts => exact .ok (hq.without parts)
  | withoutBindings clauses =>
    exact .ok (hq.updateBindings fun b => clauses.foldl Bindings.clear b)
  | fresh => exact .ok hq.fresh
  | compare connector column operator value => exact compareMirrors hparts.1 hparts.2 hportable hq
  | group connector steps => exact hq.group connector (hparts hportable hq.freshOnSource)
  | groupOf connector dialect steps =>
    obtain ⟨rfl, hsteps⟩ := hportable
    exact (hparts.beside hsteps hq).bind fun _ _ hnested => .ok (hq.addGroup connector hnested)
  | compareColumns connector first operator second =>
    obtain ⟨hfirst, hoperator, hsecond⟩ := hportable
    exact hq.compareColumns connector hfirst.mirrors hoperator hsecond.mirrors
  | columnRows rows =>
    refine (hparts true hportable hq).bind fun rows rows' hrows => ?_
    exact hq.addRows Query.Mirrors.compareColumnRow .and hrows
  | isNull connector negated column => exact .ok (hq.whereNull connector negated hportable)
  | whereRaw connector sql values => exact .ok (hq.whereRaw connector hportable values)
  | isIn connector negated column candidates =>
    refine (hparts hportable.2 hq).bind fun candidates candidates' hcandidates => ?_
    exact hq.whereIn connector negated hportable.1 hcandidates
  | between connector negated column low high =>
    obtain ⟨hcolumn, hlow, hhigh⟩ := hportable
    exact .ok (hq.whereBetween connector negated hcolumn hlow hhigh)
  | betweenColumns negated column low high =>
    obtain ⟨hcolumn, hlow, hhigh⟩ := hportable
    exact .ok (hq.whereBetweenColumns negated hcolumn hlow hhigh)
  | datePart connector part column operator value => exact hportable.elim
  | «exists» connector negated n =>
    exact (hparts hportable hq).bind fun s s' hs => hq.whereExists connector negated hs
  | having connector column operator value =>
    obtain ⟨hcolumn, hoperator, hvalue⟩ := hportable
    exact hq.having connector hcolumn hoperator hvalue
  | havingRaw connector sql values => exact .ok (hq.havingRaw connector hportable values)
  | havingNull negated column => exact .ok (hq.havingNull negated hportable)
  | havingBetween column low high =>
    obtain ⟨hcolumn, hlow, hhigh⟩ := hportable
    exact .ok (hq.havingBetween hcolumn hlow hhigh)
  | relationAggregate name relation function column => exact hportable.elim
  | relationCount name relation => exact hportable.elim
  | has connector relation operator count =>
    obtain ⟨hrelation, hoperator⟩ := hportable
    exact hq.has connector hrelation.link (hparts.query hrelation hq) hoperator count
  | lacks connector relation =>
    have hrelation : PortableRelation c.config relation := hportable
    exact hq.lacks connector hrelation.link (hparts.query hrelation hq)
  | hasNot relation operator count =>
    have hrelation : PortableRelation c.config relation := hportable
    exact hq.hasNot hrelation.link (hparts.query hrelation hq) operator count

/-! ## The sorts put together -/

mutual

/-- A program ends alike on queries in relation. -/
theorem stepsMirror (c : Connection) : ∀ steps : List Step, StepsMirror c steps
  | [] => by
    intro _ q q' hq
    exact .ok hq
  | step :: rest => by
    intro hportable q q' hq
    have hstep := stepMirrors_of_partsMirror (partsMirror c step) hportable.1 hq
    exact hstep.bind fun next next' hnext => stepsMirror c rest hportable.2 hnext
termination_by structural steps => steps

/-- What a step holds, each part by the statement for its own sort. -/
theorem partsMirror (c : Connection) (step : Step) : PartsMirror c step := by
  cases step with
  | selectNested n label => exact nestedMirrors c n
  | sourceNested n label => exact nestedMirrors c n
  | joinWith source kind steps => exact joinStepsMirror c steps
  | joinWhere kind source first operator value => exact valueMirrors c value
  | joinNested n label kind first operator second => exact nestedMirrors c n
  | orderByNested n direction => exact nestedMirrors c n
  | union all n => exact nestedMirrors c n
  | provided condition steps => exact stepsMirror c steps
  | mergeBindings dialect steps => exact stepsMirror c steps
  | compare connector column operator value => exact ⟨columnMirrors c column, valueMirrors c value⟩
  | group connector steps => exact stepsMirror c steps
  | groupOf connector dialect steps => exact stepsMirror c steps
  | columnRows rows => exact rowsMirror c rows
  | isIn connector negated column candidates => exact candidatesMirror c candidates
  | «exists» connector negated n => exact nestedMirrors c n
  | has connector relation operator count => exact relationMirrors c relation
  | lacks connector relation => exact relationMirrors c relation
  | hasNot relation operator count => exact relationMirrors c relation
  | _ => trivial
termination_by structural step

/-- The scope of a relation runs on the related table. -/
theorem relationMirrors (c : Connection) : ∀ relation : Relation, RelationMirrors c relation
  | ⟨link, scope⟩ => by
    intro hportable
    exact stepsMirror c scope hportable.2 (Query.Mirrors.table c hportable.1.table)
termination_by structural relation => relation

/-- A sub-query is read alike. -/
theorem nestedMirrors (c : Connection) : ∀ n : Nested, NestedMirrors c n
  | .closure steps => by
    -- the two closures are handed queries in relation, whichever these are
    intro hportable q q' _
    have hbuild : ∀ start start', start.Mirrors c start' →
        EndsAlike (Query.Mirrors c) (runSteps steps start) (runSteps steps start') :=
      fun _ _ hstart => stepsMirror c steps hportable hstart
    exact .ok (.closure hbuild)
  | .built dialect steps => by
    intro hportable q q' hq
    obtain ⟨rfl, hsteps⟩ := hportable
    exact ((stepsMirror c steps).beside hsteps hq).bind fun _ _ hsub => .ok (.query hsub)
  | .sql text => by
    intro hportable q q' _
    exact .ok (.sql (.of_unmarked hportable))
termination_by structural n => n

/-- A value is read alike. -/
theorem valueMirrors (c : Connection) : ∀ value : ValueTerm, ValueMirrors c value
  | .operand o => by
    intro hportable q q' _
    have htext : (Comparand.operand o).asText? = (ValueTerm.operand o).asText? := by
      cases o with
      | raw sql => rfl
      | value v => cases v <;> rfl
    exact .ok ⟨.operand hportable, htext⟩
  | .nested n => by
    intro hportable q q' hq
    exact (nestedMirrors c n hportable hq).bind fun s s' hs => .ok ⟨.query hs, rfl⟩
termination_by structural value => value

/-- The elements of a row are read alike, one by one. -/
theorem valuesMirror (c : Connection) : ∀ row : List ValueTerm, ValuesMirror c row
  | [] => by
    intro _ q q' _
    exact .ok ⟨.nil, rfl⟩
  | value :: rest => by
    intro hportable q q' hq
    refine (valueMirrors c value hportable.1 hq).bind fun v v' hv => ?_
    refine (valuesMirror c rest hportable.2 hq).bind fun vs vs' hvs => ?_
    refine .ok ⟨.cons hv.1 hvs.1, ?_⟩
    rw [List.map_cons, List.map_cons, hv.2, hvs.2]
termination_by structural row => row

/-- Rows are read alike, row by row. -/
theorem rowsMirror (c : Connection) : ∀ rows : List (List ValueTerm), RowsMirror c rows
  | [] => by
    intro ofColumns _ q q' _
    exact .ok .nil
  | row :: rest => by
    intro ofColumns hportable q q' hq
    obtain ⟨⟨hvalues, htexts⟩, hrest⟩ := hportable
    refine (valuesMirror c row hvalues hq).bind fun vs vs' hvs => ?_
    refine (rowsMirror c rest ofColumns hrest hq).bind fun rows rows' hrows => ?_
    rw [← hvs.2] at htexts
    exact .ok (.cons ⟨hvs.1, htexts⟩ hrows)
termination_by structural rows => rows

/-- Pairs are read alike, pair by pair. -/
theorem pairsMirror (c : Connection) : ∀ pairs : List (String × ValueTerm), PairsMirror c pairs
  | [] => by
    intro _ q q' _
    exact .ok .nil
  | (column, value) :: rest => by
    intro hportable q q' hq
    obtain ⟨⟨hcolumn, hvalue⟩, hrest⟩ := hportable
    refine (valueMirrors c value hvalue hq).bind fun v v' hv => ?_
    refine (pairsMirror c rest hrest hq).bind fun pairs pairs' hpairs => ?_
    exact .ok (.cons ⟨rfl, hcolumn, hv.1⟩ hpairs)
termination_by structural pairs => pairs

/-- The left side of a condition, by its sort. -/
theorem columnMirrors (c : Connection) : ∀ column : ColumnTerm, ColumnMirrors c column
  | .column _ => trivial
  | .nested n => nestedMirrors c n
  | .rows rows => rowsMirror c rows
  | .pairs pairs => pairsMirror c pairs
termination_by structural column => column

/-- Candidates are read alike. -/
theorem candidatesMirror (c : Connection) :
    ∀ candidates : CandidateTerm, CandidatesMirror c candidates
  | .operands os => by
    intro hportable q q' _
    exact .ok (.operands hportable)
  | .nested n => by
    intro hportable q q' hq
    exact (nestedMirrors c n hportable hq).bind fun s s' hs => .ok (.query hs)
termination_by structural candidates => candidates

/-- The steps of a join end alike on joins in relation. -/
theorem joinStepsMirror (c : Connection) : ∀ steps : List JoinStep, JoinStepsMirror c steps
  | [] => by
    intro _ j j' hj
    exact .ok hj
  | step :: rest => by
    intro hportable j j' hj
    have hstep := joinStepMirrors c step hportable.1 hj
    exact hstep.bind fun next next' hnext => joinStepsMirror c rest hportable.2 hnext
termination_by structural steps => steps

/-- A step of a join ends alike. -/
theorem joinStepMirrors (c : Connection) : ∀ step : JoinStep, JoinStepMirrors c step
  | .on connector first operator second => by
    intro hportable j j' hj
    exact .ok (hj.on connector hportable)
  | .group connector steps => by
    intro hportable j j' hj
    exact hj.group connector fun start start' hstart => joinStepsMirror c steps hportable hstart
  | .compare connector column operator value => by
    intro hportable j j' hj
    obtain ⟨hcolumn, hoperator, hvalue⟩ := hportable
    refine (valueMirrors c value hvalue hj.inner).bind fun v v' hv => ?_
    exact hj.compare connector hcolumn hoperator hv.1
  | .isNull negated column => by
    intro hportable j j' hj
    exact .ok (hj.whereNull negated hportable)
  | .isIn column candidates => by
    intro hportable j j' hj
    obtain ⟨hcolumn, hcandidates⟩ := hportable
    refine (candidatesMirror c candidates hcandidates hj.inner).bind fun v v' hv => ?_
    exact hj.whereIn hcolumn hv
  | .join source first operator second => by
    intro hportable j j' hj
    exact .ok (hj.join hportable.1 hportable.2)
termination_by structural step => step

end

/-! ## Programs run step by step -/

/-- A program run step by step: for each step why it failed, if it did, and the query after it. A
step that fails leaves the query as it was. -/
def attempts : List Step → Query → List (Option Error × Query)
  | [], _ => []
  | step :: rest, q =>
    match runStep step q with
    | .ok next => (none, next) :: attempts rest next
    | .error why => (some why, q) :: attempts rest q

/-- After a step on two connections: both have failed for the same cause, or neither; the queries
bind the same values clause by clause; and one statement is the other with every back-tick replaced
by a double quote. -/
structure AnswersAlike (a b : Option Error × Query) : Prop where
  failure : b.1.map Error.cause = a.1.map Error.cause
  bindings : b.2.bindings = a.2.bindings
  sql : b.2.sql = respell a.2.sql

/-- Step by step the queries stay in relation. -/
theorem attemptsMirror {steps : List Step} (hportable : PortableSteps c.config steps) {q q' : Query}
    (hq : q.Mirrors c q') :
    List.Forall₂ (fun a b => b.1.map Error.cause = a.1.map Error.cause ∧ a.2.Mirrors c b.2)
      (attempts steps q) (attempts steps q') := by
  induction steps generalizing q q' with
  | nil => exact .nil
  | cons step rest ih =>
    obtain ⟨hstep, hrest⟩ := hportable
    rw [attempts, attempts]
    -- on failure both sides go on with the queries they had, which are still in relation
    match runStep step q, runStep step q',
      stepMirrors_of_partsMirror (partsMirror c step) hstep hq with
    | _, _, .ok hnext => exact .cons ⟨rfl, hnext⟩ (ih hrest hnext)
    | _, _, .error hcause => exact .cons ⟨congrArg some hcause, hq⟩ (ih hrest hq)

/-- A portable program does the same on both connections, step by step, and the statements differ in
nothing but the quotation marks. -/
theorem portable_program {steps : List Step} (hportable : PortableSteps c.config steps) :
    List.Forall₂ AnswersAlike (attempts steps (.on { c with dialect := .mysql }))
      (attempts steps (.on { c with dialect := .sqlite })) := by
  refine List.Forall₂.imp ?_ (attemptsMirror hportable (Query.Mirrors.empty c))
  rintro ⟨failure, q⟩ ⟨failure', q'⟩ ⟨hfailure, hq⟩
  exact ⟨hfailure, hq.bindings, hq.sql.eq_respell⟩

/-- A sub-query as the source, whose label is read back to tie related rows to it; a step that
fails; values with quotation marks. -/
def portableProgram : List Step :=
  [.sourceNested
      (.closure [.source (.table "orders"), .whereRaw .and "total > ?" [.text "\x60\""]]) "shop.o",
    .select [.name "o.id as key", .raw "count(*) as n"],
    .compare .and (.column (.name "state")) (some "sounds nice") (.operand (.value (.text "a"))),
    .has .and ⟨.hasMany "lines" "order_id" "id", []⟩ ">=" 2,
    .compare .or
      (.rows [[.operand (.value (.text "code")), .operand (.value (.text "LIKE")),
        .operand (.value (.text "\x60%\""))]]) none (.operand (.value .null)),
    .union true (.closure [.source (.table "archive as a")]),
    .newestFirst none]

/-- No name and no raw text of the program has marks, and its operators are shared. -/
theorem portableSteps_portableProgram : PortableSteps {} portableProgram := by
  have hsource : PortableNested {} (.closure
      [.source (.table "orders"), .whereRaw .and "total > ?" [.text "\x60\""]]) :=
    ⟨(by decide : Unmarked "orders"), (by decide : Unmarked "total > ?"), trivial⟩
  have hlabel : Unmarked "shop.o" := by decide
  have hcolumns : ∀ column ∈ [Column.name "o.id as key", .raw "count(*) as n"],
      column.Unmarked := by
    decide
  have hrefused : ∀ o ∈ some "sounds nice", SharedOperator o := by decide
  have hstate : Unmarked "state" := by decide
  have hlines : PortableRelation {} ⟨.hasMany "lines" "order_id" "id", []⟩ :=
    ⟨⟨by decide, by decide, by decide⟩, trivial⟩
  have hmany : SharedOperator ">=" := sharedOperator_of_mem (by decide)
  have htexts : PortableRowTexts false [some "code", some "LIKE", some "\x60%\""] :=
    ⟨by decide, by decide, by simp⟩
  have hrow : PortableRows {} false [[.operand (.value (.text "code")),
      .operand (.value (.text "LIKE")), .operand (.value (.text "\x60%\""))]] :=
    ⟨⟨⟨trivial, trivial, trivial, trivial⟩, htexts⟩, trivial⟩
  have harchive : Unmarked "archive as a" := by decide
  have hnewest : Unmarked "created_at" := by decide
  exact ⟨⟨hsource, hlabel⟩, hcolumns, ⟨hstate, hrefused, trivial⟩, ⟨hlines, hmany⟩,
    ⟨hrow, by simp, trivial⟩, ⟨harchive, trivial⟩, hnewest, trivial⟩

/-- One of the seven steps fails, on both connections, and the program goes on. -/
theorem portable_program_orders :
    (attempts portableProgram (.on {})).map (fun a => a.1.isSome) =
        [false, false, true, false, false, false, false] ∧
      List.Forall₂ AnswersAlike (attempts portableProgram (.on {}))
        (attempts portableProgram (.on { dialect := .sqlite })) :=
  ⟨by decide, portable_program (c := {}) portableSteps_portableProgram⟩

end QueryBuilder
