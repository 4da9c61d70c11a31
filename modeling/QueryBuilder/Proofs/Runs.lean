import QueryBuilder.Proofs.Operations

/-!
# Every run is made of edits

A relation that is closed under the edits holds between the query that a run starts on and the query
that it comes to (`EditClosed.stepsKeep`).

The syntax of programs is one family of mutually recursive sorts, since steps hold queries, values
and joins that are built by steps in turn. The work is therefore split in two: what a step does,
given that its parts do what they should, takes one case for each step and no recursion; that the
parts do so is a structural induction in which each case is a reference to another.

- `StepsKeep`, `StepKeeps`, `NestedKeeps` and their kin: what is shown of each sort of syntax.
- `PartsKeep`: the same of the immediate parts of a step.
- `EditClosed.stepKeeps_of_partsKeep`: one case for each step, without recursion.
- `EditClosed.stepsKeep`: the structural induction that puts the sorts together.
-/

namespace QueryBuilder

section Keep

variable (r : Rules) (I : Query → Query → Prop)

/-- A program keeps the relation to the query that a run started on. -/
def StepsKeep (steps : List Step) : Prop :=
  ∀ ⦃p q q' : Query⦄, I p q → r.AllowsSteps steps q → runSteps steps q = .ok q' → I p q'

/-- A step keeps the relation to the query that a run started on. -/
def StepKeeps (step : Step) : Prop :=
  ∀ ⦃p q q' : Query⦄, I p q → r.AllowsStep step q → runStep step q = .ok q' → I p q'

/-- The query for related rows is in relation to the empty query. -/
def RelationKeeps (relation : Relation) : Prop :=
  ∀ ⦃c : Connection⦄ ⦃q' : Query⦄, r.AllowsRelation relation c → runRelation relation c = .ok q' →
    I (.on c) q'

/-- A sub-query is built by the rules. -/
def NestedKeeps (n : Nested) : Prop :=
  ∀ ⦃q start : Query⦄ ⦃s : Subquery⦄, r.AllowsNested n start → runNested n q = .ok s →
    start.connection = q.connection → s.Written r I start

/-- A value is built by the rules. -/
def ValueKeeps (value : ValueTerm) : Prop :=
  ∀ ⦃q start : Query⦄ ⦃c : Comparand⦄, r.AllowsValue value start → runValue value q = .ok c →
    start.connection = q.connection → c.Written r I start

/-- The candidates of a condition are built by the rules. -/
def CandidatesKeep (candidates : CandidateTerm) : Prop :=
  ∀ ⦃q start : Query⦄ ⦃c : Candidates⦄, r.AllowsCandidates candidates start →
    runCandidates candidates q = .ok c → start.connection = q.connection → c.Written r I start

/-- The elements of a row are built by the rules, each on its own. -/
def ValuesKeep (row : List ValueTerm) : Prop :=
  ∀ value ∈ row, ValueKeeps r I value

/-- The steps of a join keep what a join is while it is built. -/
def JoinStepsKeep (steps : List JoinStep) : Prop :=
  ∀ ⦃c : Connection⦄ ⦃source : Source⦄ ⦃j j' : JoinDraft⦄, j.Grown I c source →
    r.AllowsJoinSteps steps c → runJoinSteps steps j = .ok j' → j'.Grown I c source

/-- A step of a join keeps what a join is while it is built. -/
def JoinStepKeeps (step : JoinStep) : Prop :=
  ∀ ⦃c : Connection⦄ ⦃source : Source⦄ ⦃j j' : JoinDraft⦄, j.Grown I c source →
    r.AllowsJoinStep step c → runJoinStep step j = .ok j' → j'.Grown I c source

/-- The left side of a condition is built by the rules. -/
def ColumnKeeps : ColumnTerm → Prop
  | .column _ => True
  | .nested n => NestedKeeps r I n
  | .rows rows => ∀ row ∈ rows, ValuesKeep r I row
  | .pairs pairs => ∀ pair ∈ pairs, ValueKeeps r I pair.2

/-- The programs, sub-queries and relations that a step holds are built by the rules. -/
def PartsKeep : Step → Prop
  | .selectNested n _ => NestedKeeps r I n
  | .sourceNested n _ => NestedKeeps r I n
  | .joinWith _ _ steps => JoinStepsKeep r I steps
  | .joinWhere _ _ _ _ value => ValueKeeps r I value
  | .joinNested n _ _ _ _ _ => NestedKeeps r I n
  | .orderByNested n _ => NestedKeeps r I n
  | .union _ n => NestedKeeps r I n
  | .provided _ steps => StepsKeep r I steps
  | .compare _ column _ value => ColumnKeeps r I column ∧ ValueKeeps r I value
  | .group _ steps => StepsKeep r I steps
  | .groupOf _ _ steps => StepsKeep r I steps
  | .columnRows rows => ∀ row ∈ rows, ValuesKeep r I row
  | .isIn _ _ _ candidates => CandidatesKeep r I candidates
  | .exists _ _ n => NestedKeeps r I n
  | .relationAggregate _ relation _ _ => RelationKeeps r I relation
  | .relationCount _ relation => RelationKeeps r I relation
  | .has _ relation _ _ => RelationKeeps r I relation
  | .lacks _ relation => RelationKeeps r I relation
  | .hasNot relation _ _ => RelationKeeps r I relation
  | _ => True

end Keep

variable {r : Rules} {I : Query → Query → Prop}

/-- Of a relation the rules judge its link and its scope. -/
theorem Rules.AllowsRelation.link {relation : Relation} {c : Connection}
    (h : r.AllowsRelation relation c) : r.AllowsLink relation.link := by
  cases relation
  exact h.1

/-! ## Rows and pairs -/

/-- A term is null exactly if its value is; a sub-query never is. -/
theorem isNull_of_runValue {value : ValueTerm} {q : Query} {c : Comparand}
    (h : runValue value q = .ok c) : c.isNull = value.isNull := by
  cases value with
  | operand o => exact Except.ok.inj h ▸ rfl
  | nested n =>
    obtain ⟨s, _, h⟩ := bind_eq_ok.mp h
    exact Except.ok.inj h ▸ rfl

/-- The elements of a row are written, each for the query that the row starts on. -/
theorem ValuesKeep.written {start : Query} : ∀ {row : List ValueTerm} {q : Query}
    {cs : List Comparand}, ValuesKeep r I row → r.AllowsValues row start → runRow row q = .ok cs →
      start.connection = q.connection → ∀ c ∈ cs, c.Written r I start
  | [], _, _, _, _, hrun, _ => by
    rw [← Except.ok.inj hrun]
    simp
  | value :: rest, _, _, hrow, hallows, hrun, hconnection => by
    obtain ⟨c, hc, hrun⟩ := bind_eq_ok.mp hrun
    obtain ⟨cs, hcs, hrun⟩ := bind_eq_ok.mp hrun
    rw [← Except.ok.inj hrun, List.forall_mem_cons]
    have hvalue := hrow value List.mem_cons_self
    have hrest : ValuesKeep r I rest := fun e he => hrow e (List.mem_cons_of_mem value he)
    exact ⟨hvalue hallows.1 hc hconnection, hrest.written hallows.2 hcs hconnection⟩

/-- A row is written as a whole, for a single element is judged on another query than the elements
of a longer row. -/
theorem ValuesKeep.rowWritten {row : List ValueTerm} {q : Query} {cs : List Comparand}
    (hrow : ValuesKeep r I row) (hallows : r.AllowsRow row q) (hrun : runRow row q = .ok cs) :
    RowWritten r I q cs := by
  -- by length: none, one or more
  match row, hrow, hallows with
  | [], _, _ => exact Except.ok.inj hrun ▸ trivial
  | [value], hrow, hallows =>
    obtain ⟨c, hc, hrun⟩ := bind_eq_ok.mp hrun
    obtain ⟨cs, hcs, hrun⟩ := bind_eq_ok.mp hrun
    rw [← Except.ok.inj hcs] at hrun
    exact Except.ok.inj hrun ▸ hrow value List.mem_cons_self hallows hc rfl
  | value :: other :: rest, hrow, hallows =>
    -- the elements are written whatever their number; that there are two has to be shown to the
    -- goal
    have hall := hrow.written hallows hrun rfl
    obtain ⟨c, hc, hrun⟩ := bind_eq_ok.mp hrun
    obtain ⟨cs, hcs, hrun⟩ := bind_eq_ok.mp hrun
    obtain ⟨c', hc', hcs⟩ := bind_eq_ok.mp hcs
    obtain ⟨cs', hcs', hcs⟩ := bind_eq_ok.mp hcs
    rw [← Except.ok.inj hrun, ← Except.ok.inj hcs] at hall ⊢
    exact hall

/-- Every row is written. -/
theorem rowsWritten {q : Query} : ∀ {rows : List (List ValueTerm)} {css : List (List Comparand)},
    (∀ row ∈ rows, ValuesKeep r I row) → r.AllowsRows rows q → runRows rows q = .ok css →
      ∀ cs ∈ css, RowWritten r I q cs
  | [], _, _, _, hrun => by
    rw [← Except.ok.inj hrun]
    simp
  | row :: rest, _, hrows, hallows, hrun => by
    obtain ⟨cs, hcs, hrun⟩ := bind_eq_ok.mp hrun
    obtain ⟨css, hcss, hrun⟩ := bind_eq_ok.mp hrun
    rw [← Except.ok.inj hrun, List.forall_mem_cons]
    rw [List.forall_mem_cons] at hrows
    exact ⟨hrows.1.rowWritten hallows.1 hcs, rowsWritten hrows.2 hallows.2 hcss⟩

/-- Every value of a pair is written. -/
theorem pairsWritten {q start : Query} : ∀ {pairs : List (String × ValueTerm)}
    {cs : List (String × Comparand)}, (∀ pair ∈ pairs, ValueKeeps r I pair.2) →
      r.AllowsPairs pairs start → runPairs pairs q = .ok cs → start.connection = q.connection →
        ∀ c ∈ cs, c.2.Written r I start
  | [], _, _, _, hrun, _ => by
    rw [← Except.ok.inj hrun]
    simp
  | (_, _) :: rest, _, hpairs, hallows, hrun, hconnection => by
    obtain ⟨c, hc, hrun⟩ := bind_eq_ok.mp hrun
    obtain ⟨cs, hcs, hrun⟩ := bind_eq_ok.mp hrun
    rw [← Except.ok.inj hrun, List.forall_mem_cons]
    rw [List.forall_mem_cons] at hpairs
    exact ⟨hpairs.1 hallows.1 hc hconnection, pairsWritten hpairs.2 hallows.2 hcs hconnection⟩

namespace EditClosed

/-! ## One step -/

/-- A comparison of any shape adds a condition. -/
theorem addsCondition_of_compare (h : EditClosed r I) {connector : Connector} {column : ColumnTerm}
    {operator : Option String} {value : ValueTerm} {q q' : Query} (hcolumn : ColumnKeeps r I column)
    (hvalue : ValueKeeps r I value)
    (hallows : r.AllowsStep (.compare connector column operator value) q)
    (hrun : runStep (.compare connector column operator value) q = .ok q') :
    q.AddsCondition r I q' := by
  cases column with
  | column c =>
    obtain ⟨v, hv, hrun⟩ := bind_eq_ok.mp hrun
    have hwritten := hvalue hallows.2 hv rfl
    exact Query.addsCondition_compare (.column c) operator hallows.1 hwritten hrun
  | nested n =>
    obtain ⟨s, hs, hrun⟩ := bind_eq_ok.mp hrun
    obtain ⟨v, hv, hrun⟩ := bind_eq_ok.mp hrun
    have hwritten := hvalue hallows.2 hv rfl
    -- the rules judge by the term what the operation judges by its value
    have hsubject : s.Written r I
        (if operator.isNone && v.isNull then q.freshOnSource else q.fresh) := by
      rw [isNull_of_runValue hv]
      refine hcolumn hallows.1 hs ?_
      split <;> rfl
    exact Query.addsCondition_compare (.query s) operator hsubject hwritten hrun
  | rows rows =>
    obtain ⟨css, hcss, hrun⟩ := bind_eq_ok.mp hrun
    obtain ⟨_, _, hrun⟩ := bind_eq_ok.mp hrun
    have hwritten := rowsWritten hcolumn hallows hcss
    exact h.addsCondition_addRows Query.readingAdds_compareRow hwritten hrun
  | pairs pairs =>
    obtain ⟨cs, hcs, hrun⟩ := bind_eq_ok.mp hrun
    obtain ⟨_, _, hrun⟩ := bind_eq_ok.mp hrun
    have hwritten := pairsWritten hcolumn hallows hcs rfl
    exact h.addsCondition_wherePairs hwritten hrun

/-- One case for each step. What the step holds enters through `hparts` only, so there is no
recursion here. -/
theorem stepKeeps_of_partsKeep (h : EditClosed r I) {step : Step} (hparts : PartsKeep r I step) :
    StepKeeps r I step := by
  intro p q q' hq hallows hrun
  -- every operation adds a condition, a join or another member, and these are edits
  cases step with
  | unreadable why => exact nomatch hrun
  | select columns =>
    exact Except.ok.inj hrun ▸ h.select hq fun c hc => writtenColumn_of_allows (hallows c hc)
  | addSelect columns =>
    exact Except.ok.inj hrun ▸ h.columns hq fun c hc => writtenColumn_of_allows (hallows c hc)
  | selectRaw sql values => exact Except.ok.inj hrun ▸ h.column hq (.raw hallows)
  | selectNested n label =>
    obtain ⟨s, hs, hrun⟩ := bind_eq_ok.mp hrun
    exact h.selectSub hq (hparts hallows hs rfl) hrun
  | distinct => exact Except.ok.inj hrun ▸ h.distinct hq
  | source source =>
    exact Except.ok.inj hrun ▸ h.fromSource hq (writtenSource_of_allows hallows.1) hallows.2
  | sourceAs table label => exact Except.ok.inj hrun ▸ h.fromSource hq (.table _) hallows
  | sourceRaw sql values => exact Except.ok.inj hrun ▸ h.source hq (.raw hallows.1) hallows.2
  | sourceNested n label =>
    obtain ⟨s, hs, hrun⟩ := bind_eq_ok.mp hrun
    exact h.fromSub hq (hparts hallows.1 hs rfl) hallows.2 hrun
  | join kind source first operator second =>
    have hstart := JoinDraft.Grown.start h q kind source
    exact Except.ok.inj hrun ▸ h.addUnboundJoin hq hallows.1 (hstart.on h hallows.2)
  | crossJoin source =>
    have hgrown := JoinDraft.Grown.start h q .cross source
    exact Except.ok.inj hrun ▸ h.addUnboundJoin hq hallows hgrown
  | joinWith source kind steps =>
    obtain ⟨j, hj, hrun⟩ := bind_eq_ok.mp hrun
    have hgrown := hparts (JoinDraft.Grown.start h q kind source) hallows.2 hj
    exact Except.ok.inj hrun ▸ h.addUnboundJoin hq hallows.1 hgrown
  | joinWhere kind source first operator value =>
    obtain ⟨c, hc, hrun⟩ := bind_eq_ok.mp hrun
    obtain ⟨j, hj, hrun⟩ := bind_eq_ok.mp hrun
    have hvalue := hparts hallows.2 hc rfl
    have hgrown := (JoinDraft.Grown.start h q kind source).compare h hvalue hj
    exact Except.ok.inj hrun ▸ h.addUnboundJoin hq hallows.1 hgrown
  | joinNested n label kind first operator second =>
    obtain ⟨s, hs, hrun⟩ := bind_eq_ok.mp hrun
    exact h.joinSub hq (hparts hallows.1 hs rfl) hallows.2 hrun
  | groupBy columns =>
    exact Except.ok.inj hrun ▸ h.groups hq fun c hc => writtenColumn_of_allows (hallows c hc)
  | groupByRaw sql values => exact Except.ok.inj hrun ▸ h.group hq (.raw hallows)
  | orderBy column direction =>
    exact Except.ok.inj hrun ▸ h.orderBy hq (writtenColumn_of_allows hallows) direction
  | orderByNested n direction =>
    obtain ⟨s, hs, hrun⟩ := bind_eq_ok.mp hrun
    exact h.orderBySub hq (hparts hallows hs rfl) hrun
  | orderByRaw sql values => exact Except.ok.inj hrun ▸ h.order hq (.raw hallows)
  | newestFirst column => exact Except.ok.inj hrun ▸ h.orderBy hq (.name _) .descending
  | oldestFirst column => exact Except.ok.inj hrun ▸ h.orderBy hq (.name _) .ascending
  | randomOrder seed => exact Except.ok.inj hrun ▸ h.order hq (.random q.dialect hallows)
  | reorder => exact Except.ok.inj hrun ▸ h.reorder hq
  | reorderBy column direction =>
    exact Except.ok.inj hrun ▸ h.orderBy (h.reorder hq) (writtenColumn_of_allows hallows) direction
  | limit count => exact Except.ok.inj hrun ▸ h.limit count hq
  | offset count => exact Except.ok.inj hrun ▸ h.offset count hq
  | page number size =>
    exact Except.ok.inj hrun ▸ h.limit size (h.offset (pageStart number size) hq)
  | pageAfter size last column => exact h.cursorPage hq hrun
  | pageBefore size last column => exact h.cursorPage hq hrun
  | union all n =>
    obtain ⟨s, hs, hrun⟩ := bind_eq_ok.mp hrun
    exact h.unionSub hq (hparts hallows hs rfl) hrun
  | provided condition steps =>
    cases condition with
    | false => exact Except.ok.inj hrun ▸ hq
    | true => exact hparts hq (hallows rfl) hrun
  | withRelation name relation => exact Except.ok.inj hrun ▸ h.loads _ hq
  | withoutRelation name => exact Except.ok.inj hrun ▸ h.loads _ hq
  | addBinding value clause => exact Except.ok.inj hrun ▸ h.values _ hallows hq
  | mergeBindings dialect steps =>
    obtain ⟨other, _, hrun⟩ := bind_eq_ok.mp hrun
    exact Except.ok.inj hrun ▸ h.values _ hallows hq
  | without parts => exact Except.ok.inj hrun ▸ h.drops hallows hq parts
  | withoutBindings clauses => exact Except.ok.inj hrun ▸ h.values _ hallows hq
  | fresh => exact Except.ok.inj hrun ▸ h.fresh hq
  | compare connector column operator value =>
    exact h.adds hq (h.addsCondition_of_compare hparts.1 hparts.2 hallows hrun)
  | group connector steps =>
    have hbuild : ∀ nested, runSteps steps q.freshOnSource = .ok nested →
        I q.freshOnSource nested := fun _ hnested => hparts (h.refl _) hallows hnested
    exact h.adds hq (Query.addsCondition_group hbuild hrun)
  | groupOf connector dialect steps =>
    obtain ⟨nested, hnested, hrun⟩ := bind_eq_ok.mp hrun
    have hgroup := hparts (h.refl _) hallows hnested
    exact Except.ok.inj hrun ▸ h.adds hq (Query.addsCondition_addGroup none hgroup)
  | compareColumns connector first operator second =>
    exact h.adds hq (Query.addsCondition_compareColumns hallows.1 hallows.2 hrun)
  | columnRows rows =>
    obtain ⟨css, hcss, hrun⟩ := bind_eq_ok.mp hrun
    have hwritten := rowsWritten hparts hallows hcss
    exact h.adds hq (h.addsCondition_addRows Query.readingAdds_compareColumnRow hwritten hrun)
  | isNull connector negated column =>
    exact Except.ok.inj hrun ▸ h.adds hq (Query.addsCondition_whereNull hallows)
  | whereRaw connector sql values =>
    exact Except.ok.inj hrun ▸ h.condition connector hq (.raw hallows)
  | isIn connector negated column candidates =>
    obtain ⟨c, hc, hrun⟩ := bind_eq_ok.mp hrun
    have hwritten := hparts hallows.2 hc rfl
    exact h.adds hq (Query.addsCondition_whereIn hallows.1 hwritten hrun)
  | between connector negated column low high =>
    obtain ⟨hcolumn, hlow, hhigh⟩ := hallows
    exact Except.ok.inj hrun ▸ h.adds hq (Query.addsCondition_whereBetween hcolumn hlow hhigh)
  | betweenColumns negated column low high =>
    obtain ⟨hcolumn, hlow, hhigh⟩ := hallows
    exact Except.ok.inj hrun ▸ h.adds hq
      (Query.addsCondition_whereBetweenColumns hcolumn hlow hhigh)
  | datePart connector part column operator value =>
    exact h.adds hq (Query.addsCondition_whereDatePart hallows.1 hallows.2 hrun)
  | «exists» connector negated n =>
    obtain ⟨s, hs, hrun⟩ := bind_eq_ok.mp hrun
    exact h.adds hq (Query.addsCondition_whereExists (hparts hallows hs rfl) hrun)
  | having connector column operator value =>
    obtain ⟨o, ho, hrun⟩ := bind_eq_ok.mp hrun
    have hknows := Query.knows_of_checkedOperator ho
    exact Except.ok.inj hrun ▸
      h.having connector hq (.compare (writtenColumn_of_allows hallows.1) hknows hallows.2)
  | havingRaw connector sql values =>
    exact Except.ok.inj hrun ▸ h.having connector hq (.raw hallows)
  | havingNull negated column =>
    exact Except.ok.inj hrun ▸
      h.unboundHaving hq .and (.isNull negated (writtenColumn_of_allows hallows))
  | havingBetween column low high =>
    obtain ⟨hcolumn, hlow, hhigh⟩ := hallows
    exact Except.ok.inj hrun ▸
      h.having .and hq (.between false (writtenColumn_of_allows hcolumn) hlow hhigh)
  | relationAggregate name relation function column =>
    exact h.relationAggregate hq hallows.2.link (fun _ hsub => ⟨_, hparts hallows.2 hsub⟩)
      (.inl hallows.1) hrun
  | relationCount name relation =>
    exact h.relationAggregate hq hallows.link (fun _ hsub => ⟨_, hparts hallows hsub⟩)
      (.inr rfl) hrun
  | has connector relation operator count =>
    exact h.adds hq
      (h.addsCondition_has hallows.link (fun _ hsub => ⟨_, hparts hallows hsub⟩) hrun)
  | lacks connector relation =>
    exact h.adds hq
      (h.addsCondition_has hallows.link (fun _ hsub => ⟨_, hparts hallows hsub⟩) hrun)
  | hasNot relation operator count =>
    exact h.adds hq
      (h.addsCondition_hasNot hallows.link (fun _ hsub => ⟨_, hparts hallows hsub⟩) hrun)

/-! ## The sorts put together -/

mutual

/-- A run keeps the relation to the query it started on. -/
theorem stepsKeep (h : EditClosed r I) : ∀ steps : List Step, StepsKeep r I steps
  | [] => by
    intro p q q' hq _ hrun
    exact Except.ok.inj hrun ▸ hq
  | step :: rest => by
    intro p q q' hq hallows hrun
    obtain ⟨next, hnext, hrest⟩ := bind_eq_ok.mp hrun
    have hstep := stepKeeps_of_partsKeep h (h.partsKeep step) hq hallows.1 hnext
    exact h.stepsKeep rest hstep (hallows.2 next hnext) hrest
termination_by structural steps => steps

/-- What a step holds, each part by the statement for its own sort. -/
theorem partsKeep (h : EditClosed r I) (step : Step) : PartsKeep r I step := by
  cases step with
  | selectNested n label => exact h.nestedKeeps n
  | sourceNested n label => exact h.nestedKeeps n
  | joinWith source kind steps => exact h.joinStepsKeep steps
  | joinWhere kind source first operator value => exact h.valueKeeps value
  | joinNested n label kind first operator second => exact h.nestedKeeps n
  | orderByNested n direction => exact h.nestedKeeps n
  | union all n => exact h.nestedKeeps n
  | provided condition steps => exact h.stepsKeep steps
  | compare connector column operator value => exact ⟨h.columnKeeps column, h.valueKeeps value⟩
  | group connector steps => exact h.stepsKeep steps
  | groupOf connector dialect steps => exact h.stepsKeep steps
  | columnRows rows => exact h.rowsKeep rows
  | isIn connector negated column candidates => exact h.candidatesKeep candidates
  | «exists» connector negated n => exact h.nestedKeeps n
  | relationAggregate name relation function column => exact h.relationKeeps relation
  | relationCount name relation => exact h.relationKeeps relation
  | has connector relation operator count => exact h.relationKeeps relation
  | lacks connector relation => exact h.relationKeeps relation
  | hasNot relation operator count => exact h.relationKeeps relation
  | _ => trivial
termination_by structural step

/-- The query for related rows is a run that starts on the related table. -/
theorem relationKeeps (h : EditClosed r I) : ∀ relation : Relation, RelationKeeps r I relation
  | ⟨link, scope⟩ => by
    intro c q' hallows hrun
    exact h.stepsKeep scope (h.table c link.table) hallows.2 hrun
termination_by structural relation => relation

/-- A sub-query is a program on a query of its own, or a raw text. -/
theorem nestedKeeps (h : EditClosed r I) : ∀ n : Nested, NestedKeeps r I n
  | .closure steps => by
    -- a closure is judged on the query that it is handed, whichever that is
    intro q start s hallows hrun _
    have hbuild : ∀ sub, runSteps steps start = .ok sub → I start sub :=
      fun _ hsub => h.stepsKeep steps (h.refl start) hallows hsub
    exact Except.ok.inj hrun ▸ hbuild
  | .built dialect steps => by
    intro q start s hallows hrun hconnection
    obtain ⟨sub, hsub, hrun⟩ := bind_eq_ok.mp hrun
    rw [← hconnection] at hsub
    have hbuilt := h.stepsKeep steps (h.refl _) hallows hsub
    exact Except.ok.inj hrun ▸ Subquery.written_query hbuilt
  | .sql text => by
    intro q start s hallows hrun _
    exact Except.ok.inj hrun ▸ hallows
termination_by structural n => n

/-- A value, or a sub-query in its place. -/
theorem valueKeeps (h : EditClosed r I) : ∀ value : ValueTerm, ValueKeeps r I value
  | .operand o => by
    intro q start c hallows hrun _
    exact Except.ok.inj hrun ▸ hallows
  | .nested n => by
    intro q start c hallows hrun hconnection
    obtain ⟨s, hs, hrun⟩ := bind_eq_ok.mp hrun
    exact Except.ok.inj hrun ▸ h.nestedKeeps n hallows hs hconnection
termination_by structural value => value

/-- Candidates, or a sub-query in their place. -/
theorem candidatesKeep (h : EditClosed r I) :
    ∀ candidates : CandidateTerm, CandidatesKeep r I candidates
  | .operands os => by
    intro q start c hallows hrun _
    exact Except.ok.inj hrun ▸ hallows
  | .nested n => by
    intro q start c hallows hrun hconnection
    obtain ⟨s, hs, hrun⟩ := bind_eq_ok.mp hrun
    exact Except.ok.inj hrun ▸ h.nestedKeeps n hallows hs hconnection
termination_by structural candidates => candidates

theorem valuesKeep (h : EditClosed r I) : ∀ row : List ValueTerm, ValuesKeep r I row
  | [] => by
    intro value hvalue
    cases hvalue
  | value :: rest => by
    have hvalue := h.valueKeeps value
    have hrest := h.valuesKeep rest
    exact List.forall_mem_cons.mpr ⟨hvalue, hrest⟩
termination_by structural row => row

/-- Rows, row by row. -/
theorem rowsKeep (h : EditClosed r I) :
    ∀ rows : List (List ValueTerm), ∀ row ∈ rows, ValuesKeep r I row
  | [] => by
    intro row hrow
    cases hrow
  | row :: rest => by
    have hrow := h.valuesKeep row
    have hrest := h.rowsKeep rest
    exact List.forall_mem_cons.mpr ⟨hrow, hrest⟩
termination_by structural rows => rows

/-- Pairs, pair by pair. -/
theorem pairsKeep (h : EditClosed r I) :
    ∀ pairs : List (String × ValueTerm), ∀ pair ∈ pairs, ValueKeeps r I pair.2
  | [] => by
    intro pair hpair
    cases hpair
  | (_, value) :: rest => by
    have hvalue := h.valueKeeps value
    have hrest := h.pairsKeep rest
    exact List.forall_mem_cons.mpr ⟨hvalue, hrest⟩
termination_by structural pairs => pairs

/-- The left side of a condition, by its sort. -/
theorem columnKeeps (h : EditClosed r I) : ∀ column : ColumnTerm, ColumnKeeps r I column
  | .column _ => trivial
  | .nested n => h.nestedKeeps n
  | .rows rows => h.rowsKeep rows
  | .pairs pairs => h.pairsKeep pairs
termination_by structural column => column

/-- A run of the steps of a join keeps what a join is while it is built. -/
theorem joinStepsKeep (h : EditClosed r I) : ∀ steps : List JoinStep, JoinStepsKeep r I steps
  | [] => by
    intro c source j j' hj _ hrun
    exact Except.ok.inj hrun ▸ hj
  | step :: rest => by
    intro c source j j' hj hallows hrun
    obtain ⟨next, hnext, hrest⟩ := bind_eq_ok.mp hrun
    have hstep := h.joinStepKeeps step hj hallows.1 hnext
    exact h.joinStepsKeep rest hstep hallows.2 hrest
termination_by structural steps => steps

/-- A step of a join, on a draft that has grown so far. -/
theorem joinStepKeeps (h : EditClosed r I) : ∀ step : JoinStep, JoinStepKeeps r I step
  | .on connector first operator second => by
    intro c source j j' hj hallows hrun
    exact Except.ok.inj hrun ▸ hj.on h hallows
  | .group connector steps => by
    intro c source j j' hj hallows hrun
    refine hj.group h ?_ hrun
    intro start nested hstart hnested
    exact h.joinStepsKeep steps hstart hallows hnested
  | .compare connector column operator value => by
    intro c source j j' hj hallows hrun
    obtain ⟨v, hv, hrun⟩ := bind_eq_ok.mp hrun
    have hwritten := h.valueKeeps value hallows hv hj.onConnection.symm
    exact hj.compare h hwritten hrun
  | .isNull negated column => by
    intro c source j j' hj _ hrun
    exact Except.ok.inj hrun ▸ hj.whereNull h negated column
  | .isIn column candidates => by
    intro c source j j' hj hallows hrun
    obtain ⟨v, hv, hrun⟩ := bind_eq_ok.mp hrun
    have hwritten := h.candidatesKeep candidates hallows hv hj.onConnection.symm
    exact hj.whereIn h hwritten hrun
  | .join inner first operator second => by
    intro c source j j' hj hallows hrun
    exact Except.ok.inj hrun ▸ hj.join h hallows.1 hallows.2
termination_by structural step => step

end

end EditClosed

end QueryBuilder
