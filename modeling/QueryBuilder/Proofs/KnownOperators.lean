import QueryBuilder.Proofs.CheckedOperators
import QueryBuilder.Proofs.Operators

/-!
# Programs and the operators they give

A program that stays on one dialect stores no operators but those that the dialect knows, letter for
letter, and those that it gives to the comparisons of two columns that joins are made on. A step
that is given an operator for any other comparison fails if the dialect does not know it.

Both halves are needed. The first is an invariant of runs, by induction over the program; it says
nothing about a step that is given an unknown operator and drops it. The second says that there is
no such step: it fails and leaves no query behind.

- `KeepingSteps` and its kin: a program whose queries are all built on a dialect, and what it gives
  to joins. Of a sub-query that is embedded as a text nothing is asked.
- `stepsSound`: its runs lead from sound queries to sound ones.
- `stored_operators_known`: what a run stores is known, and no step takes an operator for a
  comparison that is not. `unknown_join_operator` is a join on a text that is no operator.
-/

namespace QueryBuilder

/-! ## Programs on one dialect -/

section Keeping

variable (d : Dialect) (given : String → Prop)

mutual

/-- A program keeps to the dialect. -/
def KeepingSteps : List Step → Prop
  | [] => True
  | step :: rest => KeepingStep step ∧ KeepingSteps rest

/-- A step keeps to the dialect. -/
def KeepingStep : Step → Prop
  | .join _ _ _ operator _ => given operator
  | .joinWith _ _ steps => KeepingJoinSteps steps
  | .joinWhere _ _ _ _ value => KeepingValue value
  | .joinNested _ _ _ _ operator _ => given operator
  | .union _ n => KeepingNested n
  | .provided condition steps => condition = true → KeepingSteps steps
  | .compare _ column _ value => KeepingColumn column ∧ KeepingValue value
  | .group _ steps => KeepingSteps steps
  | .groupOf _ dialect steps => (∀ e ∈ dialect, e = d) ∧ KeepingSteps steps
  | .columnRows rows => KeepingRows rows
  | .exists _ _ n => KeepingNested n
  | .has _ relation _ _ => KeepingRelation relation
  | .lacks _ relation => KeepingRelation relation
  | .hasNot relation _ _ => KeepingRelation relation
  | _ => True

/-- A relation keeps to the dialect. -/
def KeepingRelation : Relation → Prop
  | ⟨_, scope⟩ => KeepingSteps scope

/-- A sub-query keeps to the dialect. -/
def KeepingNested : Nested → Prop
  | .closure steps => KeepingSteps steps
  | .built dialect steps => (∀ e ∈ dialect, e = d) ∧ KeepingSteps steps
  | .sql _ => True

/-- The left side of a condition keeps to the dialect. -/
def KeepingColumn : ColumnTerm → Prop
  | .column _ => True
  | .nested n => KeepingNested n
  | .rows rows => KeepingRows rows
  | .pairs pairs => KeepingPairs pairs

/-- The value side of a condition keeps to the dialect. -/
def KeepingValue : ValueTerm → Prop
  | .operand _ => True
  | .nested n => KeepingNested n

/-- The elements of a condition row keep to the dialect. -/
def KeepingValues : List ValueTerm → Prop
  | [] => True
  | value :: rest => KeepingValue value ∧ KeepingValues rest

/-- Condition rows keep to the dialect. -/
def KeepingRows : List (List ValueTerm) → Prop
  | [] => True
  | row :: rest => KeepingValues row ∧ KeepingRows rest

/-- The values of some columns keep to the dialect. -/
def KeepingPairs : List (String × ValueTerm) → Prop
  | [] => True
  | (_, value) :: rest => KeepingValue value ∧ KeepingPairs rest

/-- The steps of a join keep to the dialect. -/
def KeepingJoinSteps : List JoinStep → Prop
  | [] => True
  | step :: rest => KeepingJoinStep step ∧ KeepingJoinSteps rest

/-- A step of a join keeps to the dialect. -/
def KeepingJoinStep : JoinStep → Prop
  | .on _ _ operator _ => given operator
  | .group _ steps => KeepingJoinSteps steps
  | .compare _ _ _ value => KeepingValue value
  | .isNull _ _ => True
  | .isIn _ _ => True
  | .join _ _ operator _ => given operator

end

/-! ## What is shown of each sort of syntax -/

/-- A program leads from sound queries to sound ones. -/
def StepsSound (steps : List Step) : Prop :=
  ∀ ⦃q q' : Query⦄, KeepingSteps d given steps → q.Sound d given → runSteps steps q = .ok q' →
    q'.Sound d given

/-- A sub-query is sound. -/
def NestedSound (n : Nested) : Prop :=
  ∀ ⦃q : Query⦄ ⦃s : Subquery⦄, KeepingNested d given n → q.dialect = d → runNested n q = .ok s →
    s.Sound d given

/-- A value is sound. -/
def ValueSound (value : ValueTerm) : Prop :=
  ∀ ⦃q : Query⦄ ⦃c : Comparand⦄, KeepingValue d given value → q.dialect = d →
    runValue value q = .ok c → c.Sound d given

/-- The elements of a row are sound. -/
def ValuesSound (row : List ValueTerm) : Prop :=
  ∀ ⦃q : Query⦄ ⦃cs : List Comparand⦄, KeepingValues d given row → q.dialect = d →
    runRow row q = .ok cs → ∀ c ∈ cs, c.Sound d given

/-- Condition rows are sound. -/
def RowsSound (rows : List (List ValueTerm)) : Prop :=
  ∀ ⦃q : Query⦄ ⦃css : List (List Comparand)⦄, KeepingRows d given rows → q.dialect = d →
    runRows rows q = .ok css → ∀ cs ∈ css, ∀ c ∈ cs, c.Sound d given

/-- The values of some columns are sound. -/
def PairsSound (pairs : List (String × ValueTerm)) : Prop :=
  ∀ ⦃q : Query⦄ ⦃cs : List (String × Comparand)⦄, KeepingPairs d given pairs → q.dialect = d →
    runPairs pairs q = .ok cs → ∀ c ∈ cs, c.2.Sound d given

/-- The left side of a condition is sound. -/
def ColumnSound : ColumnTerm → Prop
  | .column _ => True
  | .nested n => NestedSound d given n
  | .rows rows => RowsSound d given rows
  | .pairs pairs => PairsSound d given pairs

/-- The query for related rows is sound. -/
def RelationSound (relation : Relation) : Prop :=
  ∀ ⦃c : Connection⦄ ⦃q : Query⦄, KeepingRelation d given relation → c.dialect = d →
    runRelation relation c = .ok q → q.Sound d given

/-- The steps of a join keep it sound. -/
def JoinStepsSound (steps : List JoinStep) : Prop :=
  ∀ ⦃j j' : JoinDraft⦄, KeepingJoinSteps d given steps → j.Sound d given →
    runJoinSteps steps j = .ok j' → j'.Sound d given

/-- The programs, sub-queries and relations that a step keeps as trees are sound. -/
def PartsSound : Step → Prop
  | .joinWith _ _ steps => JoinStepsSound d given steps
  | .joinWhere _ _ _ _ value => ValueSound d given value
  | .union _ n => NestedSound d given n
  | .provided _ steps => StepsSound d given steps
  | .compare _ column _ value => ColumnSound d given column ∧ ValueSound d given value
  | .group _ steps => StepsSound d given steps
  | .groupOf _ _ steps => StepsSound d given steps
  | .columnRows rows => RowsSound d given rows
  | .exists _ _ n => NestedSound d given n
  | .has _ relation _ _ => RelationSound d given relation
  | .lacks _ relation => RelationSound d given relation
  | .hasNot relation _ _ => RelationSound d given relation
  | _ => True

end Keeping

variable {d : Dialect} {given : String → Prop}

/-! ## One step -/

/-- A query that is built apart stays on the dialect if it names no other. -/
theorem dialect_separateConnection {c : Connection} (hc : c.dialect = d) {dialect : Option Dialect}
    (h : ∀ e ∈ dialect, e = d) : (separateConnection c dialect).dialect = d := by
  cases dialect with
  | none => exact hc
  | some e => exact h e rfl

/-- A comparison, one case for each sort of term that may stand on its left. -/
theorem sound_of_compare {connector : Connector} {column : ColumnTerm} {operator : Option String}
    {value : ValueTerm} (hparts : PartsSound d given (.compare connector column operator value))
    (hkeeping : KeepingStep d given (.compare connector column operator value)) {q q' : Query}
    (hq : q.Sound d given) (hrun : runStep (.compare connector column operator value) q = .ok q') :
    q'.Sound d given := by
  obtain ⟨hcolumn, hvalue⟩ := hparts
  cases column with
  | column c =>
    obtain ⟨v, hv, hrun⟩ := bind_eq_ok.mp hrun
    have hsubject : (Subject.column c).Sound d given := trivial
    exact hq.compare hsubject (hvalue hkeeping.2 hq.dialect hv) hrun
  | nested n =>
    obtain ⟨s, hs, hrun⟩ := bind_eq_ok.mp hrun
    obtain ⟨v, hv, hrun⟩ := bind_eq_ok.mp hrun
    have hsubject : (Subject.query s).Sound d given := hcolumn hkeeping.1 hq.dialect hs
    exact hq.compare hsubject (hvalue hkeeping.2 hq.dialect hv) hrun
  | rows rows =>
    obtain ⟨css, hcss, hrun⟩ := bind_eq_ok.mp hrun
    obtain ⟨_, _, hrun⟩ := bind_eq_ok.mp hrun
    exact hq.whereRows (hcolumn hkeeping.1 hq.dialect hcss) hrun
  | pairs pairs =>
    obtain ⟨cs, hcs, hrun⟩ := bind_eq_ok.mp hrun
    obtain ⟨_, _, hrun⟩ := bind_eq_ok.mp hrun
    exact hq.wherePairs (hcolumn hkeeping.1 hq.dialect hcs) hrun

/-- One case for each step. What the step holds enters through `hparts` only. -/
theorem sound_of_runStep {step : Step} (hparts : PartsSound d given step)
    (hkeeping : KeepingStep d given step) {q q' : Query} (hq : q.Sound d given)
    (hrun : runStep step q = .ok q') : q'.Sound d given := by
  -- every operation keeps a query sound; steps that touch no condition, join or union are edits
  cases step with
  | unreadable why => exact nomatch hrun
  | select columns => exact Except.ok.inj hrun ▸ hq.edit rfl rfl rfl rfl rfl
  | addSelect columns => exact Except.ok.inj hrun ▸ hq.edit rfl rfl rfl rfl rfl
  | selectRaw sql values => exact Except.ok.inj hrun ▸ hq.edit rfl rfl rfl rfl rfl
  | selectNested n label =>
    obtain ⟨s, _, hrun⟩ := bind_eq_ok.mp hrun
    exact hq.selectSub hrun
  | distinct => exact Except.ok.inj hrun ▸ hq.edit rfl rfl rfl rfl rfl
  | source source => exact Except.ok.inj hrun ▸ hq.edit rfl rfl rfl rfl rfl
  | sourceAs table label => exact Except.ok.inj hrun ▸ hq.edit rfl rfl rfl rfl rfl
  | sourceRaw sql values => exact Except.ok.inj hrun ▸ hq.edit rfl rfl rfl rfl rfl
  -- a nested source is a text: its operators are stored nowhere
  | sourceNested n label =>
    obtain ⟨s, _, hrun⟩ := bind_eq_ok.mp hrun
    obtain ⟨⟨sql, vs⟩, _, hrun⟩ := bind_eq_ok.mp hrun
    exact Except.ok.inj hrun ▸ hq.edit rfl rfl rfl rfl rfl
  | join kind source first operator second =>
    exact Except.ok.inj hrun ▸ hq.join kind source first second (.inr hkeeping)
  | crossJoin source => exact Except.ok.inj hrun ▸ hq.addJoin (hq.draftJoin .cross source)
  | joinWith source kind steps =>
    obtain ⟨j, hj, hrun⟩ := bind_eq_ok.mp hrun
    exact Except.ok.inj hrun ▸ hq.addJoin (hparts hkeeping (hq.draftJoin kind source) hj)
  | joinWhere kind source first operator value =>
    obtain ⟨c, hc, hrun⟩ := bind_eq_ok.mp hrun
    exact hq.joinWhere (hparts hkeeping hq.dialect hc) hrun
  | joinNested n label kind first operator second =>
    obtain ⟨s, _, hrun⟩ := bind_eq_ok.mp hrun
    exact hq.joinSub (.inr hkeeping) hrun
  | groupBy columns => exact Except.ok.inj hrun ▸ hq.edit rfl rfl rfl rfl rfl
  | groupByRaw sql values => exact Except.ok.inj hrun ▸ hq.edit rfl rfl rfl rfl rfl
  | orderBy column direction => exact Except.ok.inj hrun ▸ hq.orderBy column direction
  | orderByNested n direction =>
    obtain ⟨s, _, hrun⟩ := bind_eq_ok.mp hrun
    obtain ⟨⟨sql, vs⟩, _, hrun⟩ := bind_eq_ok.mp hrun
    exact Except.ok.inj hrun ▸ (hq.bind _ _).orderBy _ direction
  | orderByRaw sql values => exact Except.ok.inj hrun ▸ (hq.updateTail _).bind _ _
  | newestFirst column => exact Except.ok.inj hrun ▸ hq.orderBy _ .descending
  | oldestFirst column => exact Except.ok.inj hrun ▸ hq.orderBy _ .ascending
  | randomOrder seed => exact Except.ok.inj hrun ▸ (hq.updateTail _).bind _ _
  | reorder => exact Except.ok.inj hrun ▸ hq.edit rfl rfl rfl rfl rfl
  | reorderBy column direction =>
    have hreordered : q.reorder.Sound d given := hq.edit rfl rfl rfl rfl rfl
    exact Except.ok.inj hrun ▸ hreordered.orderBy column direction
  | limit count => exact Except.ok.inj hrun ▸ hq.limit count
  | offset count => exact Except.ok.inj hrun ▸ hq.offset count
  | page number size => exact Except.ok.inj hrun ▸ (hq.offset _).limit size
  | pageAfter size last column => exact hq.cursorPage hrun
  | pageBefore size last column => exact hq.cursorPage hrun
  | union all n =>
    obtain ⟨s, hs, hrun⟩ := bind_eq_ok.mp hrun
    exact hq.union (hparts hkeeping hq.dialect hs) hrun
  | provided condition steps =>
    cases condition with
    | false => exact Except.ok.inj hrun ▸ hq
    | true => exact hparts (hkeeping rfl) hq hrun
  | withRelation name relation => exact Except.ok.inj hrun ▸ hq.edit rfl rfl rfl rfl rfl
  | withoutRelation name => exact Except.ok.inj hrun ▸ hq.edit rfl rfl rfl rfl rfl
  | addBinding value clause => exact Except.ok.inj hrun ▸ hq.edit rfl rfl rfl rfl rfl
  | mergeBindings dialect steps =>
    obtain ⟨other, _, hrun⟩ := bind_eq_ok.mp hrun
    exact Except.ok.inj hrun ▸ hq.edit rfl rfl rfl rfl rfl
  | without parts => exact Except.ok.inj hrun ▸ hq.without parts
  | withoutBindings clauses => exact Except.ok.inj hrun ▸ hq.edit rfl rfl rfl rfl rfl
  | fresh => exact Except.ok.inj hrun ▸ hq.fresh
  | compare connector column operator value => exact sound_of_compare hparts hkeeping hq hrun
  | group connector steps =>
    exact hq.group (fun start nested hstart hnested => hparts hkeeping hstart hnested) hrun
  | groupOf connector dialect steps =>
    obtain ⟨nested, hnested, hrun⟩ := bind_eq_ok.mp hrun
    have hstart : (Query.on (separateConnection q.connection dialect)).Sound d given :=
      .on (dialect_separateConnection hq.dialect hkeeping.1) none
    exact Except.ok.inj hrun ▸ hq.addGroup connector (hparts hkeeping.2 hstart hnested)
  | compareColumns connector first operator second => exact hq.compareColumns hrun
  | columnRows rows =>
    obtain ⟨css, hcss, hrun⟩ := bind_eq_ok.mp hrun
    exact hq.whereColumnRows (hparts hkeeping hq.dialect hcss) hrun
  | isNull connector negated column =>
    exact Except.ok.inj hrun ▸ hq.addWhere connector allAllowed_nil
  | whereRaw connector sql values =>
    exact Except.ok.inj hrun ▸ (hq.bind _ _).addWhere connector allAllowed_nil
  | isIn connector negated column candidates =>
    obtain ⟨c, _, hrun⟩ := bind_eq_ok.mp hrun
    exact hq.whereIn hrun
  | between connector negated column low high =>
    exact Except.ok.inj hrun ▸ (hq.bind _ _).addWhere connector allAllowed_nil
  | betweenColumns negated column low high =>
    exact Except.ok.inj hrun ▸ hq.addWhere .and allAllowed_nil
  | datePart connector part column operator value => exact hq.whereDatePart hrun
  | «exists» connector negated n =>
    obtain ⟨s, hs, hrun⟩ := bind_eq_ok.mp hrun
    exact hq.whereExists (hparts hkeeping hq.dialect hs) hrun
  | having connector column operator value => exact hq.having hrun
  | havingRaw connector sql values =>
    exact Except.ok.inj hrun ▸ (hq.bind _ _).addHaving connector allAllowed_nil
  | havingNull negated column => exact Except.ok.inj hrun ▸ hq.addHaving .and allAllowed_nil
  | havingBetween column low high =>
    exact Except.ok.inj hrun ▸ (hq.bind _ _).addHaving .and allAllowed_nil
  | relationAggregate name relation function column => exact hq.relationAggregate hrun
  | relationCount name relation => exact hq.relationAggregate hrun
  | has connector relation operator count =>
    exact hq.has (fun _ hsub => hparts hkeeping hq.dialect hsub) hrun
  | lacks connector relation => exact hq.has (fun _ hsub => hparts hkeeping hq.dialect hsub) hrun
  | hasNot relation operator count =>
    exact hq.hasNot (fun _ hsub => hparts hkeeping hq.dialect hsub) hrun

/-! ## The sorts put together -/

mutual

/-- A run leads from sound queries to sound ones. -/
theorem stepsSound : ∀ steps : List Step, StepsSound d given steps
  | [] => by
    intro q q' _ hq hrun
    exact Except.ok.inj hrun ▸ hq
  | step :: rest => by
    intro q q' hkeeping hq hrun
    obtain ⟨next, hnext, hrest⟩ := bind_eq_ok.mp hrun
    exact stepsSound rest hkeeping.2 (sound_of_runStep (partsSound step) hkeeping.1 hq hnext) hrest
termination_by structural steps => steps

/-- What a step holds, each part by the statement for its own sort. -/
theorem partsSound (step : Step) : PartsSound d given step := by
  cases step with
  | joinWith source kind steps => exact joinStepsSound steps
  | joinWhere kind source first operator value => exact valueSound value
  | union all n => exact nestedSound n
  | provided condition steps => exact stepsSound steps
  | compare connector column operator value => exact ⟨columnSound column, valueSound value⟩
  | group connector steps => exact stepsSound steps
  | groupOf connector dialect steps => exact stepsSound steps
  | columnRows rows => exact rowsSound rows
  | «exists» connector negated n => exact nestedSound n
  | has connector relation operator count => exact relationSound relation
  | lacks connector relation => exact relationSound relation
  | hasNot relation operator count => exact relationSound relation
  | _ => trivial
termination_by structural step

/-- The scope of a relation is a program on the related table. -/
theorem relationSound : ∀ relation : Relation, RelationSound d given relation
  | ⟨link, scope⟩ => by
    intro c q hkeeping hc hrun
    exact stepsSound scope hkeeping (.on hc (some (.table link.table))) hrun
termination_by structural relation => relation

/-- A closure, a query built apart, or a text that stores nothing. -/
theorem nestedSound : ∀ n : Nested, NestedSound d given n
  | .closure steps => by
    intro q s hkeeping _ hrun
    have hbuild : ∀ start sub, start.Sound d given → runSteps steps start = .ok sub →
        sub.Sound d given :=
      fun _ _ hstart hsub => stepsSound steps hkeeping hstart hsub
    exact Except.ok.inj hrun ▸ hbuild
  | .built dialect steps => by
    intro q s hkeeping hq hrun
    obtain ⟨sub, hsub, hrun⟩ := bind_eq_ok.mp hrun
    have hstart : (Query.on (separateConnection q.connection dialect)).Sound d given :=
      .on (dialect_separateConnection hq hkeeping.1) none
    have hbuilt : sub.Sound d given := stepsSound steps hkeeping.2 hstart hsub
    exact Except.ok.inj hrun ▸ hbuilt
  | .sql text => by
    intro q s _ _ hrun
    exact Except.ok.inj hrun ▸ trivial
termination_by structural n => n

/-- A value, or a sub-query in its place. -/
theorem valueSound : ∀ value : ValueTerm, ValueSound d given value
  | .operand o => by
    intro q c _ _ hrun
    exact Except.ok.inj hrun ▸ trivial
  | .nested n => by
    intro q c hkeeping hq hrun
    obtain ⟨s, hs, hrun⟩ := bind_eq_ok.mp hrun
    exact Except.ok.inj hrun ▸ nestedSound n hkeeping hq hs
termination_by structural value => value

theorem valuesSound : ∀ row : List ValueTerm, ValuesSound d given row
  | [] => by
    intro q cs _ _ hrun
    rw [← Except.ok.inj hrun]
    exact nofun
  | value :: rest => by
    intro q cs hkeeping hq hrun
    obtain ⟨c, hc, hrun⟩ := bind_eq_ok.mp hrun
    obtain ⟨cs', hcs', hrun⟩ := bind_eq_ok.mp hrun
    rw [← Except.ok.inj hrun]
    exact List.forall_mem_cons.mpr ⟨valueSound value hkeeping.1 hq hc,
      valuesSound rest hkeeping.2 hq hcs'⟩
termination_by structural row => row

/-- Rows, row by row. -/
theorem rowsSound : ∀ rows : List (List ValueTerm), RowsSound d given rows
  | [] => by
    intro q css _ _ hrun
    rw [← Except.ok.inj hrun]
    exact nofun
  | row :: rest => by
    intro q css hkeeping hq hrun
    obtain ⟨cs, hcs, hrun⟩ := bind_eq_ok.mp hrun
    obtain ⟨css', hcss', hrun⟩ := bind_eq_ok.mp hrun
    rw [← Except.ok.inj hrun]
    exact List.forall_mem_cons.mpr ⟨valuesSound row hkeeping.1 hq hcs,
      rowsSound rest hkeeping.2 hq hcss'⟩
termination_by structural rows => rows

/-- Pairs, pair by pair. -/
theorem pairsSound : ∀ pairs : List (String × ValueTerm), PairsSound d given pairs
  | [] => by
    intro q cs _ _ hrun
    rw [← Except.ok.inj hrun]
    exact nofun
  | (column, value) :: rest => by
    intro q cs hkeeping hq hrun
    obtain ⟨c, hc, hrun⟩ := bind_eq_ok.mp hrun
    obtain ⟨cs', hcs', hrun⟩ := bind_eq_ok.mp hrun
    rw [← Except.ok.inj hrun]
    exact List.forall_mem_cons.mpr ⟨valueSound value hkeeping.1 hq hc,
      pairsSound rest hkeeping.2 hq hcs'⟩
termination_by structural pairs => pairs

/-- The left side of a condition, by its sort. -/
theorem columnSound : ∀ column : ColumnTerm, ColumnSound d given column
  | .column _ => trivial
  | .nested n => nestedSound n
  | .rows rows => rowsSound rows
  | .pairs pairs => pairsSound pairs
termination_by structural column => column

/-- A run of the steps of a join keeps it sound. -/
theorem joinStepsSound : ∀ steps : List JoinStep, JoinStepsSound d given steps
  | [] => by
    intro j j' _ hj hrun
    exact Except.ok.inj hrun ▸ hj
  | step :: rest => by
    intro j j' hkeeping hj hrun
    obtain ⟨next, hnext, hrest⟩ := bind_eq_ok.mp hrun
    exact joinStepsSound rest hkeeping.2 (joinStepSound step hkeeping.1 hj hnext) hrest
termination_by structural steps => steps

/-- A step of a join. What it gives to a comparison of two columns is stored, and it is among what
the program gives. -/
theorem joinStepSound : ∀ (step : JoinStep) ⦃j j' : JoinDraft⦄, KeepingJoinStep d given step →
    j.Sound d given → runJoinStep step j = .ok j' → j'.Sound d given
  | .on connector first operator second => by
    intro j j' hkeeping hj hrun
    exact Except.ok.inj hrun ▸ hj.on connector first second (.inr hkeeping)
  | .group connector steps => by
    intro j j' hkeeping hj hrun
    exact hj.group (fun start nested hstart hnested => joinStepsSound steps hkeeping hstart hnested)
      hrun
  | .compare connector column operator value => by
    intro j j' hkeeping hj hrun
    obtain ⟨v, hv, hrun⟩ := bind_eq_ok.mp hrun
    exact hj.compare (valueSound value hkeeping hj.dialect hv) hrun
  | .isNull negated column => by
    intro j j' _ hj hrun
    exact Except.ok.inj hrun ▸ hj.whereNull negated column
  | .isIn column candidates => by
    intro j j' _ hj hrun
    obtain ⟨v, _, hrun⟩ := bind_eq_ok.mp hrun
    exact hj.whereIn hrun
  | .join source first operator second => by
    intro j j' hkeeping hj hrun
    exact Except.ok.inj hrun ▸ hj.join source first second (.inr hkeeping)
termination_by structural step => step

end

/-! ## What a run stores -/

/-- A step that ends well has had all its operators accepted, so one that is given an unknown
operator fails. -/
theorem error_of_unknown {step : Step} {q : Query}
    (h : ∃ o ∈ step.checkedOperators, q.dialect.accepts o = false) :
    ∃ e, runStep step q = .error e := by
  obtain ⟨o, ho, hunknown⟩ := h
  cases hrun : runStep step q with
  | error e => exact ⟨e, rfl⟩
  | ok q' => exact absurd (hunknown.symm.trans (accepts_of_runStep hrun o ho)) Bool.false_ne_true

/-- The same of the steps of a join. -/
theorem error_of_unknown_join {step : JoinStep} {j : JoinDraft}
    (h : ∃ o ∈ step.checkedOperators, j.inner.dialect.accepts o = false) :
    ∃ e, runJoinStep step j = .error e := by
  obtain ⟨o, ho, hunknown⟩ := h
  cases hrun : runJoinStep step j with
  | error e => exact ⟨e, rfl⟩
  | ok j' =>
    exact absurd (hunknown.symm.trans (accepts_of_runJoinStep hrun o ho)) Bool.false_ne_true

/-- A join stores the operator that it is made on, whatever it is. -/
theorem mem_operators_join (q : Query) (kind : JoinKind) (source : Source)
    (first operator second : String) :
    ⟨operator, true⟩ ∈ (q.join kind source first operator second).operators := by
  have hjoins : (q.join kind source first operator second).joins =
      q.joins ++ [⟨kind, source, [⟨.and, .compareColumns (.name first) operator (.name second)⟩],
        []⟩] := rfl
  -- the new join is the last, and its one condition is a comparison of two columns
  have hlast : ⟨operator, true⟩ ∈ joinOperators
      (q.join kind source first operator second).joins := by
    rw [hjoins, joinOperators_append]
    exact List.mem_append_right _ List.mem_cons_self
  rw [Query.operators_eq]
  exact List.mem_append_left _ (List.mem_append_right _ hlast)

/-- A new condition stores its operators. -/
theorem mem_operators_addWhere (q : Query) (connector : Connector) {predicate : Predicate}
    {o : StoredOperator} (h : o ∈ predicateOperators false predicate) :
    o ∈ (q.addWhere connector predicate).operators := by
  have hlast : o ∈ conditionOperators false (q.wheres ++ [⟨connector, predicate⟩]) := by
    rw [conditionOperators_append]
    exact List.mem_append_right _ (List.mem_append_left _ h)
  rw [Query.operators_eq]
  exact List.mem_append_left _ (List.mem_append_left _ (List.mem_append_left _ hlast))

/-- A program that stays on one dialect stores operators that the dialect knows, without blanks
around them and in small letters, except where a join is made on a comparison of two columns: there
it stores what it gives. A step that is given an operator for any other comparison fails unless the
dialect knows it, blanks and capitals aside, and so does a step of a join. So two columns are
compared in a condition by an operator that is known, and it is stored without blanks and capitals;
a join on two columns takes any operator and stores it as it is. -/
theorem stored_operators_known {given : String → Prop} {c : Connection} {steps : List Step}
    (hkeeping : KeepingSteps c.dialect given steps) {q : Query}
    (hrun : runSteps steps (.on c) = .ok q) :
    (∀ o ∈ q.operators, if o.joined then o.text = "=" ∨ given o.text
      else c.dialect.knows o.text = true ∧ Text.lower (Text.trim o.text) = o.text) ∧
    (∀ step : Step, (∃ o ∈ step.checkedOperators, c.dialect.accepts o = false) →
      ∃ e, runStep step q = .error e) ∧
    (∀ (step : JoinStep) (j : JoinDraft), j.inner.dialect = c.dialect →
      (∃ o ∈ step.checkedOperators, c.dialect.accepts o = false) →
        ∃ e, runJoinStep step j = .error e) ∧
    (∀ connector first operator second, c.dialect.accepts operator = true →
      ∃ q', runStep (.compareColumns connector first operator second) q = .ok q' ∧
        ⟨Text.lower (Text.trim operator), false⟩ ∈ q'.operators) ∧
    ∀ kind source first operator second, ∃ q',
      runStep (.join kind source first operator second) q = .ok q' ∧
        ⟨operator, true⟩ ∈ q'.operators := by
  have hsound : q.Sound c.dialect given := stepsSound steps hkeeping (.on rfl none) hrun
  refine ⟨fun o ho => ?_, fun step h => ?_, fun step j hj h => ?_,
    fun connector first operator second h => ?_, fun kind source first operator second => ?_⟩
  · have hallowed := (Query.sound_iff.mp hsound).2 o ho
    unfold StoredOperator.Allowed at hallowed
    split at hallowed
    · next hjoined => rwa [if_pos hjoined]
    · next hjoined =>
      rw [if_neg hjoined]
      exact ⟨hallowed, normal_of_knows hallowed⟩
  · rw [← hsound.dialect] at h
    exact error_of_unknown h
  · rw [← hj] at h
    exact error_of_unknown_join h
  · rw [← hsound.dialect] at h
    exact ⟨_, bind_eq_ok.mpr ⟨_, Query.checkedOperator_ok h, rfl⟩,
      mem_operators_addWhere q connector List.mem_cons_self⟩
  · exact ⟨_, rfl, mem_operators_join q kind source first operator second⟩

/-- Users whose name is like a pattern or who wrote a long post, joined with their posts. -/
def patternProgram : List Step :=
  [.source (.table "users"), .join .inner (.table "posts") "users.id" "=" "posts.user_id",
    .compare .and (.column (.name "name")) (some " LIKE ") (.operand (.value (.text "a%"))),
    .group .or [.compareColumns .and (.name "posts.length") "Not Regexp" (.name "users.filter")]]

/-- The program gives two operators with blanks or capitals, and stores them without. -/
theorem stored_operators_known_pattern :
    ∃ q, runSteps patternProgram (.on {}) = .ok q ∧
      q.operators = [⟨"like", false⟩, ⟨"not regexp", false⟩, ⟨"=", true⟩] ∧
      ∀ o ∈ q.operators, if o.joined then o.text = "=" ∨ o.text = "="
        else Dialect.mysql.knows o.text = true ∧ Text.lower (Text.trim o.text) = o.text := by
  have hkeeping : KeepingSteps Dialect.mysql (fun o => o = "=") patternProgram :=
    ⟨trivial, rfl, ⟨trivial, trivial⟩, ⟨trivial, trivial⟩, trivial⟩
  have hknown : ∀ q, runSteps patternProgram (.on {}) = .ok q → _ := fun q hrun =>
    (stored_operators_known (c := {}) hkeeping hrun).1
  exact ⟨_, rfl, rfl, hknown _ rfl⟩

/-- A join stores a text that is no operator, and it stands in the statement. -/
theorem unknown_join_operator :
    ∃ q, runSteps
        [.source (.table "users"),
          .join .inner (.table "posts") "users.id" "= 0 or 1 =" "posts.user_id"]
        (.on {}) = .ok q ∧
      ⟨"= 0 or 1 =", true⟩ ∈ q.operators ∧ Dialect.mysql.accepts "= 0 or 1 =" = false ∧
      q.sql = "select * from \x60users\x60 inner join \x60posts\x60 " ++
        "on \x60users\x60.\x60id\x60 = 0 or 1 = \x60posts\x60.\x60user_id\x60" :=
  ⟨_, rfl, mem_operators_join _ _ _ _ _ _, by decide +kernel, rfl⟩

end QueryBuilder
