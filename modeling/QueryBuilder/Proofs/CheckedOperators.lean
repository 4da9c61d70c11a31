import QueryBuilder.Proofs.Connections
import QueryBuilder.Proofs.Portability

/-!
# Steps that are given operators

An operator is checked before anything is built with it: blanks around it are dropped, its capitals
are made small, and what is left has to be known to the dialect.

- `Dialect.accepts`: the operators that pass. Those that the dialect knows are among them, and stay
  what they are.
- `Step.checkedOperators`, `JoinStep.checkedOperators`: the operators that a step is given for
  comparisons, in rows of conditions and in the conditions of a relation too. The comparison of two
  columns that a join is made on is not among them.
- `accepts_of_runStep`, `accepts_of_runJoinStep`: a step that succeeds was given none but operators
  that pass.
-/

namespace QueryBuilder

/-! ## Operators that pass -/

/-- The dialect knows the operator, blanks around it and capitals aside. -/
def Dialect.accepts (d : Dialect) (operator : String) : Bool :=
  d.knows (Text.lower (Text.trim operator))

/-- An operator that a dialect knows has neither blanks around it nor capitals. -/
theorem normal_of_knows {d : Dialect} {o : String} (h : d.knows o = true) :
    Text.lower (Text.trim o) = o := by
  -- the operators are a finite list, and are looked through one by one
  have htrimmed : ∀ o ∈ Dialect.sharedOperators ++ Dialect.mysql.ownOperators, Text.trim o = o := by
    decide +kernel
  have hsmall : ∀ o ∈ Dialect.sharedOperators ++ Dialect.mysql.ownOperators,
      o.toList.all Text.isSmallAscii = true := by
    decide
  have hmem : o ∈ Dialect.sharedOperators ++ Dialect.mysql.ownOperators := by
    rw [Dialect.knows, Bool.or_eq_true, List.contains_iff_mem, List.contains_iff_mem] at h
    rcases h with h | h
    · exact List.mem_append_left _ h
    · -- only one of the dialects knows operators of its own
      cases d with
      | mysql => exact List.mem_append_right _ h
      | sqlite => exact absurd h List.not_mem_nil
      | plain => exact absurd h List.not_mem_nil
  rw [htrimmed o hmem, Text.lower_of_isSmallAscii (List.all_eq_true.1 (hsmall o hmem))]

theorem accepts_of_knows {d : Dialect} {o : String} (h : d.knows o = true) :
    d.accepts o = true := by
  rw [Dialect.accepts, normal_of_knows h]
  exact h

/-! ## Operators that are given -/

/-- The operator among the texts of a condition row, if the row has one. -/
def rowOperators : List (Option String) → List String
  | [_, operator, _] => operator.toList
  | [_, operator, _, _] => operator.toList
  | _ => []

/-- The operators of condition rows. -/
def rowsOperators (rows : List (List ValueTerm)) : List String :=
  rows.flatMap fun row => rowOperators (row.map ValueTerm.asText?)

/-- The operator of a condition on a pivot table that has one. -/
def PivotCondition.checkedOperators : PivotCondition → List String
  | .compare _ operator _ => [operator]
  | _ => []

/-- The operators of the conditions on the pivot table of a link. -/
def Link.checkedOperators : Link → List String
  | .belongsToMany through => through.conditions.flatMap PivotCondition.checkedOperators
  | _ => []

/-- The operators that a step is given for comparisons. Columns with their values are compared by
equality, so that an operator beside them is none. -/
def Step.checkedOperators : Step → List String
  | .joinWhere _ _ _ operator _ => [operator]
  | .compare _ (.column _) operator _ => operator.toList
  | .compare _ (.nested _) operator _ => operator.toList
  | .compare _ (.rows rows) _ _ => rowsOperators rows
  | .compareColumns _ _ operator _ => [operator]
  | .columnRows rows => rowsOperators rows
  | .datePart _ _ _ operator _ => [operator]
  | .having _ _ operator _ => [operator]
  | .relationAggregate _ relation _ _ => relation.link.checkedOperators
  | .relationCount _ relation => relation.link.checkedOperators
  | .has _ relation operator _ => operator :: relation.link.checkedOperators
  | .lacks _ relation => relation.link.checkedOperators
  | .hasNot relation operator _ => operator :: relation.link.checkedOperators
  | _ => []

/-- The operators that a step of a join is given for comparisons with values. -/
def JoinStep.checkedOperators : JoinStep → List String
  | .compare _ _ operator _ => [operator]
  | _ => []

/-! ## Comparisons -/

namespace Query

variable {q q' : Query} {connector : Connector} {operator : String}

/-- What passes the check of a query is accepted by the dialect of the query. -/
theorem accepts_of_checkedOperator {o : String} (h : q.checkedOperator operator = .ok o) :
    q.dialect.accepts operator = true := by
  unfold checkedOperator at h
  simp only at h
  split at h
  · next hknows => exact hknows
  · exact nomatch h

/-- A condition on a column is built only with an operator that passes. -/
theorem accepts_of_compareColumn {column : Column} {value : Comparand}
    (h : q.compareColumn connector column (some operator) value = .ok q') :
    q.dialect.accepts operator = true := by
  obtain ⟨o, ho, -⟩ := bind_eq_ok.mp h
  exact accepts_of_checkedOperator ho

/-- So is a condition on a sub-query, whose values are bound before the operator is looked at. -/
theorem accepts_of_compare {subject : Subject} {value : Comparand}
    (h : q.compare connector subject (some operator) value = .ok q') :
    q.dialect.accepts operator = true := by
  cases subject with
  | column c => exact accepts_of_compareColumn h
  | query s =>
    unfold compare at h
    simp only [Option.isNone_some, Bool.false_and, Bool.false_eq_true, if_false] at h
    obtain ⟨⟨sql, vs⟩, -, h⟩ := bind_eq_ok.mp h
    have hcompare : (q.bind .wheres vs).compareColumn connector (.raw ("(" ++ sql ++ ")"))
        (some operator) value = .ok q' := h
    have haccepts := accepts_of_compareColumn hcompare
    exact haccepts

/-- So is a comparison of two columns. -/
theorem accepts_of_compareColumns {first second : Column}
    (h : q.compareColumns connector first operator second = .ok q') :
    q.dialect.accepts operator = true := by
  obtain ⟨o, ho, -⟩ := bind_eq_ok.mp h
  exact accepts_of_checkedOperator ho

end Query

/-! ## Rows -/

/-- Where a text is asked for, what is taken for one is one. -/
theorem Comparand.asText_of_text {c : Comparand} {part s : String} (h : c.text part = .ok s) :
    c.asText? = some s := by
  unfold Comparand.text at h
  split at h
  · exact congrArg some (Except.ok.inj h)
  · exact nomatch h

/-- The value side of a condition is read as a text exactly if it was written as one. -/
theorem asText_of_runValue {value : ValueTerm} {q : Query} {c : Comparand}
    (h : runValue value q = .ok c) : c.asText? = value.asText? := by
  cases value with
  | operand o =>
    rw [← Except.ok.inj h]
    cases o with
    | raw sql => rfl
    | value v => cases v <;> rfl
  | nested n =>
    obtain ⟨s, -, h⟩ := bind_eq_ok.mp h
    rw [← Except.ok.inj h]
    rfl

/-- Reading a row does not change its texts. -/
theorem asTexts_of_runRow {row : List ValueTerm} {q : Query} :
    ∀ {cs : List Comparand}, runRow row q = .ok cs →
      cs.map Comparand.asText? = row.map ValueTerm.asText? := by
  induction row with
  | nil => exact fun h => Except.ok.inj h ▸ rfl
  | cons value rest ih =>
    intro cs h
    obtain ⟨c, hc, h⟩ := bind_eq_ok.mp h
    obtain ⟨cs', hcs', h⟩ := bind_eq_ok.mp h
    rw [← Except.ok.inj h, List.map_cons, List.map_cons, asText_of_runValue hc, ih hcs']

/-- Each of several rows is read. -/
theorem exists_runRow {rows : List (List ValueTerm)} {q : Query} :
    ∀ {css : List (List Comparand)}, runRows rows q = .ok css →
      ∀ row ∈ rows, ∃ cs ∈ css, runRow row q = .ok cs := by
  -- on the rows, for every result: rows are read one by one and all of them succeed
  induction rows with
  | nil => exact fun _ => nofun
  | cons first rest ih =>
    intro css h
    obtain ⟨cs, hcs, h⟩ := bind_eq_ok.mp h
    obtain ⟨css', hcss', h⟩ := bind_eq_ok.mp h
    rw [← Except.ok.inj h, List.forall_mem_cons]
    refine ⟨⟨cs, List.mem_cons_self, hcs⟩, fun row hrow => ?_⟩
    obtain ⟨cs', hmem, hcs'⟩ := ih hcss' row hrow
    exact ⟨cs', List.mem_cons_of_mem _ hmem, hcs'⟩

/-- A fold that succeeds takes every element in some state that keeps the invariant. -/
theorem foldlM_visits {ε α β : Type} {f : β → α → Except ε β} {P : β → Prop}
    (hstep : ∀ b a b', P b → f b a = .ok b' → P b') {as : List α} :
    ∀ {b b' : β}, P b → as.foldlM f b = .ok b' → ∀ a ∈ as, ∃ c c', P c ∧ f c a = .ok c' := by
  -- on the list, for every state: the invariant reaches each element through those before
  induction as with
  | nil => exact fun _ _ => nofun
  | cons a as ih =>
    intro b b' hb h
    rw [List.foldlM_cons] at h
    obtain ⟨c, hc, hrest⟩ := bind_eq_ok.mp h
    exact List.forall_mem_cons.mpr ⟨⟨b, c, hb, hc⟩, ih (hstep b a c hb hc) hrest⟩

/-- A way to take condition rows checks their operators and stays on the connection. -/
structure ReadingChecks (reading : Query.RowReading) : Prop where
  adds : ReadingAdds .anything (fun _ _ => True) reading
  accepts : ∀ {q q' : Query} {connector : Connector} {subject : Subject} {operator : String}
    {value : Comparand},
    reading q connector subject operator value = .ok q' → q.dialect.accepts operator = true

theorem Comparand.written_anything (c : Comparand) (start : Query) :
    c.Written .anything (fun _ _ => True) start := by
  cases c with
  | operand o => exact Rules.allowsOperand_anything o
  | query s =>
    cases s with
    | query sub => exact ⟨sub.connection, trivial⟩
    | closure build => exact fun _ _ => trivial
    | sql text => trivial

theorem rowWritten_anything (q : Query) (row : List Comparand) :
    RowWritten .anything (fun _ _ => True) q row := by
  unfold RowWritten
  split
  · trivial
  · exact Comparand.written_anything _ _
  · exact fun c _ => c.written_anything _

namespace Query

variable {q q' : Query} {connector : Connector}

theorem readingChecks_compareRow : ReadingChecks compareRow where
  adds := readingAdds_compareRow
  accepts h := accepts_of_compare h

/-- Rows of columns are taken by a comparison of columns, which checks it as well. -/
theorem readingChecks_compareColumnRow : ReadingChecks compareColumnRow where
  adds := readingAdds_compareColumnRow
  accepts {q q' connector subject operator value} h := by
    cases subject with
    | column first =>
      obtain ⟨second, -, h⟩ := bind_eq_ok.mp h
      exact accepts_of_compareColumns h
    | query s => exact nomatch h

/-- A row that is taken had an operator that passes, or none. -/
theorem accepts_of_addRow {reading : RowReading} (hreading : ReadingChecks reading)
    {row : List Comparand} (h : addRow reading q row = .ok q') :
    ∀ o ∈ rowOperators (row.map Comparand.asText?), q.dialect.accepts o = true := by
  unfold addRow at h
  -- by the length of the row: of two elements there is no operator, of three and four the second
  -- is it
  split at h
  · exact nofun
  · exact nofun
  · exact nofun
  · next head operator value =>
    obtain ⟨subject, -, h⟩ := bind_eq_ok.mp h
    obtain ⟨text, htext, h⟩ := bind_eq_ok.mp h
    have hoperators : rowOperators ([head, operator, value].map Comparand.asText?) =
        operator.asText?.toList := rfl
    rw [hoperators, Comparand.asText_of_text htext]
    exact List.forall_mem_singleton.mpr (hreading.accepts h)
  · next head operator value connector =>
    obtain ⟨subject, -, h⟩ := bind_eq_ok.mp h
    obtain ⟨text, htext, h⟩ := bind_eq_ok.mp h
    obtain ⟨word, -, h⟩ := bind_eq_ok.mp h
    obtain ⟨read, -, h⟩ := bind_eq_ok.mp h
    have hoperators : rowOperators ([head, operator, value, connector].map Comparand.asText?) =
        operator.asText?.toList := rfl
    rw [hoperators, Comparand.asText_of_text htext]
    exact List.forall_mem_singleton.mpr (hreading.accepts h)
  · exact nomatch h

/-- Every row is taken, on a query that has grown but stayed on its connection. -/
theorem accepts_of_addRows {reading : RowReading} (hreading : ReadingChecks reading)
    {rows : List (List Comparand)} (h : q.addRows reading connector rows = .ok q') :
    ∀ row ∈ rows, ∀ o ∈ rowOperators (row.map Comparand.asText?), q.dialect.accepts o = true := by
  intro row hrow o ho
  obtain ⟨nested, hfold, -⟩ := bind_eq_ok.mp h
  have hstart : q.freshOnSource.connection = q.connection := rfl
  -- rows add conditions only, so each of them is checked by the dialect of the query
  have hstays : ∀ b row b', b.connection = q.connection → addRow reading b row = .ok b' →
      b'.connection = q.connection := fun b row b' hb hb' =>
    (addsCondition_addRow hreading.adds (rowWritten_anything b row) hb').connection.trans hb
  obtain ⟨b, b', hb, hb'⟩ := foldlM_visits hstays hstart hfold row hrow
  have haccepts := accepts_of_addRow hreading hb' o ho
  rwa [dialect, hb] at haccepts

/-- The rows of a program are taken as they are read. -/
theorem accepts_of_rows {reading : RowReading} (hreading : ReadingChecks reading) {start : Query}
    {rows : List (List ValueTerm)} {css : List (List Comparand)}
    (hrun : runRows rows start = .ok css) (h : q.addRows reading connector css = .ok q') :
    ∀ o ∈ rowsOperators rows, q.dialect.accepts o = true := by
  intro o ho
  obtain ⟨row, hrow, ho⟩ := List.mem_flatMap.mp ho
  obtain ⟨cs, hmem, hcs⟩ := exists_runRow hrun row hrow
  rw [← asTexts_of_runRow hcs] at ho
  exact accepts_of_addRows hreading h cs hmem o ho

/-! ## Relations -/

/-- A condition on a pivot table that is added had an operator that passes, or none. -/
theorem accepts_of_addCondition {m : ManyToMany} {qualified : Bool} {condition : PivotCondition}
    (h : m.addCondition qualified q condition = .ok q') :
    ∀ o ∈ condition.checkedOperators, q.dialect.accepts o = true := by
  cases condition with
  | compare column operator value =>
    have hcompare : q.compare .and (.column (.name (m.pivotColumn qualified column)))
        (some operator) (.operand value) = .ok q' := h
    exact List.forall_mem_singleton.mpr (accepts_of_compare hcompare)
  | _ => exact nofun

/-- A relation that is correlated has conditions with operators that pass. -/
theorem accepts_of_correlate {l : Link} {outer : String} (h : l.correlate outer q = .ok q') :
    ∀ o ∈ l.checkedOperators, q.dialect.accepts o = true := by
  cases l with
  | belongsToMany m =>
    intro o ho
    obtain ⟨condition, hcondition, ho⟩ := List.mem_flatMap.mp ho
    obtain ⟨restricted, hfold, -⟩ := bind_eq_ok.mp h
    have hconditions : m.conditions.foldlM (m.addCondition true) (m.joinPivot q) = .ok restricted :=
      hfold
    have hstart : (m.joinPivot q).connection = q.connection := rfl
    -- the dialect that checks is that of the query for related rows, whatever has been added to
    -- it
    have hstays : ∀ b c b', b.connection = q.connection → m.addCondition true b c = .ok b' →
        b'.connection = q.connection := fun b c b' hb hb' => by
      have hallows : Rules.anything.AllowsPivot c :=
        Rules.allowsLink_anything (.belongsToMany { m with conditions := [c] }) c List.mem_cons_self
      have hadds : b.AddsCondition .anything (fun _ _ => True) b' :=
        EditClosed.addsCondition_pivot hallows hb'
      exact hadds.connection.trans hb
    obtain ⟨b, b', hb, hb'⟩ := foldlM_visits hstays hstart hconditions condition hcondition
    have haccepts := accepts_of_addCondition hb' o ho
    rwa [dialect, hb] at haccepts
  | _ => exact fun o ho => absurd ho List.not_mem_nil

/-- The related rows are asked for on the connection of the query. -/
theorem accepts_of_related {relation : Relation} {outer : String} {rows : Query}
    (hrows : runRelation relation q.connection = .ok rows)
    (h : relation.link.correlate outer rows = .ok q') :
    ∀ o ∈ relation.link.checkedOperators, q.dialect.accepts o = true := by
  have haccepts := accepts_of_correlate h
  rwa [dialect, connection_of_runRelation hrows] at haccepts

/-- An aggregate over related rows checks the operators of the relation. -/
theorem accepts_of_relationAggregate {relation : Relation} {name function column : String}
    (h : q.relationAggregate name relation.link
      (runRelation relation q.connection) function column = .ok q') :
    ∀ o ∈ relation.link.checkedOperators, q.dialect.accepts o = true := by
  obtain ⟨rows, hrows, h⟩ := bind_eq_ok.mp h
  obtain ⟨sub, hsub, -⟩ := bind_eq_ok.mp h
  exact accepts_of_related hrows hsub

/-- The number of related rows is compared by an operator that passes. -/
theorem accepts_of_has {relation : Relation} {operator : String} {count : Int}
    (h : q.has connector relation.link (runRelation relation q.connection) operator count =
      .ok q') :
    ∀ o ∈ operator :: relation.link.checkedOperators, q.dialect.accepts o = true := by
  obtain ⟨o, ho, h⟩ := bind_eq_ok.mp h
  obtain ⟨rows, hrows, h⟩ := bind_eq_ok.mp h
  obtain ⟨sub, hsub, -⟩ := bind_eq_ok.mp h
  exact List.forall_mem_cons.mpr ⟨accepts_of_checkedOperator ho, accepts_of_related hrows hsub⟩

/-- An operator that has an inverse is one that all dialects know. -/
theorem knows_of_inverseOperator {operator inverse : String}
    (h : inverseOperator operator = .ok inverse) : q.dialect.knows operator = true := by
  have hmem : operator ∈ Dialect.sharedOperators := by
    unfold inverseOperator at h
    -- seven operators have an inverse; of all others there is none
    split at h
    case h_8 => exact nomatch h
    all_goals decide
  rw [Dialect.knows, List.contains_iff_mem.mpr hmem, Bool.true_or]

/-- The inverse is compared, but the operator itself passes too. -/
theorem accepts_of_hasNot {relation : Relation} {operator : String} {count : Int}
    (h : q.hasNot relation.link (runRelation relation q.connection) operator count = .ok q') :
    ∀ o ∈ operator :: relation.link.checkedOperators, q.dialect.accepts o = true := by
  obtain ⟨inverse, hinverse, h⟩ := bind_eq_ok.mp h
  have hknown := accepts_of_knows (knows_of_inverseOperator (q := q) hinverse)
  exact List.forall_mem_cons.mpr ⟨hknown, (List.forall_mem_cons.mp (accepts_of_has h)).2⟩

end Query

/-! ## Steps -/

/-- A step that succeeds was given none but operators that pass. -/
theorem accepts_of_runStep {step : Step} {q q' : Query} (h : runStep step q = .ok q') :
    ∀ o ∈ step.checkedOperators, q.dialect.accepts o = true := by
  -- the steps that are given an operator; each was checked by the query as it was then
  cases step with
  | joinWhere kind source first operator value =>
    obtain ⟨c, -, h⟩ := bind_eq_ok.mp h
    obtain ⟨j, hj, -⟩ := bind_eq_ok.mp h
    obtain ⟨inner, hinner, -⟩ := bind_eq_ok.mp hj
    have hcompare : q.fresh.compare .and (.column (.name first)) (some operator) c = .ok inner :=
      hinner
    have haccepts := Query.accepts_of_compare hcompare
    exact List.forall_mem_singleton.mpr haccepts
  | compare connector column operator value =>
    cases column with
    | column c =>
      obtain ⟨v, -, h⟩ := bind_eq_ok.mp h
      intro o ho
      rw [Option.mem_toList.mp ho] at h
      exact Query.accepts_of_compare h
    | nested n =>
      obtain ⟨s, -, h⟩ := bind_eq_ok.mp h
      obtain ⟨v, -, h⟩ := bind_eq_ok.mp h
      intro o ho
      rw [Option.mem_toList.mp ho] at h
      exact Query.accepts_of_compare h
    | rows rows =>
      obtain ⟨css, hcss, h⟩ := bind_eq_ok.mp h
      obtain ⟨_, -, h⟩ := bind_eq_ok.mp h
      exact Query.accepts_of_rows Query.readingChecks_compareRow hcss h
    | pairs pairs => exact nofun
  | compareColumns connector first operator second =>
    exact List.forall_mem_singleton.mpr (Query.accepts_of_compareColumns h)
  | columnRows rows =>
    obtain ⟨css, hcss, h⟩ := bind_eq_ok.mp h
    exact Query.accepts_of_rows Query.readingChecks_compareColumnRow hcss h
  | datePart connector part column operator value =>
    obtain ⟨o, ho, -⟩ := bind_eq_ok.mp h
    exact List.forall_mem_singleton.mpr (Query.accepts_of_checkedOperator ho)
  | having connector column operator value =>
    obtain ⟨o, ho, -⟩ := bind_eq_ok.mp h
    exact List.forall_mem_singleton.mpr (Query.accepts_of_checkedOperator ho)
  | relationAggregate name relation function column => exact Query.accepts_of_relationAggregate h
  | relationCount name relation => exact Query.accepts_of_relationAggregate h
  | has connector relation operator count => exact Query.accepts_of_has h
  | lacks connector relation =>
    have haccepts := Query.accepts_of_has h
    exact (List.forall_mem_cons.mp haccepts).2
  | hasNot relation operator count => exact Query.accepts_of_hasNot h
  -- the other steps are given none
  | _ => exact nofun

/-- A step of a join that succeeds was given none but operators that pass, joins aside. -/
theorem accepts_of_runJoinStep {step : JoinStep} {j j' : JoinDraft}
    (h : runJoinStep step j = .ok j') :
    ∀ o ∈ step.checkedOperators, j.inner.dialect.accepts o = true := by
  cases step with
  | compare connector column operator value =>
    obtain ⟨c, -, h⟩ := bind_eq_ok.mp h
    obtain ⟨inner, hinner, -⟩ := bind_eq_ok.mp h
    exact List.forall_mem_singleton.mpr (Query.accepts_of_compare hinner)
  | _ => exact nofun

end QueryBuilder
