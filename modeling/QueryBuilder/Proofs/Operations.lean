import QueryBuilder.Proofs.Conditions

/-!
# Joins, sub-queries, cursors and relations as edits

The operations that are more than one condition.

- `JoinDraft.Grown`: what a join is while its conditions are built. Every step of a join keeps it,
  and a join that is finished in this state is an edit (`EditClosed.addJoin`).
- `EditClosed.selectSub`, `EditClosed.fromSub` and so on: clauses that embed a sub-query.
- `EditClosed.correlate`: the query for related rows, tied to the row around it.
-/

namespace QueryBuilder

variable {r : Rules} {I : Query → Query → Prop}

/-! ## Joins -/

/-- A join of `source` whose conditions have grown on an empty query of a connection. -/
structure JoinDraft.Grown (I : Query → Query → Prop) (connection : Connection) (source : Source)
    (j : JoinDraft) : Prop where
  onSource : j.source = source
  onConnection : j.inner.connection = connection
  run : I (.on connection) j.inner
  only : j.inner.OnlyConditions

/-- Nothing is filed in the empty query. -/
theorem onlyConditions_on (c : Connection) : (Query.on c).OnlyConditions := by
  intro e _
  cases e <;> rfl

/-- Merging the values of a query with conditions only files them under the conditions. -/
theorem Query.OnlyConditions.mergeBindings {q other : Query} (h : other.OnlyConditions) :
    q.mergeBindings other = q.bind .wheres (other.bindings.get .wheres) := by
  have hbindings : q.bindings.merge other.bindings =
      q.bindings.extend .wheres (other.bindings.get .wheres) := by
    refine Bindings.ext_get fun c => ?_
    rw [Bindings.get_merge, Bindings.get_extend]
    split
    · next hc => rw [hc]
    · next hc => rw [h c hc, List.append_nil]
  unfold Query.mergeBindings Query.bind
  rw [hbindings]

/-- The sign of equality is known everywhere. -/
theorem knows_equals (d : Dialect) : d.knows "=" = true := by
  cases d <;> decide

/-- An operator that the dialect knows is written without blanks around it and in small letters. -/
theorem Query.checkedOperator_ok {q : Query} {operator : String}
    (h : q.dialect.knows (Text.lower (Text.trim operator)) = true) :
    q.checkedOperator operator = .ok (Text.lower (Text.trim operator)) := by
  unfold checkedOperator
  exact if_pos h

/-- A comparison of a column with an operand that is not null. -/
theorem Query.compareColumn_operand {q : Query} {operator : String} {o : Operand}
    (h : q.dialect.knows (Text.lower (Text.trim operator)) = true) (hvalue : o.isNull = false)
    (connector : Connector) (column : Column) :
    q.compareColumn connector column (some operator) (.operand o) =
      .ok ((q.bind .wheres o.scalars).addWhere connector
        (.compare column (Text.lower (Text.trim operator)) o)) := by
  unfold compareColumn
  simp only [Option.isNone_some, Bool.false_and, Option.getD_some, checkedOperator_ok h]
  exact if_neg (hvalue ▸ Bool.false_ne_true)

/-- A comparison of a column with null asks whether the column is null. -/
theorem Query.compareColumn_null {q : Query} {operator : String} {o : Operand}
    (h : q.dialect.knows (Text.lower (Text.trim operator)) = true) (hnull : o.isNull = true)
    (connector : Connector) (column : Column) :
    q.compareColumn connector column (some operator) (.operand o) =
      .ok (q.addWhere connector (.isNull (Text.lower (Text.trim operator) != "=") column)) := by
  unfold compareColumn
  simp only [Option.isNone_some, Bool.false_and, Option.getD_some, checkedOperator_ok h]
  exact if_pos hnull

namespace JoinDraft.Grown

variable {connection : Connection} {source : Source} {j j' : JoinDraft}

theorem start (h : EditClosed r I) (q : Query) (kind : JoinKind) (source : Source) :
    (q.draftJoin kind source).Grown I q.connection source :=
  ⟨rfl, rfl, h.refl _, onlyConditions_on q.connection⟩

/-- A draft grows as its inner query gains conditions. -/
theorem adds (h : EditClosed r I) (hj : j.Grown I connection source) {inner : Query}
    (hadds : j.inner.AddsCondition r I inner) : { j with inner }.Grown I connection source where
  onSource := hj.onSource
  onConnection := hadds.connection.trans hj.onConnection
  run := h.adds hj.run hadds
  only := hadds.onlyConditions hj.only

theorem on (h : EditClosed r I) (hj : j.Grown I connection source) {connector : Connector}
    {first operator second : String} (hoperator : r.raw operator []) :
    (j.on connector first operator second).Grown I connection source :=
  hj.adds h (Query.addsCondition_unbound connector (.on first second hoperator))

/-- A group in a join is one more condition of the join. -/
theorem group (h : EditClosed r I) (hj : j.Grown I connection source) {connector : Connector}
    {build : JoinDraft → Except Error JoinDraft}
    (hbuild : ∀ start nested, start.Grown I connection source → build start = .ok nested →
      nested.Grown I connection source)
    (hj' : j.group connector build = .ok j') : j'.Grown I connection source := by
  obtain ⟨nested, hnested, hj'⟩ := bind_eq_ok.mp hj'
  have hstart : { j with inner := j.inner.fresh }.Grown I connection source := by
    refine ⟨hj.onSource, hj.onConnection, ?_, onlyConditions_on _⟩
    show I (.on connection) (.on j.inner.connection)
    rw [hj.onConnection]
    exact h.refl _
  have hgrown := hbuild _ nested hstart hnested
  split at hj'
  · exact Except.ok.inj hj' ▸ hj
  · -- all buckets of the group are merged, but only that of its conditions holds anything
    rw [hgrown.only.mergeBindings] at hj'
    have hgroup : WrittenPredicate r I j.inner.dialect (.group nested.inner.wheres)
        (nested.inner.bindings.get .wheres) := .group none hgrown.run
    exact Except.ok.inj hj' ▸ hj.adds h (.one connector hgroup)

/-- A comparison with a value in a join. -/
theorem compare (h : EditClosed r I) (hj : j.Grown I connection source) {connector : Connector}
    {column operator : String} {value : Comparand} (hvalue : value.Written r I (.on connection))
    (hj' : j.compare connector column operator value = .ok j') : j'.Grown I connection source := by
  obtain ⟨inner, hinner, hj'⟩ := bind_eq_ok.mp hj'
  rw [← hj.onConnection] at hvalue
  have hadds :=
    Query.addsCondition_compare (.column (.name column)) (some operator) trivial hvalue hinner
  exact Except.ok.inj hj' ▸ hj.adds h hadds

theorem whereNull (h : EditClosed r I) (hj : j.Grown I connection source) (negated : Bool)
    (column : String) : (j.whereNull negated column).Grown I connection source :=
  hj.adds h (Query.addsCondition_whereNull (r.allowsColumn_name _))

/-- Candidates in a join. -/
theorem whereIn (h : EditClosed r I) (hj : j.Grown I connection source) {column : String}
    {candidates : Candidates} (hcandidates : candidates.Written r I (.on connection))
    (hj' : j.whereIn column candidates = .ok j') : j'.Grown I connection source := by
  obtain ⟨inner, hinner, hj'⟩ := bind_eq_ok.mp hj'
  rw [← hj.onConnection] at hcandidates
  have hadds := Query.addsCondition_whereIn (r.allowsColumn_name _) hcandidates hinner
  exact Except.ok.inj hj' ▸ hj.adds h hadds

end JoinDraft.Grown

namespace EditClosed

variable {p q q' : Query}

/-- A finished join is an edit; its source may bind values of its own. -/
theorem addJoin (h : EditClosed r I) (hq : I p q) {c : Connection} {source : Source}
    {vs : List Value} {j : JoinDraft} (hsource : WrittenSource r I source vs)
    (hvs : ∀ v ∈ vs, v.leaves = [v]) (hj : j.Grown I c source) :
    I p ((q.bind .joins vs).addJoin j) := by
  rw [← hj.onSource] at hsource
  exact h.join j.kind hq hsource hvs hj.run hj.only

/-- A finished join whose source binds nothing. -/
theorem addUnboundJoin (h : EditClosed r I) (hq : I p q) {c : Connection} {source : Source}
    {j : JoinDraft} (hsource : r.AllowsSource source) (hj : j.Grown I c source) :
    I p (q.addJoin j) := by
  have hjoin := h.addJoin hq (writtenSource_of_allows hsource) (by simp) hj
  rwa [Query.bind_nil] at hjoin

/-- A join on two columns, its source with values or without. -/
theorem joinOn (h : EditClosed r I) (hq : I p q) (kind : JoinKind) {source : Source}
    {vs : List Value} (first : String) {operator : String} (second : String)
    (hsource : WrittenSource r I source vs) (hvs : ∀ v ∈ vs, v.leaves = [v])
    (hoperator : r.raw operator []) :
    I p ((q.bind .joins vs).join kind source first operator second) :=
  h.addJoin hq hsource hvs ((JoinDraft.Grown.start h q kind source).on h hoperator)

end EditClosed

/-- A join inside a join binds nothing. -/
theorem JoinDraft.Grown.join (h : EditClosed r I) {connection : Connection} {source inner : Source}
    {j : JoinDraft} (hj : j.Grown I connection source) {first operator second : String}
    (hinner : r.AllowsSource inner) (hoperator : r.raw operator []) :
    (j.join inner first operator second).Grown I connection source where
  onSource := hj.onSource
  onConnection := hj.onConnection
  run := by
    have hsource : WrittenSource r I inner [] := writtenSource_of_allows hinner
    have hjoin := h.joinOn hj.run .inner first second hsource (by simp) hoperator
    rwa [Query.bind_nil] at hjoin
  only := by
    intro c hc
    show (j.inner.bindings.extend .joins []).get c = []
    rw [Bindings.get_extend]
    split <;> simp [hj.only c hc]

namespace EditClosed

variable {p q q' : Query}

/-! ## Clauses that embed a sub-query -/

theorem selectSub (h : EditClosed r I) (hq : I p q) {s : Subquery} {label : String}
    (hs : s.Written r I q.fresh) (hq' : q.selectSub s label = .ok q') : I p q' := by
  obtain ⟨⟨sql, vs⟩, htext, hq'⟩ := bind_eq_ok.mp hq'
  exact Except.ok.inj hq' ▸ h.column hq (.labelled q.dialect label (hs.text htext))

/-- A sub-query as the source, where the source may be replaced. -/
theorem fromSub (h : EditClosed r I) (hq : I p q) {s : Subquery} {label : String}
    (hs : s.Written r I q.fresh) (hreplacing : r.AllowsReplacing q)
    (hq' : q.fromSub s label = .ok q') : I p q' := by
  obtain ⟨⟨sql, vs⟩, htext, hq'⟩ := bind_eq_ok.mp hq'
  exact Except.ok.inj hq' ▸ h.source hq (.labelled q.dialect label (hs.text htext)) hreplacing

/-- A sub-query to sort by; its values are filed with those of the orderings. -/
theorem orderBySub (h : EditClosed r I) (hq : I p q) {s : Subquery} {direction : Direction}
    (hs : s.Written r I q.fresh) (hq' : q.orderBySub s direction = .ok q') : I p q' := by
  obtain ⟨⟨sql, vs⟩, htext, hq'⟩ := bind_eq_ok.mp hq'
  have hkey := h.order hq (.column direction (.sub (hs.text htext)))
  -- the operation files the values before it adds the ordering
  rw [← Query.addSortKey_bind] at hkey
  exact Except.ok.inj hq' ▸ hkey

/-- A further query of a union. -/
theorem unionSub (h : EditClosed r I) (hq : I p q) {all : Bool} {s : Subquery}
    (hs : s.Written r I q.fresh) (hq' : q.union all s = .ok q') : I p q' := by
  obtain ⟨other, hother, hq'⟩ := bind_eq_ok.mp hq'
  obtain ⟨c, hc⟩ := hs.build hother
  exact Except.ok.inj hq' ▸ h.union all hq hc

/-- A sub-query that is joined binds its values before the conditions of the join bind theirs. -/
theorem joinSub (h : EditClosed r I) (hq : I p q) {s : Subquery} {label : String} {kind : JoinKind}
    {first operator second : String} (hs : s.Written r I q.fresh) (hoperator : r.raw operator [])
    (hq' : q.joinSub s label kind first operator second = .ok q') : I p q' := by
  obtain ⟨⟨sql, vs⟩, htext, hq'⟩ := bind_eq_ok.mp hq'
  have hsub := hs.text htext
  have hsource := WrittenSource.labelled q.dialect label hsub
  exact Except.ok.inj hq' ▸ h.joinOn hq kind first second hsource hsub.spread hoperator

/-! ## Windows by cursor -/

/-- A page by cursor: orderings on the column are dropped, the bound is a condition, and the
ordering and the limit bind nothing. -/
theorem cursorPage (h : EditClosed r I) (hq : I p q) {size : Nat} {last : Option Value}
    {column operator : String} {direction : Direction}
    (hq' : q.cursorPage size last column operator direction = .ok q') : I p q' := by
  have hwithout := h.withoutOrdersBy column hq
  cases last with
  | none => exact Except.ok.inj hq' ▸ h.limit size (h.orderBy hwithout (.name column) direction)
  | some v =>
    -- the bound stands among the conditions, so its value is filed there
    obtain ⟨bounded, hbounded, hq'⟩ := bind_eq_ok.mp hq'
    have hvalue : (Comparand.value v).Written r I (q.withoutOrdersBy column).fresh := trivial
    have hrun := h.adds hwithout (Query.addsCondition_whereIs hvalue hbounded)
    exact Except.ok.inj hq' ▸ h.limit size (h.orderBy hrun (.name column) direction)

/-! ## Related rows -/

theorem table (h : EditClosed r I) (c : Connection) (name : String) :
    I (.on c) (.table c name) := by
  have hsource := h.source (h.refl (.on c)) (.table name) (.inr rfl)
  rwa [Query.bind_nil] at hsource

/-- The pivot table is joined by an operator that every dialect knows. -/
theorem joinPivot (h : EditClosed r I) (hq : I p q) (m : ManyToMany) : I p (m.joinPivot q) := by
  have hstart := JoinDraft.Grown.start h q .inner (.table m.pivotTable)
  have hpredicate : WrittenPredicate r I q.dialect
      (.compareColumns (.name (m.pivotTable ++ "." ++ m.relatedPivotKey)) "="
        (.name (m.table ++ "." ++ m.relatedKey))) [] :=
    .compareColumns (.name _) (knows_equals _) (.name _)
  have hgrown := hstart.adds h (Query.addsCondition_unbound .and hpredicate)
  exact h.addUnboundJoin hq (r.allowsSource_table _) hgrown

/-- Every condition on pivot rows is a condition. -/
theorem addsCondition_pivot {m : ManyToMany} {qualified : Bool} {condition : PivotCondition}
    (hcondition : r.AllowsPivot condition) (hq' : m.addCondition qualified q condition = .ok q') :
    q.AddsCondition r I q' := by
  cases condition with
  | compare column operator value =>
    have hvalue : (Comparand.operand value).Written r I q.fresh := hcondition
    exact Query.addsCondition_whereIs hvalue hq'
  | isIn column values negated =>
    have hvalues : (Candidates.operands values).Written r I q.fresh := hcondition
    exact Query.addsCondition_whereIn (r.allowsColumn_name _) hvalues hq'
  | between column low high negated =>
    obtain ⟨hlow, hhigh⟩ := hcondition
    exact Except.ok.inj hq' ▸ Query.addsCondition_whereBetween (r.allowsColumn_name _) hlow hhigh
  | isNull column negated =>
    exact Except.ok.inj hq' ▸ Query.addsCondition_whereNull (r.allowsColumn_name _)

theorem addPivotConditions (h : EditClosed r I) (hq : I p q) {m : ManyToMany} {qualified : Bool}
    (hm : ∀ c ∈ m.conditions, r.AllowsPivot c) (hq' : m.addConditions qualified q = .ok q') :
    I p q' :=
  foldlM_keeps (fun _ c _ hc hb hb' => h.adds hb (addsCondition_pivot (hm c hc) hb')) hq hq'

/-- The query for related rows, tied to the row around it. -/
theorem correlate (h : EditClosed r I) (hq : I p q) {l : Link} {outer : String}
    (hl : r.AllowsLink l) (hq' : l.correlate outer q = .ok q') : I p q' := by
  have hname := r.allowsColumn_name
  cases l with
  | hasOne table foreignKey localKey =>
    exact h.adds hq (Query.addsCondition_compareColumns (hname _) (hname _) hq')
  | hasMany table foreignKey localKey =>
    exact h.adds hq (Query.addsCondition_compareColumns (hname _) (hname _) hq')
  | belongsTo table foreignKey ownerKey =>
    exact h.adds hq (Query.addsCondition_compareColumns (hname _) (hname _) hq')
  | belongsToMany m =>
    obtain ⟨joined, hjoined, hq'⟩ := bind_eq_ok.mp hq'
    have hconditions := h.addPivotConditions (h.joinPivot hq m) hl hjoined
    exact h.adds hconditions (Query.addsCondition_compareColumns (hname _) (hname _) hq')

/-- A query without columns gets all columns of its source. -/
theorem selectAllIfNone (h : EditClosed r I) (hq : I p q) :
    I p (if q.columns.isEmpty then { q with columns := [.name (q.qualifier ++ ".*")] } else q) := by
  split
  · next hempty =>
    have hcolumn := h.column hq (.name (q.qualifier ++ ".*"))
    rw [Query.bind_nil] at hcolumn
    unfold Query.addSelect at hcolumn
    rwa [List.isEmpty_iff.mp hempty] at hcolumn
  · exact hq

/-- An aggregate over related rows: a correlated sub-query among the columns. -/
theorem relationAggregate (h : EditClosed r I) (hq : I p q) {name : String} {l : Link}
    {related : Except Error Query} {function column : String} (hl : r.AllowsLink l)
    (hrelated : ∀ sub, related = .ok sub → ∃ c, I (.on c) sub)
    (hfunction : r.raw function [] ∨ function = "count")
    (hq' : q.relationAggregate name l related function column = .ok q') : I p q' := by
  obtain ⟨rows, hrows, hq'⟩ := bind_eq_ok.mp hq'
  obtain ⟨sub, hsub, hq'⟩ := bind_eq_ok.mp hq'
  obtain ⟨c, hc⟩ := hrelated rows hrows
  -- the rows are correlated first, then their columns are replaced by the aggregate
  have hcorrelated := h.correlate hc hl hsub
  have hselected : I (.on c) (sub.select [.raw (q.dialect.ifNull
      (function ++ "(" ++ q.dialect.quoteName (Query.relatedColumn l column) ++ ")") "0")]) := by
    refine h.select hcorrelated fun e he => ?_
    rw [List.mem_singleton.mp he]
    exact .call q.dialect _ hfunction
  exact h.selectSub (h.selectAllIfNone hq) (Subquery.written_query hselected) hq'

/-- A count of related rows is one condition, a test for rows or a comparison with a sub-query on
the left. -/
theorem addsCondition_has (h : EditClosed r I) {connector : Connector} {l : Link}
    {related : Except Error Query} {operator : String} {count : Int} (hl : r.AllowsLink l)
    (hrelated : ∀ sub, related = .ok sub → ∃ c, I (.on c) sub)
    (hq' : q.has connector l related operator count = .ok q') : q.AddsCondition r I q' := by
  obtain ⟨o, ho, hq'⟩ := bind_eq_ok.mp hq'
  obtain ⟨rows, hrows, hq'⟩ := bind_eq_ok.mp hq'
  obtain ⟨sub, hsub, hq'⟩ := bind_eq_ok.mp hq'
  obtain ⟨c, hc⟩ := hrelated rows hrows
  have hcorrelated := h.correlate hc hl hsub
  split at hq'
  · next negated _ => exact Except.ok.inj hq' ▸ .one connector (.exists negated hcorrelated)
  · -- where one row does not decide, the rows are counted by a sub-query on the left
    have hselected : I (.on c) (sub.select [.raw "count(*)"]) := by
      refine h.select hcorrelated fun e he => ?_
      rw [List.mem_singleton.mp he]
      exact .countAll
    have hsub : (Subquery.query (sub.select [.raw "count(*)"])).Written r I q.fresh :=
      Subquery.written_query hselected
    have hvalue : (Comparand.value (.ofInt count)).Written r I q.fresh := trivial
    exact Query.addsCondition_compare (.query (.query _)) (some o) hsub hvalue hq'

/-- The complement of a count is one condition too. -/
theorem addsCondition_hasNot (h : EditClosed r I) {l : Link} {related : Except Error Query}
    {operator : String} {count : Int} (hl : r.AllowsLink l)
    (hrelated : ∀ sub, related = .ok sub → ∃ c, I (.on c) sub)
    (hq' : q.hasNot l related operator count = .ok q') : q.AddsCondition r I q' := by
  obtain ⟨inverse, _, hq'⟩ := bind_eq_ok.mp hq'
  exact h.addsCondition_has hl hrelated hq'

end EditClosed

end QueryBuilder
