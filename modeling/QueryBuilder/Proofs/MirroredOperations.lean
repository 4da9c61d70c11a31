import QueryBuilder.Proofs.MirroredConditions
import QueryBuilder.Relation.Correlated

/-!
# Joins, sub-queries, cursors and relations on a query and on its mirror image

The operations that are more than one condition.

- `JoinDraft.Mirrors`: joins whose conditions grow on queries in relation.
- `Query.Mirrors.selectSub`, `Query.Mirrors.fromSub` and so on: a sub-query is written when the
  operation runs, each in the dialect of its own query, and the label beside it in that of the outer
  query.
- `Query.Mirrors.correlate`: the qualifier of the outer query is read back out of its source, where
  it may have been quoted.
-/

namespace QueryBuilder

/-! ## Joins -/

/-- Joins of the same kind whose conditions grow on queries in relation. -/
structure JoinDraft.Mirrors (c : Connection) (j j' : JoinDraft) : Prop where
  kind : j'.kind = j.kind
  source : j.source.Mirrors j'.source
  inner : j.inner.Mirrors c j'.inner

/-- The columns and the raw text of a comparison in a join have no quotation marks of their own. -/
structure UnmarkedOn (first operator second : String) : Prop where
  first : Unmarked first
  operator : Unmarked operator
  second : Unmarked second

section Joins

variable {c : Connection} {q q' : Query} {j j' : JoinDraft} {first operator second : String}

namespace JoinDraft.Mirrors

theorem start (hq : q.Mirrors c q') (kind : JoinKind) {s s' : Source} (hs : s.Mirrors s') :
    (q.draftJoin kind s).Mirrors c (q'.draftJoin kind s') :=
  ⟨rfl, hs, hq.fresh⟩

/-- A comparison of two columns; its operator is stored as it is given, so it must have no marks
of its own. -/
theorem on (hj : j.Mirrors c j') (connector : Connector) (hon : UnmarkedOn first operator second) :
    (j.on connector first operator second).Mirrors c (j'.on connector first operator second) := by
  have hfirst : (Column.name first).Mirrors (.name first) := .name (.of_unmarked hon.first)
  have hsecond : (Column.name second).Mirrors (.name second) := .name (.of_unmarked hon.second)
  have hpredicate := compositional_respelled.compareColumns hfirst.text (.of_unmarked hon.operator)
    hsecond.text
  exact { hj with inner := hj.inner.addWhere connector hpredicate }

/-- A group in a join, of mirrored conditions. -/
theorem group (hj : j.Mirrors c j') (connector : Connector)
    {build build' : JoinDraft → Except Error JoinDraft}
    (hbuild : ∀ start start', start.Mirrors c start' →
      EndsAlike (JoinDraft.Mirrors c) (build start) (build' start')) :
    EndsAlike (JoinDraft.Mirrors c) (j.group connector build) (j'.group connector build') := by
  have hstart : JoinDraft.Mirrors c { j with inner := j.inner.fresh }
      { j' with inner := j'.inner.fresh } :=
    ⟨hj.kind, hj.source, hj.inner.fresh⟩
  refine (hbuild _ _ hstart).bind fun nested nested' hnested => ?_
  rw [hnested.inner.members.wheres_isEmpty]
  split
  · exact .ok hj
  · have hmerged := hj.inner.mergeBindings hnested.inner
    have hgroup := compositional_respelled.group hnested.inner.members.wheres
    exact .ok { hj with inner := hmerged.addWhere connector hgroup }

/-- A comparison with a value in a join, its operator checked. -/
theorem compare (hj : j.Mirrors c j') (connector : Connector) {column operator : String}
    (hcolumn : Unmarked column) (hoperator : SharedOperator operator) {value value' : Comparand}
    (hvalue : value.Mirrors c value') :
    EndsAlike (JoinDraft.Mirrors c) (j.compare connector column operator value)
      (j'.compare connector column operator value') := by
  have hcompared := hj.inner.compareSome connector
    (.column (.name (.of_unmarked hcolumn))) hoperator hvalue
  exact hcompared.bind fun _ _ hinner => .ok { hj with inner := hinner }

theorem whereNull (hj : j.Mirrors c j') (negated : Bool) {column : String}
    (hcolumn : Unmarked column) :
    (j.whereNull negated column).Mirrors c (j'.whereNull negated column) := by
  exact { hj with inner := hj.inner.whereNull .and negated (Column.unmarked_name hcolumn) }

/-- Candidates in a join. -/
theorem whereIn (hj : j.Mirrors c j') {column : String} (hcolumn : Unmarked column)
    {candidates candidates' : Candidates} (hcandidates : candidates.Mirrors c candidates') :
    EndsAlike (JoinDraft.Mirrors c) (j.whereIn column candidates)
      (j'.whereIn column candidates') := by
  have hname := Column.unmarked_name hcolumn
  refine (hj.inner.whereIn .and false hname hcandidates).bind fun inner inner' hinner => ?_
  exact .ok { hj with inner := hinner }

end JoinDraft.Mirrors

namespace Query.Mirrors

/-- A finished join becomes part of the query. -/
theorem addJoin (hq : q.Mirrors c q') (hj : j.Mirrors c j') :
    (q.addJoin j).Mirrors c (q'.addJoin j') := by
  obtain ⟨_, s, inner⟩ := j
  obtain ⟨kind, s', inner'⟩ := j'
  obtain ⟨rfl, hsource, hinner⟩ := hj
  have hvalues : inner'.values = inner.values := hinner.values
  have hbound := hq.bind .joins inner.values
  have hmembers := hq.members.addJoin compositional_respelled kind hsource.text hinner.members
  unfold Query.addJoin at hmembers ⊢
  rw [hvalues] at hmembers ⊢
  exact { hbound with members := hmembers }

theorem join (hq : q.Mirrors c q') (kind : JoinKind) {s s' : Source} (hs : s.Mirrors s')
    (hon : UnmarkedOn first operator second) :
    (q.join kind s first operator second).Mirrors c (q'.join kind s' first operator second) :=
  hq.addJoin ((JoinDraft.Mirrors.start hq kind hs).on .and hon)

theorem crossJoin (hq : q.Mirrors c q') {s : Source} (hs : s.Unmarked) :
    (q.crossJoin s).Mirrors c (q'.crossJoin s) :=
  hq.addJoin (.start hq .cross hs.mirrors)

/-- A join whose conditions a closure builds. -/
theorem joinWith (hq : q.Mirrors c q') {s : Source} (hs : s.Unmarked) (kind : JoinKind)
    {build build' : JoinDraft → Except Error JoinDraft}
    (hbuild : ∀ start start', start.Mirrors c start' →
      EndsAlike (JoinDraft.Mirrors c) (build start) (build' start')) :
    EndsAlike (Mirrors c) (q.joinWith s kind build) (q'.joinWith s kind build') :=
  (hbuild _ _ (.start hq kind hs.mirrors)).bind fun _ _ hj => .ok (hq.addJoin hj)

/-- A join on a value. -/
theorem joinWhere (hq : q.Mirrors c q') (kind : JoinKind) {s : Source} (hs : s.Unmarked)
    (hfirst : Unmarked first) (hoperator : SharedOperator operator) {value value' : Comparand}
    (hvalue : value.Mirrors c value') :
    EndsAlike (Mirrors c) (q.joinWhere kind s first operator value)
      (q'.joinWhere kind s first operator value') := by
  have hstart := JoinDraft.Mirrors.start hq kind hs.mirrors
  exact (hstart.compare .and hfirst hoperator hvalue).bind fun _ _ hj => .ok (hq.addJoin hj)

end Query.Mirrors

theorem JoinDraft.Mirrors.join (hj : j.Mirrors c j') {s : Source} (hs : s.Unmarked)
    (hon : UnmarkedOn first operator second) :
    (j.join s first operator second).Mirrors c (j'.join s first operator second) :=
  { hj with inner := hj.inner.join .inner hs.mirrors hon }

end Joins

/-! ## Clauses that embed a sub-query -/

namespace Query.Mirrors

variable {c : Connection} {q q' : Query} {s s' : Subquery} {label : String}

/-- A sub-query among the columns, its label quoted by the outer query. -/
theorem selectSub (hq : q.Mirrors c q') (hs : s.Mirrors c s') (hlabel : Unmarked label) :
    EndsAlike (Mirrors c) (q.selectSub s label) (q'.selectSub s' label) := by
  refine (hs.text hq).bind ?_
  rintro ⟨sql, vs⟩ ⟨sql', vs'⟩ ⟨hsql, rfl⟩
  rw [hq.dialect, hq.dialect']
  have hquoted := respelled_quote (.of_unmarked hlabel)
  exact .ok (hq.selectRaw (compositional_respelled.labelled hsql hquoted) vs')

/-- A sub-query as the source, its label quoted by the outer query. -/
theorem fromSub (hq : q.Mirrors c q') (hs : s.Mirrors c s') (hlabel : Unmarked label) :
    EndsAlike (Mirrors c) (q.fromSub s label) (q'.fromSub s' label) := by
  refine (hs.text hq).bind ?_
  rintro ⟨sql, vs⟩ ⟨sql', vs'⟩ ⟨hsql, rfl⟩
  rw [hq.dialect, hq.dialect']
  have hquoted := respelled_quoteName (.of_unmarked hlabel)
  exact .ok (hq.fromRaw (compositional_respelled.labelled hsql hquoted) vs')

/-- A sub-query that is joined, its label quoted by the outer query. -/
theorem joinSub (hq : q.Mirrors c q') (hs : s.Mirrors c s') (hlabel : Unmarked label)
    (kind : JoinKind) {first operator second : String} (hon : UnmarkedOn first operator second) :
    EndsAlike (Mirrors c) (q.joinSub s label kind first operator second)
      (q'.joinSub s' label kind first operator second) := by
  refine (hs.text hq).bind ?_
  rintro ⟨sql, vs⟩ ⟨sql', vs'⟩ ⟨hsql, rfl⟩
  rw [hq.dialect, hq.dialect']
  have hquoted := respelled_quoteName (.of_unmarked hlabel)
  have hsource := compositional_respelled.labelled hsql hquoted
  exact .ok ((hq.bind .joins vs').join kind (.raw hsource) hon)

/-- A sub-query to sort by. -/
theorem orderBySub (hq : q.Mirrors c q') (hs : s.Mirrors c s') (direction : Direction) :
    EndsAlike (Mirrors c) (q.orderBySub s direction) (q'.orderBySub s' direction) := by
  refine (hs.text hq).bind ?_
  rintro ⟨sql, vs⟩ ⟨sql', vs'⟩ ⟨hsql, rfl⟩
  rw [hq.orderClause]
  exact .ok ((hq.bind q.orderClause vs').orderBy (.raw hsql.parenthesized) direction)

theorem unionSub (hq : q.Mirrors c q') (all : Bool) (hs : s.Mirrors c s') :
    EndsAlike (Mirrors c) (q.union all s) (q'.union all s') :=
  (hs.build hq).bind fun _ _ hsub => .ok (hq.union all hsub)

/-! ## Windows by cursor -/

/-- A page by cursor, with the bound on the column or without one. -/
theorem cursorPage (hq : q.Mirrors c q') (size : Nat) (last : Option Value)
    {column operator : String} (hcolumn : Unmarked column) (hoperator : SharedOperator operator)
    (direction : Direction) :
    EndsAlike (Mirrors c) (q.cursorPage size last column operator direction)
      (q'.cursorPage size last column operator direction) := by
  -- old orderings on the column go first, the same ones on both sides
  have hwithout := hq.withoutOrdersBy hcolumn
  have hname : (Column.name column).Mirrors (.name column) := .name (.of_unmarked hcolumn)
  cases last with
  | none => exact .ok ((hwithout.orderBy hname direction).limit size)
  | some v =>
    have hvalue : (Comparand.value v).Mirrors c (.value v) := .operand trivial
    refine (hwithout.whereIs hcolumn hoperator hvalue).bind fun bounded bounded' hbounded => ?_
    exact .ok ((hbounded.orderBy hname direction).limit size)

end Query.Mirrors

/-! ## Related rows -/

/-- A condition on a pivot table without quotation marks, and without the operator of a single
dialect. -/
def PivotCondition.Portable : PivotCondition → Prop
  | compare column operator value => Unmarked column ∧ SharedOperator operator ∧ value.Unmarked
  | isIn column values _ => Unmarked column ∧ ∀ o ∈ values, o.Unmarked
  | between column low high _ => Unmarked column ∧ low.Unmarked ∧ high.Unmarked
  | isNull column _ => Unmarked column

/-- The names of a pivot table and of its columns, and the conditions on it. The orderings are read
by loading only. -/
structure ManyToMany.Portable (m : ManyToMany) : Prop where
  table : Unmarked m.table
  pivotTable : Unmarked m.pivotTable
  foreignPivotKey : Unmarked m.foreignPivotKey
  relatedPivotKey : Unmarked m.relatedPivotKey
  localKey : Unmarked m.localKey
  relatedKey : Unmarked m.relatedKey
  conditions : ∀ condition ∈ m.conditions, condition.Portable

/-- The names that a link ties rows by, and its conditions. -/
def Link.Portable : Link → Prop
  | hasOne table foreignKey localKey => Unmarked table ∧ Unmarked foreignKey ∧ Unmarked localKey
  | hasMany table foreignKey localKey => Unmarked table ∧ Unmarked foreignKey ∧ Unmarked localKey
  | belongsTo table foreignKey ownerKey => Unmarked table ∧ Unmarked foreignKey ∧ Unmarked ownerKey
  | belongsToMany through => through.Portable

/-- The table of related rows has no marks in its name. -/
theorem Link.Portable.table {l : Link} (hl : l.Portable) : Unmarked l.table := by
  cases l with
  | hasOne table foreignKey localKey => exact hl.1
  | hasMany table foreignKey localKey => exact hl.1
  | belongsTo table foreignKey ownerKey => exact hl.1
  | belongsToMany through => exact ManyToMany.Portable.table hl

/-- A column with its table in front has no marks if neither has. -/
theorem unmarked_dotted {table column : String} (htable : Unmarked table)
    (hcolumn : Unmarked column) : Unmarked (table ++ "." ++ column) := by
  intro ch hch
  rw [String.toList_append, String.toList_append, List.mem_append, List.mem_append] at hch
  rcases hch with (hch | hch) | hch
  · exact htable ch hch
  · rw [show ch = '.' by simpa using hch]
    decide
  · exact hcolumn ch hch

/-- The operator of the complement of a count is one that all dialects know. -/
theorem sharedOperator_inverse {operator inverse : String}
    (h : inverseOperator operator = .ok inverse) : SharedOperator inverse := by
  have hmem : inverse ∈ Dialect.sharedOperators := by
    unfold inverseOperator at h
    split at h <;> cases h <;> decide
  exact sharedOperator_of_mem hmem

namespace Query.Mirrors

variable {c : Connection} {q q' : Query}

theorem table (c : Connection) {name : String} (hname : Unmarked name) :
    Mirrors c (.table { c with dialect := .mysql } name)
      (.table { c with dialect := .sqlite } name) :=
  onSource c (.some (.table (.of_unmarked hname)))

/-- The pivot table is joined on the key of the related rows. -/
theorem joinPivot (hq : q.Mirrors c q') {m : ManyToMany} (hm : m.Portable) :
    (m.joinPivot q).Mirrors c (m.joinPivot q') := by
  have hon : UnmarkedOn (m.pivotTable ++ "." ++ m.relatedPivotKey) "="
      (m.table ++ "." ++ m.relatedKey) :=
    ⟨unmarked_dotted hm.pivotTable hm.relatedPivotKey, by decide,
      unmarked_dotted hm.table hm.relatedKey⟩
  exact hq.join .inner (.table (.of_unmarked hm.pivotTable)) hon

/-- A condition on the pivot rows, one case for each kind. -/
theorem addPivotCondition (hq : q.Mirrors c q') {m : ManyToMany} (hm : m.Portable)
    {condition : PivotCondition} (hcondition : condition.Portable) :
    EndsAlike (Mirrors c) (m.addCondition true q condition) (m.addCondition true q' condition) := by
  -- the column is qualified by the pivot table
  cases condition with
  | compare column operator value =>
    obtain ⟨hcolumn, hoperator, hvalue⟩ := hcondition
    exact hq.whereIs (unmarked_dotted hm.pivotTable hcolumn) hoperator (.operand hvalue)
  | isIn column values negated =>
    obtain ⟨hcolumn, hvalues⟩ := hcondition
    have hname := Column.unmarked_name (unmarked_dotted hm.pivotTable hcolumn)
    exact hq.whereIn .and negated hname (.operands hvalues)
  | between column low high negated =>
    obtain ⟨hcolumn, hlow, hhigh⟩ := hcondition
    have hname := Column.unmarked_name (unmarked_dotted hm.pivotTable hcolumn)
    exact .ok (hq.whereBetween .and negated hname hlow hhigh)
  | isNull column negated =>
    have hname := Column.unmarked_name (unmarked_dotted hm.pivotTable hcondition)
    exact .ok (hq.whereNull .and negated hname)

/-- The conditions on the pivot rows, in their order. -/
theorem addPivotConditions (hq : q.Mirrors c q') {m : ManyToMany} (hm : m.Portable) :
    EndsAlike (Mirrors c) (m.addConditions true q) (m.addConditions true q') := by
  have hsame : List.Forall₂ (fun a b => b = a ∧ a.Portable) m.conditions m.conditions :=
    List.forall₂_same.mpr fun condition h => ⟨rfl, hm.conditions condition h⟩
  refine EndsAlike.foldlM ?_ hsame hq
  rintro next next' condition _ hnext ⟨rfl, hcondition⟩
  exact hnext.addPivotCondition hm hcondition

/-- A column of the related table is compared with a key of the outer query. -/
theorem compareKeys (hq : q.Mirrors c q') {outer outer' table column key : String}
    (houter : Respelled outer outer') (htable : Unmarked table) (hcolumn : Unmarked column)
    (hkey : Unmarked key) :
    EndsAlike (Mirrors c)
      (q.compareColumns .and (.name (table ++ "." ++ column)) "=" (.name (outer ++ "." ++ key)))
      (q'.compareColumns .and (.name (table ++ "." ++ column)) "="
        (.name (outer' ++ "." ++ key))) := by
  have hdot : Bare "." := by decide
  have hright : Respelled (outer ++ "." ++ key) (outer' ++ "." ++ key) :=
    compositional_respelled.around houter hdot (.of_unmarked hkey)
  exact hq.compareColumns .and (.name (.of_unmarked (unmarked_dotted htable hcolumn)))
    sharedOperator_equals (.name hright)

/-- The query for related rows, tied to the current row of the query around it. -/
theorem correlate (hq : q.Mirrors c q') {l : Link} (hl : l.Portable) {outer outer' : String}
    (houter : Respelled outer outer') :
    EndsAlike (Mirrors c) (l.correlate outer q) (l.correlate outer' q') := by
  cases l with
  | hasOne table foreignKey localKey => exact hq.compareKeys houter hl.1 hl.2.1 hl.2.2
  | hasMany table foreignKey localKey => exact hq.compareKeys houter hl.1 hl.2.1 hl.2.2
  | belongsTo table foreignKey ownerKey => exact hq.compareKeys houter hl.1 hl.2.2 hl.2.1
  | belongsToMany m =>
    have hm : m.Portable := hl
    refine ((hq.joinPivot hm).addPivotConditions hm).bind fun joined joined' hjoined => ?_
    exact hjoined.compareKeys houter hm.pivotTable hm.foreignPivotKey hm.localKey

/-- A condition that counts related rows: a test for rows where the count only asks for some or
for none, else a comparison with the count. -/
theorem has (hq : q.Mirrors c q') (connector : Connector) {l : Link} (hl : l.Portable)
    {related related' : Except Error Query} (hrelated : EndsAlike (Mirrors c) related related')
    {operator : String} (hoperator : SharedOperator operator) (count : Int) :
    EndsAlike (Mirrors c) (q.has connector l related operator count)
      (q'.has connector l related' operator count) := by
  refine (hq.checkedOperator hoperator).bind ?_
  rintro _ o ⟨rfl, hmem⟩
  refine hrelated.bind fun rows rows' hrows => ?_
  refine (hrows.correlate hl hq.qualifier).bind fun sub sub' hsub => ?_
  cases noneForm? o count with
  | some negated => exact .ok (hq.addExists connector negated hsub)
  | none =>
    -- where one row does not decide, the rows are counted by a sub-query on the left
    have hcount : Respelled "count(*)" "count(*)" := .of_unmarked (by decide)
    have hcounted := hsub.select (respelled_rawColumn hcount)
    have hvalue : (Comparand.value (.ofInt count)).Mirrors c (.value (.ofInt count)) :=
      .operand trivial
    exact hq.compareSome connector (.query (.query hcounted)) (sharedOperator_of_mem hmem) hvalue

theorem lacks (hq : q.Mirrors c q') (connector : Connector) {l : Link} (hl : l.Portable)
    {related related' : Except Error Query} (hrelated : EndsAlike (Mirrors c) related related') :
    EndsAlike (Mirrors c) (q.lacks connector l related) (q'.lacks connector l related') :=
  hq.has connector hl hrelated (by decide) 1

/-- The complement of a count. An operator without a complement is refused on both sides. -/
theorem hasNot (hq : q.Mirrors c q') {l : Link} (hl : l.Portable)
    {related related' : Except Error Query} (hrelated : EndsAlike (Mirrors c) related related')
    (operator : String) (count : Int) :
    EndsAlike (Mirrors c) (q.hasNot l related operator count)
      (q'.hasNot l related' operator count) := by
  refine (EndsAlike.same (inverseOperator operator)).bind ?_
  rintro _ inverse ⟨rfl, hinverse⟩
  exact hq.has .and hl hrelated (sharedOperator_inverse hinverse) count

end Query.Mirrors

end QueryBuilder
