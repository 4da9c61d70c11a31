import QueryBuilder.Proofs.Edits

/-!
# Conditions as edits

Every operation that adds a condition, of whatever shape, adds one predicate and files its values
under the conditions, or does nothing.

Hence a property that survives one such addition survives all of these operations, and later modules
need not look into them. The shape also says which predicate is added, for the properties that
depend on it.

- `Subquery.Written`, `Comparand.Written` and their kin: what an argument of an operation stands for
  has been built by the rules. A closure is judged on the query that the operation hands it.
- `Query.AddsCondition`: the shape of every operation on conditions.
- `addsCondition_compare`, `addsCondition_rows` and so on: one lemma for each operation.
-/

namespace QueryBuilder

/-! ## Computations that end well -/

/-- A computation in two steps ends well exactly if both do. -/
theorem bind_eq_ok {ε α β : Type} {x : Except ε α} {f : α → Except ε β} {b : β} :
    x >>= f = .ok b ↔ ∃ a, x = .ok a ∧ f a = .ok b := by
  cases x with
  | error e => simp [bind, Except.bind]
  | ok a => simp [bind, Except.bind]

/-- What each step of a fold keeps is kept by a fold that ends well. -/
theorem foldlM_keeps {ε α β : Type} {f : β → α → Except ε β} {P : β → Prop} {as : List α}
    (hstep : ∀ b a b', a ∈ as → P b → f b a = .ok b' → P b') :
    ∀ {b b' : β}, P b → as.foldlM f b = .ok b' → P b' := by
  induction as with
  | nil =>
    intro b b' hb h
    rw [List.foldlM_nil] at h
    exact Except.ok.inj h ▸ hb
  | cons a as ih =>
    intro b b' hb h
    rw [List.foldlM_cons] at h
    obtain ⟨c, hc, hrest⟩ := bind_eq_ok.mp h
    have hnext := hstep b a c List.mem_cons_self hb hc
    exact ih (fun b a b' ha => hstep b a b' (List.mem_cons_of_mem _ ha)) hnext hrest

/-! ## Arguments -/

section Written

variable (r : Rules) (I : Query → Query → Prop)

/-- What a sub-query stands for was built by the rules; a closure is handed the query `start`. -/
def Subquery.Written (start : Query) : Subquery → Prop
  | .query sub => ∃ c, I (.on c) sub
  | .closure build => ∀ sub, build start = .ok sub → I start sub
  | .sql text => r.raw text []

/-- The right side of a comparison was built by the rules. -/
def Comparand.Written (start : Query) : Comparand → Prop
  | .operand o => r.AllowsOperand o
  | .query s => s.Written r I start

/-- The left side of a comparison was built by the rules. -/
def Subject.Written (start : Query) : Subject → Prop
  | .column c => r.AllowsColumn c
  | .query s => s.Written r I start

/-- The candidates were built by the rules. -/
def Candidates.Written (start : Query) : Candidates → Prop
  | .operands os => ∀ o ∈ os, r.AllowsOperand o
  | .query s => s.Written r I start

/-- A condition row was built by the rules. A single element is a group on the query's source. -/
def RowWritten (q : Query) : List Comparand → Prop
  | [] => True
  | [c] => c.Written r I q.freshOnSource
  | row => ∀ c ∈ row, c.Written r I q.fresh

/-- A query has gained one condition, its values filed under the conditions, or is what it was. -/
inductive Query.AddsCondition (q : Query) : Query → Prop
  | same : AddsCondition q q
  | one (connector : Connector) {predicate : Predicate} {vs : List Value} :
    WrittenPredicate r I q.dialect predicate vs →
      AddsCondition q ((q.bind .wheres vs).addWhere connector predicate)

/-- A way to take condition rows adds conditions. -/
def ReadingAdds (reading : Query.RowReading) : Prop :=
  ∀ {q q' : Query} (connector : Connector) {subject : Subject} (operator : String)
    {value : Comparand}, subject.Written r I q.fresh → value.Written r I q.fresh →
      reading q connector subject operator value = .ok q' → q.AddsCondition r I q'

end Written

variable {r : Rules} {I : Query → Query → Prop}

/-- A column that the rules allow may be written, and it binds nothing. -/
theorem writtenColumn_of_allows {c : Column} (h : r.AllowsColumn c) : WrittenColumn r I c [] := by
  cases c with
  | name s => exact .name s
  | raw sql => exact .raw h

/-- A source that the rules allow may be written, and it binds nothing. -/
theorem writtenSource_of_allows {s : Source} (h : r.AllowsSource s) : WrittenSource r I s [] := by
  cases s with
  | table s => exact .table s
  | raw sql => exact .raw h

theorem Subquery.written_query {c : Connection} {sub start : Query} (h : I (.on c) sub) :
    (Subquery.query sub).Written r I start := ⟨c, h⟩

namespace Subquery.Written

variable {s : Subquery} {q sub : Query}

/-- What a sub-query is built to has come about in a run of its own, on whichever connection. -/
theorem build (h : s.Written r I q.fresh) (hb : s.build q = .ok sub) : ∃ c, I (.on c) sub := by
  cases s with
  | query q' => exact Except.ok.inj hb ▸ h
  | closure f => exact ⟨q.connection, h sub hb⟩
  | sql text => exact nomatch hb

/-- What a sub-query is written as, with its values, stands for a query that was built so or for a
raw text that the rules allow. -/
theorem text (h : s.Written r I q.fresh) {sql : String} {vs : List Value}
    (ht : s.text q = .ok (sql, vs)) : WrittenSub r I sql vs := by
  cases s with
  | sql text =>
    obtain ⟨rfl, rfl⟩ := Prod.mk.inj (Except.ok.inj ht)
    exact .raw h
  | query q' =>
    obtain ⟨sub, hb, ht⟩ := bind_eq_ok.mp ht
    obtain ⟨rfl, rfl⟩ := Prod.mk.inj (Except.ok.inj ht)
    obtain ⟨c, hc⟩ := build (s := .query q') h hb
    exact .query hc
  | closure f =>
    obtain ⟨sub, hb, ht⟩ := bind_eq_ok.mp ht
    obtain ⟨rfl, rfl⟩ := Prod.mk.inj (Except.ok.inj ht)
    obtain ⟨c, hc⟩ := build (s := .closure f) h hb
    exact .query hc

end Subquery.Written

/-- The first element of a condition row, read as the left side of a condition. -/
theorem Comparand.Written.subject {c : Comparand} {start : Query} {s : Subject}
    (h : c.Written r I start) (hs : c.subject = .ok s) : s.Written r I start := by
  unfold Comparand.subject at hs
  split at hs
  · exact Except.ok.inj hs ▸ trivial
  · exact Except.ok.inj hs ▸ h
  · exact Except.ok.inj hs ▸ h
  · exact nomatch hs

/-- An element of a condition row, read as a column. -/
theorem Comparand.Written.column {c : Comparand} {start : Query} {col : Column}
    (h : c.Written r I start) (hc : c.column = .ok col) : r.AllowsColumn col := by
  unfold Comparand.column at hc
  split at hc
  · exact Except.ok.inj hc ▸ trivial
  · exact Except.ok.inj hc ▸ h
  · exact nomatch hc

/-- A number compared with a part of a date becomes a text, and a raw text stays what it is. -/
theorem allowsOperand_datePartOperand {o : Operand} (h : r.AllowsOperand o) (part : DatePart) :
    r.AllowsOperand (Query.datePartOperand part o) := by
  cases o with
  | value v => trivial
  | raw sql => exact h

/-- A row was built for a query only as far as its connection and its source go. -/
theorem RowWritten.congr {q q' : Query} (hconnection : q'.connection = q.connection)
    (hsource : q'.source = q.source) {row : List Comparand} (h : RowWritten r I q row) :
    RowWritten r I q' row := by
  have hfresh : q'.fresh = q.fresh := by
    unfold Query.fresh
    rw [hconnection]
  have hfreshOnSource : q'.freshOnSource = q.freshOnSource := by
    unfold Query.freshOnSource
    rw [hfresh, hsource]
  unfold RowWritten at h ⊢
  rwa [hfresh, hfreshOnSource]

/-! ## Single conditions -/

namespace Query

variable {q q' : Query}

/-- A check that ends well gives an operator that the dialect knows. -/
theorem knows_of_checkedOperator {operator o : String} (h : q.checkedOperator operator = .ok o) :
    q.dialect.knows o = true := by
  unfold checkedOperator at h
  simp only at h
  split at h
  · next hknows => exact Except.ok.inj h ▸ hknows
  · exact nomatch h

/-- A predicate that binds nothing. -/
theorem addsCondition_unbound (connector : Connector) {predicate : Predicate}
    (h : WrittenPredicate r I q.dialect predicate []) :
    q.AddsCondition r I (q.addWhere connector predicate) := by
  have hone := AddsCondition.one connector h
  rwa [bind_nil] at hone

/-- A column that binds values of its own may be compared, once these are filed. -/
theorem addsCondition_compareColumn {connector : Connector} {column : Column} {vs : List Value}
    {operator : Option String} {value : Comparand} (hcolumn : WrittenColumn r I column vs)
    (hvalue : value.Written r I q.fresh)
    (h : (q.bind .wheres vs).compareColumn connector column operator value = .ok q') :
    q.AddsCondition r I q' := by
  unfold compareColumn at h
  split at h
  · -- neither operator nor value asks for null, and no operator is checked
    exact Except.ok.inj h ▸ .one connector (.isNull false hcolumn)
  · obtain ⟨o, ho, h⟩ := bind_eq_ok.mp h
    have hknows : q.dialect.knows o = true := knows_of_checkedOperator ho
    cases value with
    | query s =>
      -- the sub-query's values are filed behind those of the column
      obtain ⟨sub, hsub, h⟩ := bind_eq_ok.mp h
      rw [bind_bind] at h
      obtain ⟨c, hc⟩ := Subquery.Written.build (q := q) hvalue hsub
      exact Except.ok.inj h ▸ .one connector (.compareQuery hcolumn hknows hc)
    | operand operand =>
      simp only at h
      split at h
      · exact Except.ok.inj h ▸ .one connector (.isNull _ hcolumn)
      · rw [bind_bind] at h
        exact Except.ok.inj h ▸ .one connector (.compare hcolumn hknows hvalue)

/-- A group of conditions is one condition; the query it was built on may have a source. -/
theorem addsCondition_addGroup {connector : Connector} {c : Connection} (source : Option Source)
    {nested : Query} (h : I { Query.on c with source } nested) :
    q.AddsCondition r I (q.addGroup connector nested) := by
  unfold addGroup
  split
  · exact .same
  · exact .one connector (.group source h)

/-- The conditions that a closure makes are one group, on the source of the query. -/
theorem addsCondition_group {connector : Connector} {build : Query → Except Error Query}
    (hbuild : ∀ nested, build q.freshOnSource = .ok nested → I q.freshOnSource nested)
    (h : q.group connector build = .ok q') : q.AddsCondition r I q' := by
  obtain ⟨nested, hnested, h⟩ := bind_eq_ok.mp h
  exact Except.ok.inj h ▸ addsCondition_addGroup q.source (hbuild nested hnested)

/-- A comparison, whatever stands on its left: a column, a group of conditions where neither
operator nor value is given, or a sub-query in the place of a column. -/
theorem addsCondition_compare {connector : Connector} (subject : Subject)
    (operator : Option String) {value : Comparand}
    (hsubject : subject.Written r I
      (if operator.isNone && value.isNull then q.freshOnSource else q.fresh))
    (hvalue : value.Written r I q.fresh)
    (h : q.compare connector subject operator value = .ok q') : q.AddsCondition r I q' := by
  cases subject with
  | column c =>
    have hc : WrittenColumn r I c [] := writtenColumn_of_allows hsubject
    rw [← bind_nil q .wheres] at h
    exact addsCondition_compareColumn hc hvalue h
  | query s =>
    unfold compare at h
    simp only at h
    split at h
    · next hgroup =>
      -- a group of conditions, for which a closure is handed a query with the source
      rw [if_pos hgroup] at hsubject
      cases s with
      | closure build => exact addsCondition_group hsubject h
      | query nested =>
        obtain ⟨c, hc⟩ := hsubject
        exact Except.ok.inj h ▸ addsCondition_addGroup none hc
      | sql text => exact nomatch h
    · next hgroup =>
      -- the text of the sub-query is the column, and its values are filed first
      rw [if_neg hgroup] at hsubject
      obtain ⟨⟨sql, vs⟩, htext, h⟩ := bind_eq_ok.mp h
      exact addsCondition_compareColumn (.sub (hsubject.text htext)) hvalue h

theorem addsCondition_whereIs {column operator : String} {value : Comparand}
    (hvalue : value.Written r I q.fresh) (h : q.whereIs column operator value = .ok q') :
    q.AddsCondition r I q' :=
  addsCondition_compare (.column (.name column)) (some operator) trivial hvalue h

/-- A comparison of two columns, both without values. -/
theorem addsCondition_compareColumns {connector : Connector} {first second : Column}
    {operator : String} (hfirst : r.AllowsColumn first) (hsecond : r.AllowsColumn second)
    (h : q.compareColumns connector first operator second = .ok q') : q.AddsCondition r I q' := by
  obtain ⟨o, ho, h⟩ := bind_eq_ok.mp h
  have hknows := knows_of_checkedOperator ho
  exact Except.ok.inj h ▸ addsCondition_unbound connector
    (.compareColumns (writtenColumn_of_allows hfirst) hknows (writtenColumn_of_allows hsecond))

/-- Candidates file their values, a sub-query those that its text binds. -/
theorem addsCondition_whereIn {connector : Connector} {negated : Bool} {column : Column}
    {candidates : Candidates} (hcolumn : r.AllowsColumn column)
    (hcandidates : candidates.Written r I q.fresh)
    (h : q.whereIn connector negated column candidates = .ok q') : q.AddsCondition r I q' := by
  have hc : WrittenColumn r I column [] := writtenColumn_of_allows hcolumn
  cases candidates with
  | operands os => exact Except.ok.inj h ▸ .one connector (.isIn negated hc hcandidates)
  | query s =>
    -- the sub-query goes in as a text, for which the list of candidates has one raw member
    obtain ⟨⟨sql, vs⟩, htext, h⟩ := bind_eq_ok.mp h
    have hsub := Subquery.Written.text (q := q) hcandidates htext
    exact Except.ok.inj h ▸ .one connector (.isInSub negated hc hsub)

/-- A range between two operands files the values of both, the lower first. -/
theorem addsCondition_whereBetween {connector : Connector} {negated : Bool} {column : Column}
    {low high : Operand} (hcolumn : r.AllowsColumn column) (hlow : r.AllowsOperand low)
    (hhigh : r.AllowsOperand high) :
    q.AddsCondition r I (q.whereBetween connector negated column low high) :=
  .one connector (.between negated (writtenColumn_of_allows hcolumn) hlow hhigh)

theorem addsCondition_whereBetweenColumns {negated : Bool} {column low high : Column}
    (hcolumn : r.AllowsColumn column) (hlow : r.AllowsColumn low) (hhigh : r.AllowsColumn high) :
    q.AddsCondition r I (q.whereBetweenColumns negated column low high) :=
  addsCondition_unbound .and (.betweenColumns negated (writtenColumn_of_allows hcolumn)
    (writtenColumn_of_allows hlow) (writtenColumn_of_allows hhigh))

theorem addsCondition_whereNull {connector : Connector} {negated : Bool} {column : Column}
    (hcolumn : r.AllowsColumn column) :
    q.AddsCondition r I (q.whereNull connector negated column) :=
  addsCondition_unbound connector (.isNull negated (writtenColumn_of_allows hcolumn))

/-- A comparison with a part of a date, its operator checked. -/
theorem addsCondition_whereDatePart {connector : Connector} {part : DatePart} {column : Column}
    {operator : String} {value : Operand} (hcolumn : r.AllowsColumn column)
    (hvalue : r.AllowsOperand value)
    (h : q.whereDatePart connector part column operator value = .ok q') :
    q.AddsCondition r I q' := by
  obtain ⟨o, ho, h⟩ := bind_eq_ok.mp h
  have hknows := knows_of_checkedOperator ho
  have hoperand := allowsOperand_datePartOperand hvalue part
  exact Except.ok.inj h ▸
    .one connector (.datePart part (writtenColumn_of_allows hcolumn) hknows hoperand)

/-- A sub-query that is asked for rows only is kept as a tree. -/
theorem addsCondition_whereExists {connector : Connector} {negated : Bool} {s : Subquery}
    (hs : s.Written r I q.fresh) (h : q.whereExists connector negated s = .ok q') :
    q.AddsCondition r I q' := by
  obtain ⟨sub, hsub, h⟩ := bind_eq_ok.mp h
  obtain ⟨c, hc⟩ := hs.build hsub
  exact Except.ok.inj h ▸ .one connector (.exists negated hc)

/-! ## Rows and pairs -/

/-- Rows read as comparisons with values. -/
theorem readingAdds_compareRow : ReadingAdds r I compareRow := by
  intro q q' connector subject operator value hsubject hvalue h
  exact addsCondition_compare subject (some operator) hsubject hvalue h

/-- Rows read as comparisons of columns; there nothing but columns stands on the left. -/
theorem readingAdds_compareColumnRow : ReadingAdds r I compareColumnRow := by
  intro q q' connector subject operator value hsubject hvalue h
  cases subject with
  | column first =>
    obtain ⟨second, hsecond, h⟩ := bind_eq_ok.mp h
    exact addsCondition_compareColumns hsubject (hvalue.column hsecond) h
  | query s => exact nomatch h

/-- A row is a group, two or three elements without a connector, or four with one. Rows of other
lengths are refused. -/
theorem addsCondition_addRow {reading : RowReading} (hreading : ReadingAdds r I reading)
    {row : List Comparand} (hrow : RowWritten r I q row) (h : addRow reading q row = .ok q') :
    q.AddsCondition r I q' := by
  unfold addRow at h
  split at h
  · -- one element: a closure, taken as a group
    exact addsCondition_group hrow h
  · exact nomatch h
  · next head value =>
    obtain ⟨subject, hsubject, h⟩ := bind_eq_ok.mp h
    have hhead := hrow head (by simp)
    exact hreading .and "=" (hhead.subject hsubject) (hrow value (by simp)) h
  · next head operator value =>
    obtain ⟨subject, hsubject, h⟩ := bind_eq_ok.mp h
    obtain ⟨text, _, h⟩ := bind_eq_ok.mp h
    have hhead := hrow head (by simp)
    exact hreading .and text (hhead.subject hsubject) (hrow value (by simp)) h
  · next head operator value connector =>
    obtain ⟨subject, hsubject, h⟩ := bind_eq_ok.mp h
    obtain ⟨text, _, h⟩ := bind_eq_ok.mp h
    obtain ⟨word, _, h⟩ := bind_eq_ok.mp h
    obtain ⟨read, _, h⟩ := bind_eq_ok.mp h
    have hhead := hrow head (by simp)
    exact hreading read text (hhead.subject hsubject) (hrow value (by simp)) h
  · exact nomatch h

theorem AddsCondition.connection (h : q.AddsCondition r I q') : q'.connection = q.connection := by
  cases h <;> rfl

theorem AddsCondition.source (h : q.AddsCondition r I q') : q'.source = q.source := by
  cases h <;> rfl

/-- A condition files values under the conditions alone. -/
theorem AddsCondition.onlyConditions (h : q.AddsCondition r I q') (hq : q.OnlyConditions) :
    q'.OnlyConditions := by
  cases h with
  | same => exact hq
  | one connector _ =>
    intro c hc
    show (q.bindings.extend .wheres _).get c = []
    rw [Bindings.get_extend, if_neg hc]
    exact hq c hc

/-- The conditions of a group of `q` grow on the query `nested`. -/
structure GrowsGroup (I : Query → Query → Prop) (q nested : Query) : Prop where
  run : I q.freshOnSource nested
  connection : nested.connection = q.connection
  source : nested.source = q.source

end Query

/-! ## Conditions in a run -/

namespace EditClosed

variable {q q' : Query}

/-- A condition that an operation adds is an edit. -/
theorem adds (h : EditClosed r I) {p : Query} (hq : I p q) (hadds : q.AddsCondition r I q') :
    I p q' := by
  cases hadds with
  | same => exact hq
  | one connector hpredicate => exact h.condition connector hq hpredicate

theorem growsGroup_start (h : EditClosed r I) (q : Query) : q.GrowsGroup I q.freshOnSource :=
  ⟨h.refl _, rfl, rfl⟩

/-- A group goes on to grow with each condition it gains. -/
theorem growsGroup_adds (h : EditClosed r I) {nested nested' : Query}
    (hnested : q.GrowsGroup I nested) (hadds : nested.AddsCondition r I nested') :
    q.GrowsGroup I nested' :=
  ⟨h.adds hnested.run hadds, hadds.connection.trans hnested.connection,
    hadds.source.trans hnested.source⟩

/-- Rows are conditions of one group, which is added as a whole. -/
theorem addsCondition_addRows (h : EditClosed r I) {reading : Query.RowReading}
    (hreading : ReadingAdds r I reading) {connector : Connector} {rows : List (List Comparand)}
    (hrows : ∀ row ∈ rows, RowWritten r I q row)
    (hq' : q.addRows reading connector rows = .ok q') : q.AddsCondition r I q' := by
  obtain ⟨nested, hfold, hq'⟩ := bind_eq_ok.mp hq'
  -- a row is written for `q`, but taken on a query that has grown: connection and source decide
  have hnested : q.GrowsGroup I nested := by
    refine foldlM_keeps ?_ (h.growsGroup_start q) hfold
    intro b row b' hrow hb hb'
    have hwritten := (hrows row hrow).congr hb.connection hb.source
    exact h.growsGroup_adds hb (Query.addsCondition_addRow hreading hwritten hb')
  exact Except.ok.inj hq' ▸ Query.addsCondition_addGroup q.source hnested.run

/-- Pairs of columns and values are conditions of one group, each an equality. -/
theorem addsCondition_wherePairs (h : EditClosed r I) {connector : Connector}
    {pairs : List (String × Comparand)} (hpairs : ∀ pair ∈ pairs, pair.2.Written r I q.fresh)
    (hq' : q.wherePairs connector pairs = .ok q') : q.AddsCondition r I q' := by
  obtain ⟨nested, hfold, hq'⟩ := bind_eq_ok.mp hq'
  have hnested : q.GrowsGroup I nested := by
    refine foldlM_keeps ?_ (h.growsGroup_start q) hfold
    intro b pair b' hpair hb hb'
    -- values are written for `q` and handed to a query that has grown, on the same connection
    have hfresh : b.fresh = q.fresh := by
      unfold Query.fresh
      rw [hb.connection]
    have hvalue := hpairs pair hpair
    rw [← hfresh] at hvalue
    exact h.growsGroup_adds hb (Query.addsCondition_whereIs hvalue hb')
  exact Except.ok.inj hq' ▸ Query.addsCondition_addGroup q.source hnested.run

end EditClosed

end QueryBuilder
