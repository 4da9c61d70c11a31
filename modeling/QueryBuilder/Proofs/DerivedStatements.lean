import QueryBuilder.Proofs.BuiltAlignment
import QueryBuilder.Query.Paging
import QueryBuilder.Query.Walking

/-!
# Statements derived from an aligned query

A read operation rewrites the query before it sends it: it limits it, selects other columns, adds a
condition, or puts an aggregate in the place of the columns and drops orderings and windows that the
aggregate makes pointless. What is dropped from the parts has to be dropped from the values too.

- `Query.Matched`: the statement of a query has one placeholder for each of its values.
- `Query.Derives`: on the connection of another query, with its relations or none, and aligned where
  the other is. Every rewriting that leaves the columns in place is of this kind.
- `carries_computing`: an aggregate in place; over a union it selects from the whole union.
- `matched_countQuery`, `matched_aggregateQuery`: the queries for counts and other functions.
-/

namespace QueryBuilder

open Query (KeepsAligned)

namespace Query

/-- The statement of the query has one placeholder for each of its values. -/
def Matched (q : Query) : Prop :=
  placeholders q.sql = q.values.length

/-- A query made from another to be sent in its place. -/
structure Derives (q p : Query) : Prop where
  inherits : q.Inherits p
  connection : p.connection = q.connection
  loads : p.eagerLoads = q.eagerLoads ∨ p.eagerLoads = []

namespace Derives

variable {q p p' : Query}

theorem refl (q : Query) : q.Derives q :=
  ⟨.refl q, rfl, .inl rfl⟩

/-- What is made from a query that was made from another is made from the other. -/
theorem trans (h : q.Derives p) (h' : p.Derives p') : q.Derives p' := by
  refine ⟨h.inherits.trans h'.inherits, h'.connection.trans h.connection, ?_⟩
  rcases h'.loads with hloads | hloads
  · rw [hloads]
    exact h.loads
  · exact .inr hloads

theorem aligned (h : q.Derives p) (hq : q.Aligned q.dialect) : p.Aligned p.dialect := by
  have hdialect : p.dialect = q.dialect := congrArg Connection.dialect h.connection
  rw [hdialect]
  exact h.inherits.aligned hq

theorem matched (h : q.Derives p) (hq : q.Aligned q.dialect) : p.Matched :=
  (h.aligned hq).carries.count

/-- A query that loads nothing is made into one that loads nothing. -/
theorem unloaded (h : q.Derives p) (hloads : q.eagerLoads = []) : p.eagerLoads = [] := by
  rcases h.loads with hkept | hnone
  · rw [hkept, hloads]
  · exact hnone

end Derives

variable {q q' : Query}

/-! ## Rewritings -/

/-- A window may be changed, the orderings kept. -/
theorem derives_updateTail {f : Tail → Tail} (hf : ∀ tail, (f tail).orders = tail.orders) :
    q.Derives (q.updateTail f) := by
  refine ⟨inherits_updateTail hf, ?_, .inl ?_⟩
  · unfold updateTail
    split <;> rfl
  · unfold updateTail
    split <;> rfl

theorem derives_limit (count : Nat) : q.Derives (q.limit count) :=
  derives_updateTail fun _ => rfl

theorem derives_page (number size : Nat) : q.Derives (q.page number size) := by
  have hoffset : q.Derives (q.offset (pageStart number size)) := derives_updateTail fun _ => rfl
  exact hoffset.trans (derives_limit size)

theorem derives_select (columns : List String) :
    q.Derives (q.select (columns.map Column.name)) := by
  refine ⟨inherits_select fun c hc => ?_, rfl, .inl rfl⟩
  obtain ⟨name, _, rfl⟩ := List.mem_map.mp hc
  exact .name name

/-- Columns may be named where there are none. -/
theorem derives_selectIfNone (columns : List String) : q.Derives (q.selectIfNone columns) := by
  unfold selectIfNone
  split
  · exact derives_select columns
  · exact .refl q

/-- A query may be ordered by a column. -/
theorem derives_orderBy (column : String) (direction : Direction) :
    q.Derives (q.orderBy (.name column) direction) := by
  refine ⟨?_, ?_, .inl ?_⟩
  · have horder := inherits_order (q := q) (WrittenSortKey.column direction (.name column))
    rwa [bind_nil] at horder
  · unfold orderBy addSortKey updateTail
    split <;> rfl
  · unfold orderBy addSortKey updateTail
    split <;> rfl

/-- A query that has gained a condition is sent in place of the one it was. -/
theorem AddsCondition.derives (h : q.AddsCondition .matched KeepsAligned q') : q.Derives q' := by
  cases h with
  | same => exact .refl q
  | one connector hpredicate => exact ⟨inherits_condition connector hpredicate, rfl, .inl rfl⟩

/-- A query may be restricted by a comparison with an operand that the rules allow. -/
theorem derives_whereIs {column operator : String} {o : Operand}
    (ho : Rules.matched.AllowsOperand o) (h : q.whereIs column operator (.operand o) = .ok q') :
    q.Derives q' := by
  have hvalue : (Comparand.operand o).Written .matched KeepsAligned q.fresh := ho
  exact (addsCondition_whereIs hvalue h).derives

/-- A query may be cut to the rows behind a key. -/
theorem derives_pageAfter {size : Nat} {last : Option Value} {column : String}
    (h : q.pageAfter size last column = .ok q') : q.Derives q' := by
  -- the orderings by the column go, the bound comes, then the ordering and the limit
  have hwithout : q.Derives (q.withoutOrdersBy column) :=
    ⟨inherits_withoutOrdersBy column, rfl, .inl rfl⟩
  cases last with
  | none =>
    have hordered := hwithout.trans (derives_orderBy column .ascending)
    exact Except.ok.inj h ▸ hordered.trans (derives_limit size)
  | some v =>
    obtain ⟨bounded, hbounded, h⟩ := bind_eq_ok.mp h
    have hbound : (q.withoutOrdersBy column).Derives bounded :=
      derives_whereIs (o := .value v) trivial hbounded
    have hordered := (hwithout.trans hbound).trans (derives_orderBy column .ascending)
    exact Except.ok.inj h ▸ hordered.trans (derives_limit size)

/-! ## Existence -/

/-- A test for rows encloses the whole statement. -/
theorem carries_existsSql (h : q.Aligned q.dialect) : Carries q.existsSql q.values.length := by
  have hopen : Carries "select exists(" 0 := by decide
  have hclose : Carries ") as " 0 := by decide
  have htext := (hopen.between h.carries hclose).append (carries_quote q.dialect "exists")
  exact htext

/-! ## Aggregates -/

/-- An aggregate over named columns carries nothing, if its function carries nothing. -/
theorem carries_aggregateText {d : Dialect} {function : String} (distinct : Bool)
    (columns : List String) (hfunction : Carries function 0) :
    Carries (d.aggregateText distinct ⟨function, columns.map Column.name⟩) 0 := by
  have hselect : Carries "select " 0 := by decide
  have hopen : Carries "(" 0 := by decide
  have hclose : Carries ") as aggregate" 0 := by decide
  have hword : Carries "distinct " 0 := by decide
  have hcolumns : Carries (d.columns (columns.map Column.name)) 0 := by
    refine CarriesAll.columns (carriesAll_zero fun t ht => ?_)
    obtain ⟨c, hc, rfl⟩ := List.mem_map.mp ht
    obtain ⟨name, _, rfl⟩ := List.mem_map.mp hc
    exact carries_column_name d name
  have hargument : Carries
      (if distinct && d.columns (columns.map Column.name) != "*" then
        "distinct " ++ d.columns (columns.map Column.name)
      else d.columns (columns.map Column.name)) 0 := by
    split
    · exact hword.append hcolumns
    · exact hcolumns
  exact (((hselect.append hfunction).append hopen).append hargument).append hclose

/-- Over a union the aggregate selects from the whole union. -/
theorem sql_withAggregate (hunion : q.isUnion = true) (hplain : q.aggregate = none)
    (a : Aggregate) :
    sql { q with aggregate := some a } =
      q.dialect.aggregateText q.distinct a ++ " from (" ++ q.sql ++ ") as " ++
        q.dialect.quoteName "temp_table" := by
  -- without its aggregate the union is written as it was
  have hbody : q.sql = q.body q.dialect none := by
    rw [sql, textIn_eq_body (.inl hplain), hplain]
  show q.dialect.withAggregate (some a) q.distinct q.isUnion _ = _
  rw [hunion, hbody]
  show q.dialect.aggregateText q.distinct a ++ " from (" ++ body q.dialect _ none ++ _ ++ _ = _
  rw [body_eq, body_eq]

/-- An aggregate takes the place of columns that bind nothing, or stands in front of a whole
union. -/
theorem matched_withAggregate {a : Aggregate} (h : q.Aligned q.dialect)
    (ha : Carries (q.dialect.aggregateText q.distinct a) 0)
    (hcolumns : q.isUnion = true ∨ q.bindings.count .columns = 0) :
    Matched { q with aggregate := some a } := by
  by_cases hunion : q.isUnion = true
  · -- the whole union is a derived table behind the aggregate, so all values keep their places
    have hfrom : Carries " from (" 0 := by decide
    have hclose : Carries ") as " 0 := by decide
    have hsql : Carries q.sql q.values.length := h.carries
    have htext := (((ha.append hfrom).append hsql).append hclose).append
      (carries_quoteName q.dialect "temp_table")
    have hcount := htext.count
    rw [← sql_withAggregate hunion h.plain a] at hcount
    show placeholders (sql { q with aggregate := some a }) = q.values.length
    omega
  · -- the aggregate stands where the columns stood, and they bound nothing
    have hnone : q.bindings.count .columns = 0 := hcolumns.resolve_left hunion
    refine (carries_textIn (.inr ?_) fun c => ?_).count
    · exact Bool.eq_false_iff.mpr hunion
    · cases c with
      | columns =>
        show Carries (q.dialect.aggregateText q.distinct a) (q.bindings.count .columns)
        rw [hnone]
        exact ha
      | source => exact h.carries_clause .source
      | joins => exact h.carries_clause .joins
      | wheres => exact h.carries_clause .wheres
      | groups => exact h.carries_clause .groups
      | havings => exact h.carries_clause .havings
      | orders => exact h.carries_clause .orders
      | unions => exact h.carries_clause .unions
      | unionOrders => exact h.carries_clause .unionOrders

/-- The query without its own orderings and what they bind. -/
def withoutOrders (q : Query) : Query :=
  { q with tail := { q.tail with orders := [] }, bindings := q.bindings.clear .orders }

/-- The orderings may be dropped, with their values. -/
theorem derives_withoutOrders : q.Derives q.withoutOrders := by
  refine ⟨inherits_of_kept rfl fun d c => ?_, rfl, .inl rfl⟩
  cases c with
  | orders => exact .inr ⟨rfl, rfl⟩
  | _ => exact .inl ⟨rfl, rfl⟩

/-- The orderings go where there are no groups, for one row is not sorted. -/
theorem computing_eq (q : Query) (function : String) (columns : List Column) :
    q.computing function columns =
      if q.groups.isEmpty then { q.withoutOrders with aggregate := some ⟨function, columns⟩ }
      else { q with aggregate := some ⟨function, columns⟩ } := rfl

/-- The query for a function over all rows of an aligned query is matched. -/
theorem matched_computing {function : String} (columns : List String) (h : q.Aligned q.dialect)
    (hfunction : Carries function 0)
    (hcolumns : q.isUnion = true ∨ q.bindings.count .columns = 0) :
    (q.computing function (columns.map Column.name)).Matched := by
  have ha : Carries (q.dialect.aggregateText q.distinct ⟨function, columns.map Column.name⟩) 0 :=
    carries_aggregateText q.distinct columns hfunction
  rw [computing_eq]
  split
  · have hordered : q.withoutOrders.Aligned q.withoutOrders.dialect :=
      derives_withoutOrders.aligned h
    have hnone : q.withoutOrders.isUnion = true ∨ q.withoutOrders.bindings.count .columns = 0 := by
      show _ ∨ (q.bindings.clear .orders).count .columns = 0
      rw [Bindings.count_clear, if_neg (by decide)]
      exact hcolumns
    exact matched_withAggregate hordered ha hnone
  · exact matched_withAggregate h ha hcolumns

/-- Without columns no values are filed for them. -/
theorem Aligned.count_columns {d : Dialect} (h : q.Aligned d) (hempty : q.columns = []) :
    q.bindings.count .columns = 0 := by
  have hcolumns : CarriesAll (q.columns.map d.column) (q.bindings.count .columns) :=
    h.alignedAt .columns
  rw [hempty] at hcolumns
  exact hcolumns.count.symm

/-- Columns by name may be given to a query that has none. -/
theorem derives_columns (columns : List String) (h : q.Aligned q.dialect)
    (hempty : q.columns = []) : q.Derives { q with columns := columns.map Column.name } := by
  have hnone := h.count_columns hempty
  refine ⟨inherits_of_replaced .columns rfl ?_ ?_, rfl, .inl rfl⟩
  · intro d _
    show CarriesAll ((columns.map Column.name).map d.column) (q.bindings.count .columns)
    rw [hnone]
    refine carriesAll_zero fun t ht => ?_
    obtain ⟨c, hc, rfl⟩ := List.mem_map.mp ht
    obtain ⟨name, _, rfl⟩ := List.mem_map.mp hc
    exact carries_column_name d name
  · intro d c hc
    cases c <;> first | exact ⟨rfl, rfl⟩ | exact absurd rfl hc

/-- The same with columns by name for a query that has none. -/
theorem matched_computing_columnsIfEmpty {function : String} (columns others : List String)
    (h : q.Aligned q.dialect) (hfunction : Carries function 0)
    (hcolumns : q.isUnion = true ∨ q.bindings.count .columns = 0) :
    Matched (computing
      (if q.columns.isEmpty then { q with columns := others.map Column.name } else q) function
      (columns.map Column.name)) := by
  split
  · next hempty =>
    have hderives := derives_columns others h (List.isEmpty_iff.mp hempty)
    exact matched_computing columns (hderives.aligned h) hfunction hcolumns
  · exact matched_computing columns h hfunction hcolumns

theorem derives_withoutLoads : q.Derives (q.without [.eagerLoads]) :=
  ⟨inherits_loads [], rfl, .inr rfl⟩

/-- The query for a function over all rows. The columns of a select are replaced and their values
dropped; those of a union stay. -/
theorem matched_aggregateQuery {function : String} (columns : List String)
    (h : q.Aligned q.dialect) (hfunction : Carries function 0) :
    (q.aggregateQuery function columns).Matched := by
  unfold aggregateQuery
  by_cases hunion : q.isUnion = true
  · -- the columns of a union stay, with their values
    rw [if_pos hunion]
    have haligned := derives_withoutLoads.aligned h
    exact matched_computing_columnsIfEmpty columns columns haligned hfunction (.inl hunion)
  · rw [if_neg hunion]
    have hderives : q.Derives
        ((q.without [.columns, .eagerLoads]).withoutBindings [.columns]) := by
      refine ⟨inherits_of_kept rfl fun d c => ?_, rfl, .inr rfl⟩
      cases c with
      | columns => exact .inr ⟨rfl, rfl⟩
      | _ => exact .inl ⟨rfl, rfl⟩
    have haligned := hderives.aligned h
    exact matched_computing_columnsIfEmpty columns columns haligned hfunction (.inr rfl)

/-! ## Counts -/

/-- The query for the number of rows without groups. Orderings and windows go, and with the
orderings their values. -/
theorem matched_plainCountQuery (h : q.Aligned q.dialect) : q.plainCountQuery.Matched := by
  have hcount : Carries "count" 0 := by decide
  -- the union loses its own orderings, the select its columns and its orderings
  unfold plainCountQuery
  by_cases hunion : q.isUnion = true
  · rw [if_pos hunion]
    have hderives : q.Derives
        ((q.without [.unionOrders, .unionLimit, .unionOffset, .eagerLoads]).withoutBindings
          [.unionOrders]) := by
      refine ⟨inherits_of_kept rfl fun d c => ?_, rfl, .inr rfl⟩
      cases c with
      | unionOrders => exact .inr ⟨ite_self [], rfl⟩
      | _ => exact .inl ⟨rfl, rfl⟩
    exact matched_computing_columnsIfEmpty ["*"] ["*"] (hderives.aligned h) hcount (.inl hunion)
  · rw [if_neg hunion]
    have hderives : q.Derives
        ((q.without [.columns, .orders, .limit, .offset, .eagerLoads]).withoutBindings
          [.columns, .orders]) := by
      refine ⟨inherits_of_kept rfl fun d c => ?_, rfl, .inr rfl⟩
      cases c with
      | columns => exact .inr ⟨rfl, rfl⟩
      | orders => exact .inr ⟨rfl, rfl⟩
      | _ => exact .inl ⟨rfl, rfl⟩
    exact matched_computing ["*"] (hderives.aligned h) hcount (.inr rfl)

/-- A query that reads from an aligned query as a text files its values under the source. -/
theorem aligned_fromSub {outer : Query} {c : Connection} {label : String}
    (h : q.Aligned q.dialect) (hq' : (on c).fromSub (.query q) label = .ok outer) (d : Dialect) :
    outer.Aligned d ∧ outer.bindings.count .columns = 0 := by
  have hsql : Carries q.sql (scalarCount q.values) := by
    rw [scalarCount_values]
    exact h.carries
  have hsource : WrittenSource .matched KeepsAligned
      (.raw ("(" ++ q.sql ++ ") as " ++ c.dialect.quoteName label)) q.values :=
    .raw (carries_labelled hsql (carries_quoteName c.dialect label))
  have hinherits := inherits_source (q := on c) hsource (.inr rfl)
  have hstart : (on c).Aligned d := aligned_of_alignedAt rfl (alignedAt_on c d)
  exact Except.ok.inj hq' ▸ ⟨hinherits.aligned hstart, rfl⟩

/-- The query for the number of groups reads from the grouped query as a text, whose values go
under the source. -/
theorem matched_groupCountQuery (h : q.Aligned q.dialect)
    (hq' : q.groupCountQuery = .ok q') : q'.Matched := by
  have hcount : Carries "count" 0 := by decide
  have hderives : q.Derives
      ((q.without [.orders, .limit, .offset, .eagerLoads]).withoutBindings [.orders]) := by
    refine ⟨inherits_of_kept rfl fun d c => ?_, rfl, .inr rfl⟩
    cases c with
    | orders => exact .inr ⟨rfl, rfl⟩
    | _ => exact .inl ⟨rfl, rfl⟩
  have haligned := hderives.aligned h
  obtain ⟨outer, houter, hq'⟩ := bind_eq_ok.mp hq'
  have hinner : outer.Aligned outer.dialect ∧ outer.bindings.count .columns = 0 := by
    split at houter
    · next hcolumns =>
      rw [Bool.and_eq_true] at hcolumns
      have hnamed := derives_columns
        [qualifier ((q.without [.orders, .limit, .offset, .eagerLoads]).withoutBindings [.orders])
          ++ ".*"] haligned (List.isEmpty_iff.mp hcolumns.1)
      exact aligned_fromSub (hnamed.aligned haligned) houter outer.dialect
    · exact aligned_fromSub haligned houter outer.dialect
  exact Except.ok.inj hq' ▸ matched_computing ["*"] hinner.1 hcount (.inr hinner.2)

/-- The query for the number of rows, with groups or without. -/
theorem matched_countQuery (h : q.Aligned q.dialect) (hq' : q.countQuery = .ok q') :
    q'.Matched := by
  unfold countQuery at hq'
  split at hq'
  · exact Except.ok.inj hq' ▸ matched_plainCountQuery h
  · exact matched_groupCountQuery h hq'

/-! ## Relations -/

theorem eagerLoads_computing (q : Query) (function : String) (columns : List Column) :
    (q.computing function columns).eagerLoads = q.eagerLoads := by
  rw [computing_eq]
  split <;> rfl

/-- A function over all rows loads no relations. -/
theorem eagerLoads_aggregateQuery (q : Query) (function : String) (columns : List String) :
    (q.aggregateQuery function columns).eagerLoads = [] := by
  unfold aggregateQuery
  rw [eagerLoads_computing]
  split
  · split <;> rfl
  · split <;> rfl

/-- Counting loads no relations. -/
theorem eagerLoads_countQuery (hq' : q.countQuery = .ok q') : q'.eagerLoads = [] := by
  unfold countQuery at hq'
  split at hq'
  · rw [← Except.ok.inj hq']
    unfold plainCountQuery
    rw [eagerLoads_computing]
    split
    · show eagerLoads (if _ then _ else _) = []
      split <;> rfl
    · rfl
  · obtain ⟨outer, houter, hq'⟩ := bind_eq_ok.mp hq'
    rw [← Except.ok.inj hq', eagerLoads_computing, ← Except.ok.inj houter]
    rfl

end Query

end QueryBuilder
