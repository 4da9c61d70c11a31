import QueryBuilder.Proofs.DistinctTotals

/-!
# What an aggregate reads of a query

An aggregate over a query without groups and unions is computed over its rows. What the query
selects of them, how it orders them and which relations it has loaded onto them, has no part in the
statement or in its values.

- `Query.SameRows`: two queries that differ in nothing else.
- `Query.overRows`: the query for an aggregate, made of what it reads. `Query.overRows_congr`: it is
  the same for both.
- `Query.sql_overRows`, `Query.values_overRows`: its statement and its values.
- `aggregate_ignores_projection`: what is sent and what is returned.
-/

namespace QueryBuilder

/-- The value of an aggregate in an answer; none if it is null. -/
def aggregateOf (rows : List Record) : Option Value :=
  (rows.head?.bind fun row => row.get? "aggregate").filter fun v => !v.isNull

namespace Query

/-- Two queries that agree on all but the selected columns, the orderings, the values of both, and
the relations to load. -/
structure SameRows (q q' : Query) : Prop where
  connection : q'.connection = q.connection
  aggregate : q'.aggregate = q.aggregate
  distinct : q'.distinct = q.distinct
  source : q'.source = q.source
  joins : q'.joins = q.joins
  wheres : q'.wheres = q.wheres
  groups : q'.groups = q.groups
  havings : q'.havings = q.havings
  limit : q'.tail.limit = q.tail.limit
  offset : q'.tail.offset = q.tail.offset
  unions : q'.unions = q.unions
  unionTail : q'.unionTail = q.unionTail
  bindings : ∀ c, c ≠ .columns → c ≠ .orders → q'.bindings.get c = q.bindings.get c

/-- The query for an aggregate over the rows of the query. -/
def overRows (q : Query) (function : String) (columns : List String) : Query :=
  { q with
    aggregate := some ⟨function, columns.map Column.name⟩
    columns := columns.map Column.name
    tail := { orders := [], limit := q.tail.limit, offset := q.tail.offset }
    eagerLoads := []
    bindings := (q.bindings.clear .columns).clear .orders }

variable {q q' : Query} (function : String) (columns : List String)

theorem aggregateQuery_plain (hunion : q.isUnion = false) (hgroups : q.groups = []) :
    q.aggregateQuery function columns = q.overRows function columns := by
  have hempty : q.groups.isEmpty = true := by rw [hgroups]; rfl
  unfold aggregateQuery
  rw [hunion, computing_eq]
  exact if_pos hempty

/-- Queries with the same rows have the same aggregates over them. -/
theorem overRows_congr (h : q.SameRows q') :
    q'.overRows function columns = q.overRows function columns := by
  have hbindings : (q'.bindings.clear .columns).clear .orders =
      (q.bindings.clear .columns).clear .orders := by
    refine Bindings.ext_get fun c => ?_
    simp only [Bindings.get_clear]
    split
    · rfl
    · split
      · rfl
      · next horders hcolumns => exact h.bindings c hcolumns horders
  unfold overRows
  rw [hbindings, h.connection, h.distinct, h.source, h.joins, h.wheres, h.groups, h.havings,
    h.limit, h.offset, h.unions, h.unionTail]

/-- The statement selects the aggregate and nothing else, in no order. -/
theorem sql_overRows (hunion : q.isUnion = false) (hgroups : q.groups = []) :
    (q.overRows function columns).sql = concatenate
      [q.dialect.aggregateText q.distinct ⟨function, columns.map Column.name⟩,
        q.dialect.sourceText q.source, joinsText q.dialect q.joins,
        keyword "where" (conditionsText q.dialect q.wheres),
        keyword "having" (conditionsText q.dialect q.havings), Dialect.limitText q.tail.limit,
        Dialect.offsetText q.tail.offset] := by
  have hnone : q.dialect.groupsText q.groups = "" := by rw [hgroups]; rfl
  have hunordered : q.dialect.ordersText [] = "" := rfl
  rw [sql_select (q := q.overRows function columns) hunion]
  show concatenate [_, _, _, _, q.dialect.groupsText q.groups, _, q.dialect.ordersText [], _, _] = _
  rw [hnone, hunordered]
  -- empty fragments leave no trace
  simp only [concatenate, List.filter_cons, ne_eq, not_true, decide_false]
  rfl

theorem values_overRows : (q.overRows function columns).values = q.bindings.flattenExcept
    [.columns, .orders] :=
  rfl

end Query

/-- An aggregate over a query without unions and groups, whatever the function and the columns. It
is the same operation for every query that differs in nothing but its columns, its orderings, the
values of these and the relations to load. With an executor one statement is sent, over the rows of
the query and with their values, and the result depends on its answer alone; without one it fails
and sends nothing. -/
theorem aggregate_ignores_projection {q q' : Query} (hsame : q.SameRows q')
    (hunion : q.isUnion = false) (hgroups : q.groups = []) (function : String)
    (columns : List String) :
    q'.compute function columns = q.compute function columns ∧
    (q.connection.attached = true → ∀ s, q.compute function columns s =
      (s.answer.map aggregateOf, s.sending
        (concatenate
          [q.dialect.aggregateText q.distinct ⟨function, columns.map Column.name⟩,
            q.dialect.sourceText q.source, joinsText q.dialect q.joins,
            keyword "where" (conditionsText q.dialect q.wheres),
            keyword "having" (conditionsText q.dialect q.havings), Dialect.limitText q.tail.limit,
            Dialect.offsetText q.tail.offset])
        (q.bindings.flattenExcept [.columns, .orders]))) ∧
    (q.connection.attached = false →
      ∀ s, q.compute function columns s = (.error .noExecutor, s)) := by
  have hunion' : q'.isUnion = false := by
    unfold Query.isUnion at hunion ⊢
    rw [hsame.unions, hunion]
  refine ⟨?_, fun hattached s => ?_, fun hdetached s => ?_⟩
  · unfold Query.compute
    rw [Query.aggregateQuery_plain function columns hunion hgroups,
      Query.aggregateQuery_plain function columns hunion' (hsame.groups.trans hgroups),
      Query.overRows_congr function columns hsame]
  · have hfetch := Query.fetchWithin_apply (q := q.overRows function columns) rfl hattached
      (q.overRows function columns).loadDepth s
    rw [Query.sql_overRows function columns hunion hgroups, Query.values_overRows] at hfetch
    unfold Query.compute
    rw [Query.aggregateQuery_plain function columns hunion hgroups]
    cases hanswer : s.answer with
    | ok rows =>
      rw [hanswer] at hfetch
      exact bind_apply_ok hfetch
    | error why =>
      rw [hanswer] at hfetch
      exact bind_apply_error hfetch
  · unfold Query.compute
    rw [Query.aggregateQuery_plain function columns hunion hgroups, Query.fetch_of_no_loads rfl]
    exact bind_apply_error (Connection.query_detached hdetached _ _ s)

/-- The users beyond an age. -/
def adultUsers : Query :=
  plainUsers.whereRaw .and "age > ?" [.ofInt 17]

/-- The same users with a selected sum and an ordering that bind values, each with their posts. -/
def listedAdults : Query :=
  ((adultUsers.selectRaw "age + ?" [.ofInt 1]).orderByRaw "field(id, ?)" [.ofInt 7]).loading "posts"
    ⟨.hasMany "posts" "user_id" "id", []⟩

/-- Neither the sum nor the ordering nor the posts are in what is sent for the mean of the ages. -/
theorem aggregate_ignores_projection_adults :
    adultUsers.SameRows listedAdults ∧
      listedAdults.compute "avg" ["age"] { rows := [.ok [[("aggregate", .ofInt 30)]]] } =
        (.ok (some (.ofInt 30)),
          { sent := [.query "select avg(\x60age\x60) as aggregate from \x60users\x60 where age > ?"
            [.ofInt 17]] }) := by
  have hbindings : ∀ c, c ≠ .columns → c ≠ .orders →
      listedAdults.bindings.get c = adultUsers.bindings.get c := by
    intro c hcolumns horders
    cases c with
    | columns => exact absurd rfl hcolumns
    | orders => exact absurd rfl horders
    | _ => rfl
  have hsame : adultUsers.SameRows listedAdults :=
    ⟨rfl, rfl, rfl, rfl, rfl, rfl, rfl, rfl, rfl, rfl, rfl, rfl, hbindings⟩
  obtain ⟨halike, hsent, -⟩ := aggregate_ignores_projection hsame rfl rfl "avg" ["age"]
  refine ⟨hsame, ?_⟩
  rw [halike, hsent rfl]
  rfl

end QueryBuilder
