import QueryBuilder.Proofs.Pages

/-!
# Totals and orderings

The total of a query counts its rows without the ordering and the window that it ends with. The
ordering and the window of a union are left out only where the union has no groups and no conditions
on groups; of a grouped one the count is taken over a table that still has them.

- `Query.unordered`: a query without the ordering and the window that it ends with.
- `Query.countQuery_unordered`: where the total leaves these out.
- `Query.groupTable`: what the groups of a query are counted over. `Query.groupTable_ending`: over a
  union it has the ordering and the window of the union.
- `total_unordered_iff`: whether two queries that differ only in these have the same total.
  `windowed_grouped_union_total` is a total over two rows of a union.
-/

namespace QueryBuilder

/-! ## Fragments behind the same fragments -/

theorem concatenate_eq_empty_iff (ts : List String) :
    concatenate ts = "" ↔ ts.filter (· ≠ "") = [] := by
  constructor
  · intro h
    induction ts with
    | nil => rfl
    | cons t ts ih =>
      rw [concatenate_cons] at h
      obtain ⟨hfront, hrest⟩ := String.append_eq_empty_iff.mp h
      have ht : t = "" := (String.append_eq_empty_iff.mp hfront).1
      rw [List.filter_cons_of_neg (by simp [ht])]
      exact ih hrest
  · intro h
    unfold concatenate
    rw [h]
    rfl

/-- The same text in front makes no two texts equal that were not. -/
theorem concatenate_cons_inj (t : String) {us us' : List String} :
    concatenate (t :: us) = concatenate (t :: us') ↔ concatenate us = concatenate us' := by
  have hgap : ∀ ts, gap t ts = if t = "" ∨ concatenate ts = "" then "" else " " := by
    intro ts
    simp only [gap, concatenate_eq_empty_iff]
  rw [concatenate_cons, concatenate_cons, hgap, hgap, String.append_assoc, String.append_assoc,
    String.append_right_inj]
  constructor
  · intro h
    by_cases ht : t = ""
    · simpa [ht] using h
    -- a blank stands in front of what is there, and of nothing else
    by_cases hus : concatenate us = "" <;> by_cases hus' : concatenate us' = "" <;> simp_all
  · intro h
    rw [h]

/-- Fragments behind the same fragments make the same text exactly if they do so by themselves. -/
theorem concatenate_append_inj (ts : List String) {us us' : List String} :
    concatenate (ts ++ us) = concatenate (ts ++ us') ↔ concatenate us = concatenate us' := by
  -- the fragments in front are taken off one by one
  induction ts with
  | nil => rfl
  | cons t ts ih => rw [List.cons_append, List.cons_append, concatenate_cons_inj, ih]

/-- The text of an ordering and a window. -/
def Dialect.tailText (d : Dialect) (tail : Tail) : String :=
  concatenate [d.ordersText tail.orders, limitText tail.limit, offsetText tail.offset]

namespace Query

variable {q q' : Query}

/-! ## Without the ordering and the window -/

/-- The query without the ordering and the window that it ends with, and without the values of the
ordering. -/
def unordered (q : Query) : Query :=
  { q.updateTail fun _ => {} with bindings := q.bindings.clear q.orderClause }

/-- Of a select they are its own. -/
theorem unordered_select (hunion : q.isUnion = false) :
    q.unordered = { q with tail := {}, bindings := q.bindings.clear .orders } := by
  unfold unordered updateTail orderClause
  rw [hunion]
  rfl

/-- Of a union they are those of the whole. -/
theorem unordered_union (hunion : q.isUnion = true) :
    q.unordered = { q with unionTail := {}, bindings := q.bindings.clear .unionOrders } := by
  unfold unordered updateTail orderClause
  rw [hunion]
  rfl

/-- The ordering and the window decide neither whether a query is counted over a derived table, nor
where it is sent. -/
theorem kept_unordered (q : Query) :
    q.unordered.isUnion = q.isUnion ∧ q.unordered.groups = q.groups ∧
      q.unordered.havings = q.havings ∧ q.unordered.connection = q.connection := by
  unfold unordered updateTail
  split
  · exact ⟨rfl, rfl, rfl, rfl⟩
  · exact ⟨rfl, rfl, rfl, rfl⟩

/-- Two queries that are the same without them are counted in the same way. -/
theorem kept_of_unordered (hsame : q.unordered = q'.unordered) :
    q'.isUnion = q.isUnion ∧ q'.groups = q.groups ∧ q'.havings = q.havings ∧
      q'.connection = q.connection := by
  obtain ⟨hunion, hgroups, hhavings, hconnection⟩ := q.kept_unordered
  obtain ⟨hunion', hgroups', hhavings', hconnection'⟩ := q'.kept_unordered
  rw [hsame] at hunion hgroups hhavings hconnection
  exact ⟨hunion'.symm.trans hunion, hgroups'.symm.trans hgroups, hhavings'.symm.trans hhavings,
    hconnection'.symm.trans hconnection⟩

/-- The plain count drops the ordering and the window of either kind. -/
theorem plainCountQuery_unordered (q : Query) :
    q.unordered.plainCountQuery = q.plainCountQuery := by
  unfold plainCountQuery
  rw [q.kept_unordered.1]
  cases hunion : q.isUnion with
  | false =>
    rw [unordered_select hunion]
    rfl
  | true =>
    rw [unordered_union hunion]
    rfl

/-! ## Groups -/

/-- What the groups of a query are counted over. -/
def groupTable (q : Query) : Query :=
  { q with
    columns :=
      if q.columns.isEmpty && !q.joins.isEmpty then [.name (q.qualifier ++ ".*")] else q.columns
    tail := {}
    bindings := q.bindings.clear .orders
    eagerLoads := [] }

/-- The derived table as it is built, step by step. -/
theorem groupTable_eq {inner : Query}
    (hinner : inner = (q.without [.orders, .limit, .offset, .eagerLoads]).withoutBindings
      [.orders]) :
    (if inner.columns.isEmpty && !inner.joins.isEmpty then
      { inner with columns := [.name (inner.qualifier ++ ".*")] } else inner) = q.groupTable := by
  subst hinner
  show (if q.columns.isEmpty && !q.joins.isEmpty then _ else _) = _
  unfold groupTable
  split <;> rfl

/-- The groups are counted over a derived table. -/
theorem groupCountQuery_eq (q : Query) :
    q.groupCountQuery = .ok ((q.fresh.fromRaw ("(" ++ q.groupTable.sql ++ ") as " ++
      q.dialect.quoteName "aggregate_table") q.groupTable.values).computing "count"
        [Column.star]) := by
  unfold groupCountQuery
  simp only [groupTable_eq rfl]
  rfl

/-- The groups of a select are counted without its ordering and its window. -/
theorem groupCountQuery_unordered (hunion : q.isUnion = false) :
    q.unordered.groupCountQuery = q.groupCountQuery := by
  have hfresh : q.unordered.fresh = q.fresh := by
    rw [unordered_select hunion]
    rfl
  have hdialect : q.unordered.dialect = q.dialect := by
    rw [unordered_select hunion]
    rfl
  -- a select keeps its ordering in the place that the count clears
  have htable : q.unordered.groupTable = q.groupTable := by
    rw [unordered_select hunion]
    rfl
  rw [groupCountQuery_eq, groupCountQuery_eq, hfresh, hdialect, htable]

/-- Without groups, or without further selects, the ordering and the window have no part in a
total. -/
theorem countQuery_unordered (h : q.isUnion = false ∨ q.groups = [] ∧ q.havings = []) :
    q.unordered.countQuery = q.countQuery := by
  obtain ⟨-, hgroups, hhavings, -⟩ := q.kept_unordered
  unfold countQuery
  rw [hgroups, hhavings, plainCountQuery_unordered]
  rcases h with hunion | ⟨hgroups, hhavings⟩
  · rw [groupCountQuery_unordered hunion]
  · rw [if_pos (by rw [hgroups, hhavings]; rfl), if_pos (by rw [hgroups, hhavings]; rfl)]

/-! ## Grouped unions -/

/-- A count over a text. -/
theorem sql_countRaw (c : Connection) (text : String) (vs : List Value) :
    (((on c).fromRaw text vs).computing "count" [Column.star]).sql =
      "select count(*) as aggregate from " ++ text := by
  have hcolumns : c.dialect.columns [Column.star] = "*" := by cases c.dialect <;> rfl
  have hselection : c.dialect.aggregateText false ⟨"count", [Column.star]⟩ =
      "select count(*) as aggregate" := by
    unfold Dialect.aggregateText
    rw [hcolumns]
    rfl
  have hbase : (((on c).fromRaw text vs).computing "count" [Column.star]).sql =
      concatenate [c.dialect.aggregateText false ⟨"count", [Column.star]⟩, "from " ++ text,
        "", "", "", "", "", "", ""] := by
    rw [sql, textIn_eq_body (.inr rfl), body_eq]
    rfl
  rw [hbase, hselection]
  simp [concatenate, ← String.append_assoc]

/-- It binds what the text binds. -/
theorem values_countRaw (c : Connection) (text : String) {vs : List Value}
    (hvs : ∀ v ∈ vs, v.leaves = [v]) :
    (((on c).fromRaw text vs).computing "count" [Column.star]).values = vs := by
  have hvalues : (((on c).fromRaw text vs).computing "count" [Column.star]).values =
      vs.flatMap Value.leaves ++ [] := rfl
  rw [hvalues, List.append_nil, flatMap_leaves_of_spread hvs]

/-- Groups are counted over a derived table, whose values are bound. -/
theorem counted_grouped {counted : Query} (hgrouped : ¬ (q.groups = [] ∧ q.havings = []))
    (hcounted : q.countQuery = .ok counted) :
    counted.sql = "select count(*) as aggregate from " ++ ("(" ++ q.groupTable.sql ++ ") as " ++
        q.dialect.quoteName "aggregate_table") ∧
      counted.values = q.groupTable.values := by
  have hsome : ¬ (q.groups.isEmpty && q.havings.isEmpty) = true := by simpa using hgrouped
  unfold countQuery at hcounted
  rw [if_neg hsome, groupCountQuery_eq] at hcounted
  obtain rfl := Except.ok.inj hcounted
  exact ⟨sql_countRaw q.connection _ _,
    values_countRaw q.connection _ q.groupTable.leaves_of_mem_values⟩

/-- The query with another ordering and window of its union, and with other values. -/
def ending (q : Query) (tail : Tail) (b : Bindings) : Query :=
  { q with unionTail := tail, bindings := b }

/-- The texts of two unions that differ in their ordering and window. -/
theorem sql_ending_iff (hunion : q.isUnion = true) (tail tail' : Tail) (b b' : Bindings) :
    (q.ending tail b).sql = (q.ending tail' b').sql ↔
      q.dialect.tailText tail = q.dialect.tailText tail' := by
  have hnonempty : ¬ q.unions.isEmpty = true := by simpa [isUnion] using hunion
  have hbody : ∀ (tail : Tail) (b : Bindings), body q.dialect (q.ending tail b) none =
      Dialect.parenthesized (q.dialect.baseText none q.columns q.distinct q.source
        (joinsText q.dialect q.joins) (conditionsText q.dialect q.wheres) q.groups
        (conditionsText q.dialect q.havings) q.tail) ++ " " ++
        q.dialect.unionsText (unionTexts q.dialect q.unions) tail := by
    intro tail b
    exact (body_eq (q.ending tail b) q.dialect none).trans (if_neg hnonempty)
  have hbodies : body q.dialect (q.ending tail b) none = body q.dialect (q.ending tail' b') none ↔
      q.dialect.tailText tail = q.dialect.tailText tail' := by
    rw [hbody, hbody, String.append_right_inj]
    exact concatenate_append_inj _
  have hsql : ∀ (tail : Tail) (b : Bindings), (q.ending tail b).sql =
      q.dialect.withAggregate q.aggregate q.distinct true (body q.dialect (q.ending tail b)) := by
    intro tail b
    rw [← hunion]
    rfl
  rw [hsql, hsql, ← hbodies]
  -- with an aggregate in place the same text stands on both sides of the union
  cases q.aggregate with
  | none => rfl
  | some a =>
    show _ ++ _ ++ _ ++ _ = _ ++ _ ++ _ ++ _ ↔ _
    rw [String.append_left_inj, String.append_left_inj, String.append_right_inj]

/-- Unions that differ only in their ordering and window. -/
theorem eq_ending (hunion : q.isUnion = true) (hsame : q.unordered = q'.unordered) :
    q' = q.ending q'.unionTail q'.bindings ∧
      q'.bindings.clear .unionOrders = q.bindings.clear .unionOrders := by
  have hunion' : q'.isUnion = true := (kept_of_unordered hsame).1.trans hunion
  rw [unordered_union hunion, unordered_union hunion'] at hsame
  -- field by field: all but the two that `ending` puts in place are the same
  cases q
  cases q'
  simp only [mk.injEq] at hsame
  simp only [ending, mk.injEq]
  grind

/-- The values of the union's ordering stand behind all others. -/
theorem flatten_eq (b : Bindings) :
    b.flatten = (b.clear .unionOrders).flatten ++ (b.get .unionOrders).flatMap Value.leaves := by
  have hall : Clause.all.filter (fun c => !([] : List Clause).contains c) =
        (Clause.all.filter fun c => !([.unionOrders] : List Clause).contains c) ++
          [.unionOrders] := rfl
  unfold Bindings.flatten Bindings.flattenExcept
  rw [hall, List.flatMap_append, List.flatMap_append, List.flatMap_singleton,
    List.flatMap_singleton]
  show _ = _ ++ [] ++ _
  rw [List.append_nil]
  rfl

/-- The tables that two unions are counted over where they have groups. -/
theorem groupTable_ending (hunion : q.isUnion = true) (hsame : q.unordered = q'.unordered) :
    (q.groupTable.sql = q'.groupTable.sql ↔
      q.dialect.tailText q.unionTail = q.dialect.tailText q'.unionTail) ∧
    (q.groupTable.values = q'.groupTable.values ↔
      (q.bindings.get .unionOrders).flatMap Value.leaves =
        (q'.bindings.get .unionOrders).flatMap Value.leaves) := by
  obtain ⟨heq, hbindings⟩ := eq_ending hunion hsame
  have htable : q'.groupTable = q.groupTable.ending q'.unionTail (q'.bindings.clear .orders) :=
    (congrArg groupTable heq).trans rfl
  constructor
  · rw [htable]
    exact sql_ending_iff (q := q.groupTable) hunion q.unionTail q'.unionTail _ _
  · -- the two clears are of different clauses, so they commute and the last block stays whole
    have hvalues : ∀ p : Query, p.groupTable.values =
        ((p.bindings.clear .unionOrders).clear .orders).flatten ++
          (p.bindings.get .unionOrders).flatMap Value.leaves :=
      fun p => flatten_eq (p.bindings.clear .orders)
    rw [hvalues, hvalues, hbindings, List.append_cancel_left_eq]

end Query

/-- Two queries that differ only in the ordering and the window that they end with, and in the
values of this ordering, with an executor. For the total of each one statement is sent. It is the
same statement with the same values if the queries have no unions, or neither groups nor conditions
on groups. Of a grouped union the ordering and the window stay in the table that is counted, so that
the statements are the same only if these are written alike and bind the same. Where they are the
same, so are the totals. -/
theorem total_unordered_iff {q q' : Query} (hsame : q.unordered = q'.unordered)
    (hattached : q.connection.attached = true) (s : Session) :
    ∃ sql vs sql' vs', (q.totalCount s).2 = s.sending sql vs ∧
      (q'.totalCount s).2 = s.sending sql' vs' ∧
      ((sql = sql' ∧ vs = vs') ↔
        (q.isUnion = false ∨ q.groups = [] ∧ q.havings = []) ∨
          q.dialect.tailText q.unionTail = q.dialect.tailText q'.unionTail ∧
          (q.bindings.get .unionOrders).flatMap Value.leaves =
            (q'.bindings.get .unionOrders).flatMap Value.leaves) ∧
      (sql = sql' ∧ vs = vs' → q.totalCount s = q'.totalCount s) := by
  obtain ⟨hunions, hgroups, hhavings, hconnection⟩ := Query.kept_of_unordered hsame
  have hattached' : q'.connection.attached = true := by
    rw [hconnection]
    exact hattached
  obtain ⟨counted, hcounted, hsame₁⟩ := q.countQuery_ok
  obtain ⟨counted', hcounted', hsame₂⟩ := q'.countQuery_ok
  have hsent := Query.totalCount_sent hattached hcounted hsame₁ s
  have hsent' := Query.totalCount_sent hattached' hcounted' hsame₂ s
  refine ⟨_, _, _, _, congrArg Prod.snd hsent, congrArg Prod.snd hsent', ?_, ?_⟩
  · -- the two ways of counting that drop the ordering, and the one that keeps it
    by_cases hfree : q.isUnion = false ∨ q.groups = [] ∧ q.havings = []
    · have hfree' : q'.isUnion = false ∨ q'.groups = [] ∧ q'.havings = [] := by
        rw [hunions, hgroups, hhavings]
        exact hfree
      have hquery : q'.countQuery = q.countQuery := by
        rw [← Query.countQuery_unordered hfree', ← hsame, Query.countQuery_unordered hfree]
      rw [hquery, hcounted] at hcounted'
      obtain rfl := Except.ok.inj hcounted'
      exact iff_of_true ⟨rfl, rfl⟩ (.inl hfree)
    · -- both totals are taken over a derived table, and the texts around the tables are the same
      have hunion : q.isUnion = true := by simpa using fun h => hfree (.inl h)
      have hgrouped : ¬ (q.groups = [] ∧ q.havings = []) := fun h => hfree (.inr h)
      have hgrouped' : ¬ (q'.groups = [] ∧ q'.havings = []) := by
        rw [hgroups, hhavings]
        exact hgrouped
      obtain ⟨hsql, hvalues⟩ := Query.counted_grouped hgrouped hcounted
      obtain ⟨hsql', hvalues'⟩ := Query.counted_grouped hgrouped' hcounted'
      obtain ⟨htexts, hbound⟩ := Query.groupTable_ending hunion hsame
      have hdialect : q'.dialect = q.dialect := congrArg Connection.dialect hconnection
      rw [or_iff_right hfree, hsql, hsql', hvalues, hvalues', hdialect, String.append_right_inj,
        String.append_left_inj, String.append_left_inj, String.append_right_inj, htexts, hbound]
  · rintro ⟨hsql, hvalues⟩
    rw [hsent, hsent', hsql, hvalues]

/-- All users. -/
def plainUsers : Query :=
  Query.table { attached := true } "users"

/-- Ten users, in an order that binds a value. -/
def rankedUsers : Query :=
  (plainUsers.orderByRaw "field(id, ?)" [.ofInt 7]).limit 10

/-- Neither the ordering with its value nor the limit changes a total. -/
theorem total_unordered_iff_ranked :
    plainUsers.unordered = rankedUsers.unordered ∧ rankedUsers.values = [.ofInt 7] ∧
      plainUsers.totalCount {} = rankedUsers.totalCount {} := by
  have hsame : plainUsers.unordered = rankedUsers.unordered := rfl
  obtain ⟨sql, vs, sql', vs', -, -, hiff, htotal⟩ := total_unordered_iff hsame rfl {}
  exact ⟨hsame, rfl, htotal (hiff.mpr (.inl (.inl rfl)))⟩

/-- The users with each name, and all admins. -/
def namesAndAdmins : Query :=
  { plainUsers with
    groups := [.name "name"]
    unions := [⟨false, Query.table { attached := true } "admins"⟩] }

/-- The window stays in what is counted, so that a total over two rows is asked for. -/
theorem windowed_grouped_union_total :
    namesAndAdmins.unordered = (namesAndAdmins.limit 2).unordered ∧
      (namesAndAdmins.totalCount {}).2.sent =
        [.query ("select count(*) as aggregate from " ++
          "((select * from \x60users\x60 group by \x60name\x60) " ++
          "union (select * from \x60admins\x60)) as \x60aggregate_table\x60") []] ∧
      ((namesAndAdmins.limit 2).totalCount {}).2.sent =
        [.query ("select count(*) as aggregate from " ++
          "((select * from \x60users\x60 group by \x60name\x60) " ++
          "union (select * from \x60admins\x60) limit 2) as \x60aggregate_table\x60") []] :=
  ⟨rfl, rfl, rfl⟩

end QueryBuilder
