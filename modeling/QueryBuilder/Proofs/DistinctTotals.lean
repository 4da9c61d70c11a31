import QueryBuilder.Proofs.TotalCounts

/-!
# Totals of distinct rows

The total of a query counts all its rows in place of its columns, and a count of all rows has no
place for `distinct`. Of a query with groups it counts the rows of a derived table, which keeps its
columns and is distinct where the query is.

- `Query.withDistinct`: a query with its repeated rows left out, or kept.
- `Query.sql_select`: the statement is its selection and the clauses behind it.
- `Query.counted_withDistinct`: without groups the count is the same with and without repeated rows.
- `Query.sql_groupTable_withDistinct`: the table that is counted where there are groups.
- `total_distinct_iff`: whether leaving out the repeated rows has a part in the total.
  `distinct_names_total` is a total that counts repeated names.
-/

namespace QueryBuilder

namespace Query

variable {q : Query}

/-- The query with its repeated rows left out, or kept. -/
def withDistinct (q : Query) (distinct : Bool) : Query :=
  { q with distinct }

/-- A select without unions is its selection and the clauses behind it. -/
theorem sql_select (hunion : q.isUnion = false) :
    q.sql =
      concatenate (q.dialect.selectionText q.aggregate q.distinct q.columns ::
        q.clausesBehind q.tail) := by
  have hnone : q.unions.isEmpty = true := by simpa [isUnion] using hunion
  rw [sql, textIn_eq_body (.inr hunion), body_eq, if_pos hnone, baseText_eq]

/-! ## All rows -/

/-- The query for the count of all rows, in place of the columns, the ordering and the window. -/
def allRows (q : Query) : Query :=
  { q with
    aggregate := some ⟨"count", [Column.star]⟩
    columns := []
    tail := {}
    eagerLoads := []
    bindings := (((q.bindings.clear .columns).clear .orders).clear .orders) }

theorem plainCountQuery_eq (hunion : q.isUnion = false) (hgroups : q.groups = []) :
    q.plainCountQuery = q.allRows := by
  have hempty : q.groups.isEmpty = true := by rw [hgroups]; rfl
  unfold plainCountQuery
  rw [hunion]
  show (if q.groups.isEmpty then _ else _) = _
  rw [if_pos hempty]
  rfl

/-- A count of all rows is never of distinct ones. -/
theorem aggregateText_star (d : Dialect) (distinct : Bool) (function : String) :
    d.aggregateText distinct ⟨function, [Column.star]⟩ = "select " ++ function ++
      "(*) as aggregate" := by
  have hstar : d.columns [Column.star] = "*" := by cases d <;> rfl
  have hnone : (distinct && "*" != "*") = false := Bool.and_false distinct
  unfold Dialect.aggregateText
  simp only [hstar, hnone]
  simp [String.append_assoc]

/-- The same rows are counted with and without repeated ones. -/
theorem sql_allRows_withDistinct (hunion : q.isUnion = false) (distinct : Bool) :
    (q.withDistinct distinct).allRows.sql = q.allRows.sql := by
  rw [sql_select (q := q.allRows) hunion,
    sql_select (q := (q.withDistinct distinct).allRows) hunion]
  show concatenate (q.dialect.aggregateText distinct _ :: _) =
    concatenate (q.dialect.aggregateText q.distinct _ :: _)
  rw [aggregateText_star, aggregateText_star]
  rfl

/-- Without groups and conditions on groups all rows are counted. -/
theorem countQuery_allRows (hunion : q.isUnion = false) (hgroups : q.groups = [] ∧ q.havings = []) :
    q.countQuery = .ok q.allRows := by
  have hempty : (q.groups.isEmpty && q.havings.isEmpty) = true := by
    rw [hgroups.1, hgroups.2]
    rfl
  unfold countQuery
  rw [if_pos hempty, plainCountQuery_eq hunion hgroups.1]

/-! ## Groups -/

/-- The table that is counted selects its columns, and is distinct where the query is. -/
theorem sql_groupTable_withDistinct (hplain : q.aggregate = none) (hunion : q.isUnion = false) :
    ∃ rest, ∀ distinct, (q.withDistinct distinct).groupTable.sql =
      q.dialect.columnsText distinct q.groupTable.columns ++ rest := by
  -- a selection is not empty, so that the blank behind it depends on the other clauses alone
  have hgap : ∀ distinct ts, gap (q.dialect.columnsText distinct q.groupTable.columns) ts =
      gap "select" ts := by
    intro distinct ts
    unfold gap Dialect.columnsText
    cases distinct <;> simp
  refine ⟨gap "select" (q.groupTable.clausesBehind q.groupTable.tail) ++
    concatenate (q.groupTable.clausesBehind q.groupTable.tail), fun distinct => ?_⟩
  have hselection : (q.withDistinct distinct).groupTable.aggregate = none := hplain
  rw [sql_select (q := (q.withDistinct distinct).groupTable) hunion, hselection, concatenate_cons,
    String.append_assoc]
  show q.dialect.columnsText distinct q.groupTable.columns ++
    (gap (q.dialect.columnsText distinct q.groupTable.columns)
      (q.groupTable.clausesBehind q.groupTable.tail) ++ _) = _
  rw [hgap]
  rfl

end Query

/-- The total of a query without unions, with an executor. One statement is sent, whether the query
keeps its repeated rows or leaves them out, and with the same values. It is the same statement for
both, and so is the total, if the query has neither groups nor conditions on groups. Otherwise it
counts over the query itself, without its ordering and its window, which is distinct where the query
is. -/
theorem total_distinct_iff {q : Query} (hplain : q.aggregate = none) (hunion : q.isUnion = false)
    (hattached : q.connection.attached = true) (s : Session) :
    ∃ (sql : Bool → String) (vs : List Value),
      (∀ distinct, ((q.withDistinct distinct).totalCount s).2 = s.sending (sql distinct) vs) ∧
      (sql true = sql false ↔ q.groups = [] ∧ q.havings = []) ∧
      (sql true = sql false → (q.withDistinct true).totalCount s =
        (q.withDistinct false).totalCount s) ∧
      (sql true ≠ sql false → ∃ rest, ∀ distinct,
        (q.withDistinct distinct).groupTable.sql =
            q.dialect.columnsText distinct q.groupTable.columns ++ rest ∧
          sql distinct = "select count(*) as aggregate from " ++ ("(" ++
            (q.withDistinct distinct).groupTable.sql ++ ") as " ++
              q.dialect.quoteName "aggregate_table")) := by
  have hsent : ∀ distinct counted, (q.withDistinct distinct).countQuery = .ok counted →
      (q.withDistinct distinct).totalCount s =
        (s.answer.map fun rows => ((countOf rows).getD 0).toNat,
          s.sending counted.sql counted.values) := by
    intro distinct counted hcounted
    obtain ⟨_, hcounted', hsame⟩ := (q.withDistinct distinct).countQuery_ok
    obtain rfl := Except.ok.inj (hcounted.symm.trans hcounted')
    exact Query.totalCount_sent (q := q.withDistinct distinct) hattached hcounted hsame s
  by_cases hgroups : q.groups = [] ∧ q.havings = []
  · have htotal : ∀ distinct, (q.withDistinct distinct).totalCount s =
        (s.answer.map fun rows => ((countOf rows).getD 0).toNat,
          s.sending q.allRows.sql q.allRows.values) := by
      intro distinct
      rw [hsent distinct _ (Query.countQuery_allRows (q := q.withDistinct distinct) hunion hgroups),
        Query.sql_allRows_withDistinct hunion]
      rfl
    refine ⟨fun _ => q.allRows.sql, q.allRows.values, fun distinct => ?_, iff_of_true rfl hgroups,
      fun _ => ?_, fun h => absurd rfl h⟩
    · rw [htotal]
    · rw [htotal, htotal]
  · obtain ⟨rest, hrest⟩ := Query.sql_groupTable_withDistinct hplain hunion
    have hsql : ∀ distinct, ((q.withDistinct distinct).totalCount s).2 =
        s.sending ("select count(*) as aggregate from " ++
          ("(" ++ (q.withDistinct distinct).groupTable.sql ++
          ") as " ++ q.dialect.quoteName "aggregate_table")) q.groupTable.values := by
      intro distinct
      obtain ⟨counted, hcounted, -⟩ := (q.withDistinct distinct).countQuery_ok
      obtain ⟨htext, hvalues⟩ := Query.counted_grouped
        (q := q.withDistinct distinct) hgroups hcounted
      rw [hsent distinct counted hcounted, htext, hvalues]
      rfl
    -- the two tables begin differently
    have hdiffer : (q.withDistinct true).groupTable.sql ≠
        (q.withDistinct false).groupTable.sql := by
      intro h
      rw [hrest, hrest, String.append_left_inj] at h
      unfold Dialect.columnsText at h
      rw [String.append_left_inj] at h
      exact absurd h (by decide)
    refine ⟨_, _, hsql, iff_of_false ?_ hgroups, ?_,
      fun _ => ⟨rest, fun distinct => ⟨hrest distinct, rfl⟩⟩⟩
    · simpa only [String.append_left_inj, String.append_right_inj] using hdiffer
    · intro h
      simp only [String.append_left_inj, String.append_right_inj] at h
      exact absurd h hdiffer

/-- The distinct names of the users in each group of an age. -/
def namesByAge : Query :=
  { plainUsers with columns := [.name "name"], groups := [.name "age"] }

/-- The groups are counted over a table that is distinct where the query is. -/
theorem total_distinct_iff_grouped :
    ((namesByAge.withDistinct true).totalCount {}).2.sent =
      [.query ("select count(*) as aggregate from (select distinct \x60name\x60 from \x60users\x60 "
        ++
        "group by \x60age\x60) as \x60aggregate_table\x60") []] ∧
      ((namesByAge.withDistinct true).totalCount {}).2.sent ≠
        ((namesByAge.withDistinct false).totalCount {}).2.sent := by
  obtain ⟨sql, vs, hsent, hiff, -, -⟩ := total_distinct_iff (q := namesByAge) rfl rfl rfl {}
  refine ⟨rfl, fun h => ?_⟩
  rw [hsent, hsent] at h
  have hsame : sql true = sql false := (Sent.query.inj (List.cons.inj h).1).1
  exact absurd (hiff.mp hsame).1 (List.cons_ne_nil _ _)

/-- The total of the distinct names counts every user: neither `distinct` nor the name is in the
statement. -/
theorem distinct_names_total :
    (({ plainUsers with columns := [.name "name"], distinct := true } : Query)).sql =
        "select distinct \x60name\x60 from \x60users\x60" ∧
      (({ plainUsers with columns := [.name "name"], distinct := true } : Query).totalCount
        {}).2.sent =
          [.query "select count(*) as aggregate from \x60users\x60" []] :=
  ⟨rfl, rfl⟩

end QueryBuilder
