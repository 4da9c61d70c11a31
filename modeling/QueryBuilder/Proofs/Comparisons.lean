import QueryBuilder.Proofs.CheckedOperators

/-!
# Comparisons of every shape

A comparison may leave out its operator, its value may be an operand, null or a sub-query, and in
the place of its column may stand a sub-query. Whatever its shape, it fails or adds one condition
together with the values of this condition.

- `Query.Resolves`: the condition that a column, an operator and a comparand come to, and the values
  it binds.
- `Query.compareColumn_none`: without an operator a comparison is for equality.
- `Query.compareColumn_eq_ok_iff`, `Query.compareColumn_error`: what a comparison of a column adds,
  and when it fails.
- `Query.compare_query`: a sub-query in the place of the column is an expression that binds its
  values first.
- `comparisons_resolve`: all of it together.
-/

namespace QueryBuilder

/-- Null is one value, and raw SQL is never null. -/
theorem Operand.eq_null_of_isNull {o : Operand} (h : o.isNull = true) : o = .value .null := by
  cases o with
  | raw sql => exact nomatch h
  | value v =>
    cases v with
    | null => rfl
    | _ => exact nomatch h

namespace Query

variable {q q' : Query} {connector : Connector} {column : Column} {operator : String}
  {value : Comparand}

/-- The condition that a comparison of a column comes to when its operator is read, and the values
it binds. Null is asked for, not compared with, and binds nothing. -/
inductive Resolves (q : Query) (column : Column) (operator : String) :
    Comparand → Predicate → List Value → Prop where
  | null : Resolves q column operator (.value .null) (.isNull (operator != "=") column) []
  | operand {o : Operand} (ho : o.isNull = false) :
      Resolves q column operator (.operand o) (.compare column operator o) o.scalars
  | query {s : Subquery} {sub : Query} (hs : s.build q = .ok sub) :
      Resolves q column operator (.query s) (.compareQuery column operator sub) sub.values

/-! ## Columns -/

/-- Without an operator a comparison is for equality. -/
theorem compareColumn_none (q : Query) (connector : Connector) (column : Column)
    (value : Comparand) :
    q.compareColumn connector column none value =
      q.compareColumn connector column (some "=") value := by
  cases hnull : value.isNull with
  | false =>
    unfold compareColumn
    simp only [Option.isNone_none, Option.isNone_some, hnull, Bool.and_false, Option.getD_none,
      Option.getD_some]
  | true =>
    -- without an operator the question for null comes before the operator is looked at
    cases value with
    | query s => exact nomatch hnull
    | operand o =>
      rw [compareColumn_null (accepts_of_knows (knows_equals q.dialect)) hnull,
        normal_of_knows (knows_equals q.dialect)]
      exact if_pos (Bool.and_eq_true_iff.mpr ⟨rfl, hnull⟩)

/-- An operator that does not pass fails before the value is looked at. -/
theorem compareColumn_error (h : q.dialect.accepts operator = false) (connector : Connector)
    (column : Column) (value : Comparand) :
    q.compareColumn connector column (some operator) value =
      .error (.misuse (.illegalOperator (Text.lower (Text.trim operator)))) := by
  have hknows : ¬ q.dialect.knows (Text.lower (Text.trim operator)) = true := by
    rw [Dialect.accepts] at h
    rw [h]
    exact Bool.false_ne_true
  have hchecked : q.checkedOperator operator =
      .error (.misuse (.illegalOperator (Text.lower (Text.trim operator)))) := by
    unfold checkedOperator
    exact if_neg hknows
  unfold compareColumn
  simp only [Option.isNone_some, Bool.false_and, Option.getD_some, hchecked]
  rfl

/-- A sub-query on the right is built, and its values are bound. -/
theorem compareColumn_query (h : q.dialect.accepts operator = true) (connector : Connector)
    (column : Column) (s : Subquery) :
    q.compareColumn connector column (some operator) (.query s) = s.build q >>= fun sub =>
      .ok ((q.bind .wheres sub.values).addWhere connector
        (.compareQuery column (Text.lower (Text.trim operator)) sub)) := by
  unfold compareColumn
  simp only [Option.isNone_some, Bool.false_and, Option.getD_some, checkedOperator_ok h]
  rfl

/-- A comparison with an operator that passes adds what the operator and the value come to. -/
theorem compareColumn_accepted (h : q.dialect.accepts operator = true) :
    q.compareColumn connector column (some operator) value = .ok q' ↔
      ∃ predicate vs, q.Resolves column (Text.lower (Text.trim operator)) value predicate vs ∧
        q' = (q.bind .wheres vs).addWhere connector predicate := by
  -- the cases of the comparand are those of `Resolves`
  cases value with
  | query s =>
    rw [compareColumn_query h, bind_eq_ok]
    constructor
    · rintro ⟨sub, hs, hq⟩
      exact ⟨_, _, .query hs, (Except.ok.inj hq).symm⟩
    · rintro ⟨_, _, ⟨⟩, rfl⟩
      next sub hs => exact ⟨sub, hs, rfl⟩
  | operand o =>
    cases hnull : o.isNull with
    | true =>
      rw [compareColumn_null h hnull]
      obtain rfl := Operand.eq_null_of_isNull hnull
      constructor
      · intro hq
        refine ⟨_, _, .null, ?_⟩
        rw [bind_nil]
        exact (Except.ok.inj hq).symm
      · rintro ⟨_, _, hresolves, rfl⟩
        cases hresolves with
        | null => rw [bind_nil]
        | operand ho => exact nomatch ho
    | false =>
      rw [compareColumn_operand h hnull]
      constructor
      · intro hq
        exact ⟨_, _, .operand hnull, (Except.ok.inj hq).symm⟩
      · rintro ⟨_, _, hresolves, rfl⟩
        cases hresolves with
        | null => exact nomatch hnull
        | operand => rfl

/-- A comparison succeeds with one condition more, and the values of this condition. -/
theorem compareColumn_eq_ok_iff {given : Option String} :
    q.compareColumn connector column given value = .ok q' ↔
      q.dialect.accepts (given.getD "=") = true ∧ ∃ predicate vs,
        q.Resolves column (Text.lower (Text.trim (given.getD "="))) value predicate vs ∧
          q' = (q.bind .wheres vs).addWhere connector predicate := by
  -- an operator that is left out is filled in first
  have hgiven : q.compareColumn connector column given value =
      q.compareColumn connector column (some (given.getD "=")) value := by
    cases given with
    | none => exact q.compareColumn_none connector column value
    | some operator => rfl
  rw [hgiven]
  cases haccepts : q.dialect.accepts (given.getD "=") with
  | true => simp [compareColumn_accepted haccepts]
  | false => simp [compareColumn_error haccepts]

/-! ## Sub-queries in the place of a column -/

/-- With a value to compare, a sub-query on the left is an expression, whose values are bound
first. -/
theorem compare_query (hvalue : value.isNull = false) (s : Subquery) (given : Option String) :
    q.compare connector (.query s) given value = s.text q >>= fun (sql, vs) =>
      (q.bind .wheres vs).compareColumn connector (.raw ("(" ++ sql ++ ")")) given value := by
  unfold compare
  rw [hvalue, Bool.and_false]
  rfl

/-- A query with more values in it builds the same sub-queries. -/
theorem resolves_bind (vs : List Value) {predicate : Predicate} {ws : List Value} :
    (q.bind .wheres vs).Resolves column operator value predicate ws ↔
      q.Resolves column operator value predicate ws := by
  constructor
  · rintro (_ | ho | hs)
    · exact .null
    · exact .operand ho
    · exact .query hs
  · rintro (_ | ho | hs)
    · exact .null
    · exact .operand ho
    · exact .query hs

/-- A comparison of a sub-query succeeds with one condition more. The values of the sub-query come
in front of those it is compared with. -/
theorem compare_query_eq_ok_iff (hvalue : value.isNull = false) (s : Subquery)
    {given : Option String} :
    q.compare connector (.query s) given value = .ok q' ↔
      q.dialect.accepts (given.getD "=") = true ∧ ∃ sql vs predicate ws, s.text q = .ok (sql, vs) ∧
        q.Resolves (.raw ("(" ++ sql ++ ")")) (Text.lower (Text.trim (given.getD "="))) value
          predicate ws ∧ q' = (q.bind .wheres (vs ++ ws)).addWhere connector predicate := by
  -- the condition comes from the query with the values of the sub-query in it, which resolves
  -- alike
  rw [compare_query hvalue, bind_eq_ok]
  constructor
  · rintro ⟨⟨sql, vs⟩, htext, hcompared⟩
    obtain ⟨haccepts, predicate, ws, hresolves, rfl⟩ := compareColumn_eq_ok_iff.mp hcompared
    rw [bind_bind]
    exact ⟨haccepts, sql, vs, predicate, ws, htext, (resolves_bind vs).mp hresolves, rfl⟩
  · rintro ⟨haccepts, sql, vs, predicate, ws, htext, hresolves, rfl⟩
    refine ⟨(sql, vs), htext, compareColumn_eq_ok_iff.mpr ⟨haccepts, predicate, ws,
      (resolves_bind vs).mpr hresolves, ?_⟩⟩
    rw [bind_bind]

end Query

/-- For every query and connector. A comparison of a column without an operator is the one with `=`,
for every value. It succeeds exactly with an operator that passes and a value that comes to a
condition, and adds this condition with the values it binds. Compared with null, a column is asked
whether it is null if the operator is `=`, whether it is not null if it is another one that passes,
and no value is bound; an operator that does not pass is refused. With a value to compare, a
sub-query in the place of the column is compared by `=` too when there is no operator, and its
values are bound before those of what it is compared with. -/
theorem comparisons_resolve (q : Query) (connector : Connector) :
    (∀ column value, q.compare connector (.column column) none value =
      q.compare connector (.column column) (some "=") value) ∧
    (∀ column given value q', q.compare connector (.column column) given value = .ok q' ↔
      q.dialect.accepts (given.getD "=") = true ∧ ∃ predicate vs,
        q.Resolves column (Text.lower (Text.trim (given.getD "="))) value predicate vs ∧
          q' = (q.bind .wheres vs).addWhere connector predicate) ∧
    (∀ column operator,
      (Text.lower (Text.trim operator) = "=" →
        q.compare connector (.column column) (some operator) (.value .null) =
          .ok { q with wheres := q.wheres ++ [⟨connector, .isNull false column⟩] }) ∧
      (Text.lower (Text.trim operator) ≠ "=" → q.dialect.accepts operator = true →
        q.compare connector (.column column) (some operator) (.value .null) =
          .ok { q with wheres := q.wheres ++ [⟨connector, .isNull true column⟩] }) ∧
      (q.dialect.accepts operator = false →
        q.compare connector (.column column) (some operator) (.value .null) =
          .error (.misuse (.illegalOperator (Text.lower (Text.trim operator)))))) ∧
    ∀ s value, value.isNull = false →
      q.compare connector (.query s) none value = q.compare connector (.query s) (some "=") value ∧
      ∀ q', q.compare connector (.query s) none value = .ok q' ↔
        ∃ sql vs predicate ws, s.text q = .ok (sql, vs) ∧
          q.Resolves (.raw ("(" ++ sql ++ ")")) "=" value predicate ws ∧
            q' = (q.bind .wheres (vs ++ ws)).addWhere connector predicate := by
  have hequals : q.dialect.accepts "=" = true := accepts_of_knows (knows_equals q.dialect)
  refine ⟨q.compareColumn_none connector,
    fun column given value q' => Query.compareColumn_eq_ok_iff,
    fun column operator => ⟨fun hnormal => ?_, fun hnormal haccepts => ?_,
      fun hrefused => Query.compareColumn_error hrefused connector column _⟩,
    fun s value hvalue => ⟨?_, fun q' => ?_⟩⟩
  · have haccepts : q.dialect.accepts operator = true := by
      rw [Dialect.accepts, hnormal]
      exact knows_equals q.dialect
    have hcompared := Query.compareColumn_null haccepts (o := .value .null) rfl connector column
    -- the operator is `=`, so the column is asked whether it is null
    rw [hnormal] at hcompared
    exact hcompared
  · have hcompared := Query.compareColumn_null haccepts (o := .value .null) rfl connector column
    rw [bne_iff_ne.mpr hnormal] at hcompared
    exact hcompared
  · rw [Query.compare_query hvalue, Query.compare_query hvalue]
    exact bind_congr fun text => Query.compareColumn_none _ connector _ value
  · rw [Query.compare_query_eq_ok_iff hvalue]
    exact and_iff_right hequals

/-- The posts of user seven. -/
def postsOfSeven : Query :=
  (Query.table {} "posts").whereRaw .and "user_id = ?" [.ofInt 7]

/-- Users without a name, users with one, users whose name is compared by no operator, and a number
that is compared with what a sub-query finds. -/
theorem comparisons_resolve_users :
    (Query.table {} "users").compare .or (.column (.name "name")) (some " = ") (.value .null) =
        .ok ((Query.table {} "users").addWhere .or (.isNull false (.name "name"))) ∧
      (Query.table {} "users").compare .or (.column (.name "name")) (some "LIKE") (.value .null) =
        .ok ((Query.table {} "users").addWhere .or (.isNull true (.name "name"))) ∧
      (Query.table {} "users").compare .or (.column (.name "name")) (some "IS") (.value .null) =
        .error (.misuse (.illegalOperator "is")) ∧
      ∃ q', (Query.table {} "users").compare .or (.query (.query postsOfSeven)) none
        (.value (.ofInt 3)) = .ok q' ∧ q'.bindings.get .wheres = [.ofInt 7, .ofInt 3] := by
  obtain ⟨-, -, hnull, hquery⟩ := comparisons_resolve (Query.table {} "users") .or
  refine ⟨(hnull (.name "name") " = ").1 (by decide +kernel),
    (hnull (.name "name") "LIKE").2.1 (by decide +kernel) (by decide +kernel), ?_, ?_⟩
  · have hsmall : Text.lower (Text.trim "IS") = "is" := by decide +kernel
    rw [(hnull (.name "name") "IS").2.2 (by decide +kernel), hsmall]
  · obtain ⟨-, hfound⟩ := hquery (.query postsOfSeven) (.value (.ofInt 3)) rfl
    exact ⟨_, (hfound _).mpr ⟨_, _, _, _, rfl, .operand rfl, rfl⟩, rfl⟩

end QueryBuilder
