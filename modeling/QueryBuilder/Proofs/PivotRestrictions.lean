import Mathlib.Data.List.Forall2
import QueryBuilder.Proofs.Batches

/-!
# Restrictions of pivot rows

Related rows behind a pivot table are asked for by two queries: one for the rows, joined to the
pivot table, and one for the pivot rows alone. The conditions and orderings of the relation are
about pivot rows, and both queries carry them: the first with the name of the pivot table in front
of their columns, the second without.

- `PivotCondition.predicate`, `PivotCondition.values`: what a condition on the pivot table comes
  down to, and what it binds.
- `Query.restrictedBy`, `Query.orderedBy`: a query with further conditions and orderings, in closed
  form.
- `Condition.Qualifies`, `SortKey.Qualifies`: one condition, or ordering, is another with a table's
  name in front of its column.
- `ManyToMany.SameRestriction`: two queries restrict and order pivot rows alike.
- `pivot_restrictions_correspond`: loading sends two queries of which this is true, or fails and
  sends nothing.
-/

namespace QueryBuilder

/-! ## Conditions on the pivot table -/

namespace PivotCondition

/-- The predicate of a condition on the pivot table, whose column is spelled by `place`. -/
def predicate (place : String → String) : PivotCondition → Predicate
  | compare column operator value =>
    if value.isNull then .isNull (Text.lower (Text.trim operator) != "=") (.name (place column))
    else .compare (.name (place column)) (Text.lower (Text.trim operator)) value
  | isIn column values negated => .isIn negated (.name (place column)) values
  | between column low high negated => .between negated (.name (place column)) low high
  | isNull column negated => .isNull negated (.name (place column))

/-- The condition of a query that a condition on the pivot table comes down to. -/
def condition (place : String → String) (c : PivotCondition) : Condition :=
  ⟨.and, c.predicate place⟩

/-- The values that a condition on the pivot table binds. -/
def values : PivotCondition → List Value
  | compare _ _ value => if value.isNull then [] else value.scalars
  | isIn _ values _ => values.flatMap Operand.scalars
  | between _ low high _ => low.scalars ++ high.scalars
  | isNull _ _ => []

variable {value : Operand}

/-- A comparison with null asks whether the column is null, and binds nothing. -/
theorem compare_null (h : value.isNull = true) (column operator : String)
    (place : String → String) :
    (compare column operator value).values = [] ∧ (compare column operator value).predicate place =
      .isNull (Text.lower (Text.trim operator) != "=") (.name (place column)) :=
  ⟨if_pos h, if_pos h⟩

/-- A comparison with anything else keeps its operator, trimmed and in lower case, and binds its
scalars. -/
theorem compare_operand (h : value.isNull = false) (column operator : String)
    (place : String → String) :
    (compare column operator value).values = value.scalars ∧
      (compare column operator value).predicate place =
      .compare (.name (place column)) (Text.lower (Text.trim operator)) value :=
  ⟨if_neg (h ▸ Bool.false_ne_true), if_neg (h ▸ Bool.false_ne_true)⟩

end PivotCondition

/-- The ordering by a column of the pivot table. -/
def pivotSortKey (place : String → String) (order : String × Direction) : SortKey :=
  .column (.name (place order.1)) order.2

namespace Query

/-- The query with conditions on the pivot table. -/
def restrictedBy (q : Query) (place : String → String) (conditions : List PivotCondition) : Query :=
  { q.bind .wheres (conditions.flatMap PivotCondition.values) with
    wheres := q.wheres ++ conditions.map (PivotCondition.condition place) }

/-- The query with orderings by columns of the pivot table. -/
def orderedBy (q : Query) (place : String → String) (orders : List (String × Direction)) : Query :=
  { q with tail := { q.tail with orders := q.tail.orders ++ orders.map (pivotSortKey place) } }

theorem restrictedBy_nil (q : Query) (place : String → String) : q.restrictedBy place [] = q := by
  unfold restrictedBy
  rw [List.flatMap_nil, bind_nil, List.map_nil, List.append_nil]
  cases q
  rfl

/-- Conditions are added from the first on, each with its values. -/
theorem restrictedBy_cons (q : Query) (place : String → String) (condition : PivotCondition)
    (rest : List PivotCondition) :
    q.restrictedBy place (condition :: rest) =
      ((q.bind .wheres condition.values).addWhere .and (condition.predicate place)).restrictedBy
        place rest := by
  unfold restrictedBy
  rw [List.flatMap_cons, ← bind_bind, List.map_cons, List.append_cons]
  rfl

theorem orderedBy_nil (q : Query) (place : String → String) : q.orderedBy place [] = q := by
  unfold orderedBy
  rw [List.map_nil, List.append_nil]
  cases q
  rfl

/-- Orderings are added from the first on. On a union they would stand behind the union. -/
theorem orderedBy_cons (q : Query) (place : String → String) (order : String × Direction)
    (rest : List (String × Direction)) (h : q.unions = []) :
    q.orderedBy place (order :: rest) =
      (q.orderBy (.name (place order.1)) order.2).orderedBy place rest := by
  have hselect : q.orderBy (.name (place order.1)) order.2 =
      { q with tail := { q.tail with orders := q.tail.orders ++ [pivotSortKey place order] } } := by
    unfold orderBy addSortKey updateTail isUnion
    rw [h]
    rfl
  rw [hselect]
  unfold orderedBy
  rw [List.map_cons, List.append_cons]

end Query

namespace ManyToMany

variable {m : ManyToMany} {q : Query}

/-- Adding a condition adds its predicate and binds its values. -/
theorem addCondition_eq {condition : PivotCondition} (h : condition.Accepted q.dialect)
    (qualified : Bool) :
    m.addCondition qualified q condition = .ok ((q.bind .wheres condition.values).addWhere .and
      (condition.predicate (m.pivotColumn qualified))) := by
  cases condition with
  | compare column operator value =>
    -- what is compared with null is a test for null, which binds nothing
    cases hnull : value.isNull with
    | true =>
      obtain ⟨hvalues, hpredicate⟩ :=
        PivotCondition.compare_null hnull column operator (m.pivotColumn qualified)
      rw [hvalues, hpredicate, Query.bind_nil]
      exact Query.compareColumn_null h hnull .and (.name (m.pivotColumn qualified column))
    | false =>
      obtain ⟨hvalues, hpredicate⟩ :=
        PivotCondition.compare_operand hnull column operator (m.pivotColumn qualified)
      rw [hvalues, hpredicate]
      exact Query.compareColumn_operand h hnull .and (.name (m.pivotColumn qualified column))
  | isIn column values negated => rfl
  | between column low high negated => rfl
  | isNull column negated =>
    unfold PivotCondition.values
    rw [Query.bind_nil]
    rfl

/-- Adding all conditions in turn is `restrictedBy`. -/
theorem addConditions_eq (h : m.Accepted q.dialect) (qualified : Bool) :
    m.addConditions qualified q = .ok (q.restrictedBy (m.pivotColumn qualified) m.conditions) := by
  unfold addConditions
  unfold Accepted at h
  -- the induction is on the conditions alone, with the query free: each step is a larger query
  generalize m.conditions = conditions at h
  induction conditions generalizing q with
  | nil =>
    rw [Query.restrictedBy_nil]
    rfl
  | cons condition rest ih =>
    rw [List.foldlM_cons, addCondition_eq (h condition List.mem_cons_self) qualified,
      Query.restrictedBy_cons]
    exact ih fun other hother => h other (List.mem_cons_of_mem _ hother)

/-- Adding all orderings in turn is `orderedBy`. -/
theorem addOrders_eq (h : q.unions = []) (qualified : Bool) :
    m.addOrders qualified q = q.orderedBy (m.pivotColumn qualified) m.orders := by
  unfold addOrders
  generalize m.orders = orders
  induction orders generalizing q with
  | nil =>
    rw [Query.orderedBy_nil]
    rfl
  | cons order rest ih =>
    -- an ordering makes no union, so the next one is added in the same place
    have hunions : (q.orderBy (.name (m.pivotColumn qualified order.1)) order.2).unions = [] := by
      unfold Query.orderBy Query.addSortKey Query.updateTail
      split <;> exact h
    rw [Query.orderedBy_cons q _ order rest h]
    exact ih hunions

/-- The query for the related rows before it is restricted. -/
def joinedRows (m : ManyToMany) (c : Connection) : Query :=
  m.joinPivot ((Query.table c m.table).addSelect
    [.name (m.qualifiedForeignKey ++ " as " ++ pivotIdField), .name (m.table ++ ".*")])

/-- A query with all that the relation says of pivot rows, for the keys in a column. -/
def restricted (m : ManyToMany) (qualified : Bool) (keys : List Value) (q : Query) : Query :=
  ((q.restrictedBy (m.pivotColumn qualified) m.conditions).orderedBy
    (m.pivotColumn qualified) m.orders).keyedBy
    (m.pivotColumn qualified m.foreignPivotKey) keys

/-- The query for the related rows is the joined rows with all that is said of pivot rows. -/
theorem relatedQuery_restricted {c : Connection} (h : m.Accepted c.dialect) (keys : List Value) :
    m.relatedQuery keys (.table c m.table) = .ok (m.restricted true keys (m.joinedRows c)) := by
  have hconditions := addConditions_eq (m := m) (q := m.joinedRows c) h true
  rw [m.relatedQuery_eq]
  have hall : m.allRelated (.table c m.table) =
      (m.addConditions true (m.joinedRows c) >>= fun q => pure (m.addOrders true q)) := rfl
  rw [hall, hconditions]
  show Except.ok ((m.addOrders true _).keyedBy _ keys) = _
  rw [addOrders_eq rfl]
  rfl

/-- The query for the pivot rows is the pivot table with all that is said of pivot rows. -/
theorem pivotQuery_restricted {c : Connection} (h : m.Accepted c.dialect) (keys : List Value) :
    m.pivotQuery keys c = .ok (m.restricted false keys (.table c m.pivotTable)) := by
  have hconditions := addConditions_eq (m := m) (q := .table c m.pivotTable) h false
  rw [m.pivotQuery_eq]
  unfold allPivots
  rw [hconditions]
  show Except.ok ((m.addOrders false _).keyedBy _ keys) = _
  rw [addOrders_eq rfl]
  rfl

end ManyToMany

/-! ## Correspondence -/

/-- The first of two predicates is the second with a table's name in front of its column. -/
inductive Predicate.Qualifies (table : String) : Predicate → Predicate → Prop
  | compare (column operator : String) (value : Operand) :
    Qualifies table (.compare (.name (table ++ "." ++ column)) operator value)
      (.compare (.name column) operator value)
  | isNull (negated : Bool) (column : String) :
    Qualifies table (.isNull negated (.name (table ++ "." ++ column)))
      (.isNull negated (.name column))
  | isIn (negated : Bool) (column : String) (candidates : List Operand) :
    Qualifies table (.isIn negated (.name (table ++ "." ++ column)) candidates)
      (.isIn negated (.name column) candidates)
  | between (negated : Bool) (column : String) (low high : Operand) :
    Qualifies table (.between negated (.name (table ++ "." ++ column)) low high)
      (.between negated (.name column) low high)

/-- The first of two conditions is the second with a table's name in front of its column. -/
structure Condition.Qualifies (table : String) (first second : Condition) : Prop where
  connector : first.connector = second.connector
  predicate : first.predicate.Qualifies table second.predicate

/-- The first of two orderings is the second with a table's name in front of its column. -/
inductive SortKey.Qualifies (table : String) : SortKey → SortKey → Prop
  | column (column : String) (direction : Direction) :
    Qualifies table (.column (.name (table ++ "." ++ column)) direction)
      (.column (.name column) direction)

/-- Two queries restrict pivot rows to some keys, and by the conditions of the relation, and order
them alike: the second names the columns of the pivot table, and the first puts the table's name in
front of them. -/
structure ManyToMany.SameRestriction (m : ManyToMany) (keys : List Value) (first second : Query) :
    Prop where
  values : first.values = second.values
  wheres : List.Forall₂ (Condition.Qualifies m.pivotTable) first.wheres second.wheres
  restriction : second.wheres = m.conditions.map (PivotCondition.condition id) ++
    [⟨.and, .isIn false (.name m.foreignPivotKey) (keys.map Operand.value)⟩]
  orders : List.Forall₂ (SortKey.Qualifies m.pivotTable) first.tail.orders second.tail.orders
  ordering : second.tail.orders = m.orders.map (pivotSortKey id)

namespace ManyToMany

variable {m : ManyToMany}

/-- A condition written for both queries differs by the name of the pivot table alone. -/
theorem qualifies_condition (condition : PivotCondition) :
    (condition.condition (m.pivotColumn true)).Qualifies m.pivotTable
      (condition.condition (m.pivotColumn false)) where
  connector := rfl
  predicate := by
    show (condition.predicate (m.pivotColumn true)).Qualifies m.pivotTable
      (condition.predicate (m.pivotColumn false))
    cases condition with
    | compare column operator value =>
      cases hnull : value.isNull with
      | true =>
        rw [(PivotCondition.compare_null hnull _ _ _).2,
          (PivotCondition.compare_null hnull _ _ _).2]
        exact .isNull _ column
      | false =>
        rw [(PivotCondition.compare_operand hnull _ _ _).2,
          (PivotCondition.compare_operand hnull _ _ _).2]
        exact .compare column _ value
    | isIn column values negated => exact .isIn negated column values
    | between column low high negated => exact .between negated column low high
    | isNull column negated => exact .isNull negated column

theorem bindings_joinedRows (c : Connection) : (m.joinedRows c).bindings = {} := by
  show (Query.bind _ .joins []).bindings = _
  rw [Query.bind_nil]
  rfl

/-- The two queries of a relation restrict pivot rows alike. -/
theorem sameRestriction_restricted (keys : List Value) (c : Connection) :
    m.SameRestriction keys (m.restricted true keys (m.joinedRows c))
      (m.restricted false keys (.table c m.pivotTable)) where
  values := by
    show (((m.joinedRows c).bindings.extend .wheres _).extend .wheres _).flatten = _
    rw [bindings_joinedRows]
    rfl
  wheres := by
    -- the conditions correspond one to one, and the keys behind them as well
    have hconditions : List.Forall₂ (Condition.Qualifies m.pivotTable)
        (m.conditions.map (PivotCondition.condition (m.pivotColumn true)))
        (m.conditions.map (PivotCondition.condition (m.pivotColumn false))) := by
      rw [List.forall₂_map_left_iff, List.forall₂_map_right_iff, List.forall₂_same]
      exact fun condition _ => qualifies_condition condition
    exact List.rel_append hconditions (.cons ⟨rfl, .isIn false m.foreignPivotKey _⟩ .nil)
  restriction := rfl
  orders := by
    show List.Forall₂ _ (m.orders.map (pivotSortKey (m.pivotColumn true)))
      (m.orders.map (pivotSortKey (m.pivotColumn false)))
    rw [List.forall₂_map_left_iff, List.forall₂_map_right_iff, List.forall₂_same]
    exact fun order _ => .column order.1 order.2
  ordering := rfl

end ManyToMany

/-! ## Loading -/

variable {m : ManyToMany} {c : Connection} {parents : List Record}

/-- Loading through a pivot table comes down to its two queries where the dialect knows all
operators. -/
theorem load_restricted (fetch : Query → Run (List Record)) (name : String)
    (haccepted : m.Accepted c.dialect) (hkeys : parentKeys m.localKey parents ≠ []) :
    (Relation.mk (.belongsToMany m) []).load fetch c name parents =
      (fetch (m.restricted true (parentKeys m.localKey parents) (m.joinedRows c)) >>= fun rows =>
        fetch (m.restricted false (parentKeys m.localKey parents) (.table c m.pivotTable)) >>=
          fun pivots => pure (m.attach name c.config.pivotKey parents rows pivots)) := by
  rw [Relation.load_pivoted_eq (r := .mk (.belongsToMany m) []) fetch name rfl rfl hkeys]
  simp only [Link.parentKey, ManyToMany.pivotQuery_restricted haccepted]
  rw [show m.relatedQuery _ (.table c (Link.belongsToMany m).table) = _ from
    ManyToMany.relatedQuery_restricted haccepted _]
  rfl

/-- Without an executor nothing is sent. -/
theorem load_restricted_detached (name : String) (depth : Nat) (haccepted : m.Accepted c.dialect)
    (hkeys : parentKeys m.localKey parents ≠ []) (hattached : c.attached = false) (s : Session) :
    (Relation.mk (.belongsToMany m) []).load (Query.fetchWithin depth) c name parents s =
      (.error .noExecutor, s) := by
  rw [load_restricted _ name haccepted hkeys, Query.fetchWithin_of_no_loads rfl]
  exact bind_apply_error (Connection.query_detached hattached _ _ s)

/-- With an executor both queries are sent. -/
theorem load_restricted_attached (name : String) (depth : Nat) (haccepted : m.Accepted c.dialect)
    (hkeys : parentKeys m.localKey parents ≠ []) (hattached : c.attached = true)
    {rows pivots : List Record} {s : Session} (hrows : s.answer = .ok rows)
    (hpivots : s.secondAnswer = .ok pivots) {first second : Query}
    (hfirst : m.restricted true (parentKeys m.localKey parents) (m.joinedRows c) = first)
    (hsecond : m.restricted false (parentKeys m.localKey parents) (.table c m.pivotTable) =
      second) :
    (Relation.mk (.belongsToMany m) []).load (Query.fetchWithin depth) c name parents s =
      (.ok (m.attach name c.config.pivotKey parents rows pivots),
        (s.sending first.sql first.values).sending second.sql second.values) := by
  have hfetch : Query.fetchWithin depth first s = (.ok rows, s.sending first.sql first.values) := by
    rw [← hfirst, Query.fetchWithin_apply rfl hattached depth s, hrows]
  have hpivotFetch : Query.fetchWithin depth second (s.sending first.sql first.values) =
      (.ok pivots, (s.sending first.sql first.values).sending second.sql second.values) := by
    rw [← hsecond, Query.fetchWithin_apply rfl hattached depth, Session.answer_sending, hpivots]
  rw [load_restricted _ name haccepted hkeys, hfirst, hsecond, bind_apply_ok hfetch]
  exact bind_apply_ok hpivotFetch

/-- Loading a relation through a pivot table, without a scope and for parents with keys, fails and
sends nothing if there is no executor or the dialect does not know an operator. Otherwise it sends
two queries, for the related rows and for the pivot rows, that restrict the pivot rows alike: they
bind the same values, their conditions and orderings correspond one to one, and those of the second
are the conditions and orderings of the relation, with the keys last. -/
theorem pivot_restrictions_correspond (name : String) (depth : Nat) (m : ManyToMany)
    (c : Connection) (parents rows pivots : List Record) (s : Session)
    (hkeys : parentKeys m.localKey parents ≠ []) (hrows : s.answer = .ok rows)
    (hpivots : s.secondAnswer = .ok pivots) :
    (¬ (m.Accepted c.dialect ∧ c.attached = true) → ∃ why,
      (Relation.mk (.belongsToMany m) []).load (Query.fetchWithin depth) c name parents s =
        (.error why, s)) ∧
    (m.Accepted c.dialect ∧ c.attached = true → ∃ first second,
      (Relation.mk (.belongsToMany m) []).load (Query.fetchWithin depth) c name parents s =
        (.ok (m.attach name c.config.pivotKey parents rows pivots),
          (s.sending first.sql first.values).sending second.sql second.values) ∧
      m.relatedQuery (parentKeys m.localKey parents) (.table c m.table) = .ok first ∧
      m.pivotQuery (parentKeys m.localKey parents) c = .ok second ∧
      m.SameRestriction (parentKeys m.localKey parents) first second) := by
  refine ⟨fun hfails => ?_, fun ⟨haccepted, hattached⟩ => ?_⟩
  · -- what fails first is an operator; without one, the missing executor
    by_cases haccepted : m.Accepted c.dialect
    · have hdetached : c.attached = false := by
        rw [← Bool.not_eq_true]
        exact fun hattached => hfails ⟨haccepted, hattached⟩
      exact ⟨_, load_restricted_detached name depth haccepted hkeys hdetached s⟩
    · obtain ⟨operator, herror⟩ :=
        load_unaccepted (r := .mk (.belongsToMany m) []) (s := s) name depth rfl hkeys rfl haccepted
      exact ⟨_, herror⟩
  · exact ⟨_, _,
      load_restricted_attached name depth haccepted hkeys hattached hrows hpivots rfl rfl,
      ManyToMany.relatedQuery_restricted haccepted _,
      ManyToMany.pivotQuery_restricted haccepted _, ManyToMany.sameRestriction_restricted _ c⟩

/-- The roles of a user that are granted and not revoked, the latest first. -/
def grantedRoles : ManyToMany :=
  { table := "roles", pivotTable := "role_user"
    foreignPivotKey := "user_id", relatedPivotKey := "role_id"
    conditions := [
      .compare "active" " = " (.value (.ofInt 1)), .compare "revoked_at" "=" (.value .null),
      .isIn "level" [.value (.ofInt 3), .raw "floor"] true,
      .between "rank" (.raw "1") (.value (.ofInt 9)) false]
    orders := [("granted_at", .descending)] }

/-- Both statements bind the level, the rank and the key of the user behind the flag. -/
theorem pivot_restrictions_correspond_roles :
    ∃ first second,
      (Relation.mk (.belongsToMany grantedRoles) []).load (Query.fetchWithin 0)
        { attached := true } "roles" [[("id", .ofInt 1)]] {} =
        (.ok [[("id", .ofInt 1), ("roles", .list [])]],
          (Session.sending {} first.sql first.values).sending second.sql second.values) ∧
      grantedRoles.SameRestriction [.ofInt 1] first second ∧
      second.values = [.ofInt 1, .ofInt 3, .ofInt 9, .ofInt 1] ∧
      first.wheres = [⟨.and, .compare (.name "role_user.active") "=" (.value (.ofInt 1))⟩,
        ⟨.and, .isNull false (.name "role_user.revoked_at")⟩,
        ⟨.and, .isIn true (.name "role_user.level") [.value (.ofInt 3), .raw "floor"]⟩,
        ⟨.and, .between false (.name "role_user.rank") (.raw "1") (.value (.ofInt 9))⟩,
        ⟨.and, .isIn false (.name "role_user.user_id") [.value (.ofInt 1)]⟩] := by
  have haccepted : grantedRoles.Accepted .mysql := by
    intro condition hcondition
    rcases List.mem_cons.mp hcondition with rfl | hcondition
    · show Dialect.mysql.knows (Text.lower (Text.trim " = ")) = true
      decide +kernel
    rcases List.mem_cons.mp hcondition with rfl | hcondition
    · exact rfl
    rcases List.mem_cons.mp hcondition with rfl | hcondition
    · exact trivial
    obtain rfl := List.mem_singleton.mp hcondition
    exact trivial
  obtain ⟨first, second, hload, hfirst, hsecond, hsame⟩ :=
    (pivot_restrictions_correspond "roles" 0 grantedRoles { attached := true } [[("id", .ofInt 1)]]
      [] [] {} (by decide) rfl rfl).2 ⟨haccepted, rfl⟩
  have hrows := ManyToMany.relatedQuery_restricted (c := { attached := true }) haccepted [.ofInt 1]
  have hpivots := ManyToMany.pivotQuery_restricted (c := { attached := true }) haccepted [.ofInt 1]
  obtain rfl := Except.ok.inj (hrows.symm.trans hfirst)
  obtain rfl := Except.ok.inj (hpivots.symm.trans hsecond)
  exact ⟨_, _, hload, hsame, rfl, rfl⟩

end QueryBuilder
