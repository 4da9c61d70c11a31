import QueryBuilder.Proofs.KeyedStatements
import QueryBuilder.Proofs.Pages
import QueryBuilder.Proofs.UnionAggregates

/-!
# Orderings of cursor windows

A window by cursor is meant to hold the next rows in the order of its cursor. The cursor is added
behind the entries of the ordering that stands there. Beforehand those that sort by it are dropped,
but only from the ordering of the select: over a union this is not the ordering of the whole, so the
first select is changed and the ordering of the union is not.

- `beyond`: the condition on the cursor. `Query.cursorPage_eq`: the window for every last value,
  null included.
- `Query.LedByCursor`: a window that is ordered by its cursor before anything else, and that leaves
  the selects of a union as they are.
- `Query.CursorWindow`: what a window is, and when its cursor leads it. `Query.cursorWindow_select`,
  `Query.cursorWindow_union`: for selects and for unions.
- `cursor_led_iff`: the windows after and before a value.
-/

namespace QueryBuilder

/-- The condition that a cursor is beyond the last value seen. Beyond null is whatever is not
null. -/
def beyond (column operator : String) : Option Value → List Condition
  | none => []
  | some last =>
    [⟨.and, if last.isNull then .isNull true (.name column)
      else .compare (.name column) operator (.value last)⟩]

namespace Query

variable {q window : Query} {size : Nat} {last : Option Value} {column operator : String}
  {direction : Direction}

/-- A cursor column is compared with every value, null included. -/
theorem whereIs_beyond (hclean : Text.lower (Text.trim operator) = operator)
    (hequals : operator ≠ "=") (hknows : q.dialect.knows operator = true) (column : String)
    (v : Value) :
    ∃ bindings, q.whereIs column operator (.value v) =
      .ok { q with wheres := q.wheres ++ beyond column operator (some v), bindings } := by
  -- null is asked for and binds nothing; any other value is compared with and bound
  cases hnull : v.isNull with
  | true =>
    have hvalue : (Operand.value v).isNull = true := hnull
    have hcompared := compareColumn_null (q := q) (hclean.symm ▸ hknows) hvalue .and (.name column)
    have hother : (operator != "=") = true := by simpa using hequals
    rw [hclean, hother] at hcompared
    refine ⟨q.bindings, hcompared.trans ?_⟩
    simp [addWhere, beyond, hnull]
  | false =>
    have hvalue : (Operand.value v).isNull = false := hnull
    have hbeyond : beyond column operator (some v) =
        [⟨.and, .compare (.name column) operator (.value v)⟩] := by simp [beyond, hnull]
    refine ⟨(q.keyed column operator (.value v)).bindings,
      (whereIs_keyed hclean hknows hvalue column).trans ?_⟩
    rw [hbeyond]
    rfl

/-- The window: conditions, ordering and limit are added to the query without its own ordering by
the cursor. -/
theorem cursorPage_eq (hclean : Text.lower (Text.trim operator) = operator)
    (hequals : operator ≠ "=") (hknows : q.dialect.knows operator = true) (size : Nat)
    (last : Option Value) (column : String) (direction : Direction) :
    ∃ bindings, q.cursorPage size last column operator direction =
      .ok (({ q.withoutOrdersBy column with
        wheres := q.wheres ++ beyond column operator last, bindings } : Query).updateTail
          fun tail =>
            { tail with
              orders := tail.orders ++ [.column (.name column) direction]
              limit := some size }) := by
  cases last with
  | none =>
    refine ⟨q.bindings, ?_⟩
    show Except.ok (((q.withoutOrdersBy column).orderBy (.name column) direction).limit size) = _
    -- the ordering and the limit are two changes of the tail in a row
    unfold orderBy addSortKey limit
    rw [updateTail_updateTail]
    simp [beyond, withoutOrdersBy]
  | some v =>
    obtain ⟨bindings, hbeyond⟩ := whereIs_beyond (q := q.withoutOrdersBy column) hclean hequals
      hknows column v
    refine ⟨bindings, ?_⟩
    unfold cursorPage
    simp only [hbeyond]
    unfold orderBy addSortKey limit
    show Except.ok _ = _
    rw [updateTail_updateTail]
    rfl

/-- A window that is ordered by its cursor before anything else, and by nothing else that is its
cursor. Over a union, the selects are those of the query, with a condition on the cursor in the
first. -/
structure LedByCursor (q window : Query) (column : String) (direction : Direction)
    (added : List Condition) : Prop where
  leads : ∃ rest, window.outerTail.orders = .column (.name column) direction :: rest ∧
    ∀ key ∈ rest, key.targets column = false
  first : window.isUnion = true → window.selectText window.columns window.tail =
    ({ q with wheres := q.wheres ++ added } : Query).selectText q.columns q.tail
  others : unionTexts window.dialect window.unions = unionTexts q.dialect q.unions

/-- The entries that stand before the cursor. -/
def keptOrders (q : Query) (column : String) : List SortKey :=
  if q.isUnion then q.unionTail.orders else q.tail.orders.filter fun key => !key.targets column

/-- A window by cursor: its conditions, its ordering and which rows it keeps; and when its cursor
leads it. -/
structure CursorWindow (q : Query) (size : Nat) (last : Option Value) (column operator : String)
    (direction : Direction) (window : Query) : Prop where
  wheres : window.wheres = q.wheres ++ beyond column operator last
  orders : window.outerTail.orders = q.keptOrders column ++ [.column (.name column) direction]
  limit : window.outerTail.limit = some size
  offset : window.outerTail.offset = q.outerTail.offset
  led : q.LedByCursor window column direction (beyond column operator last) ↔
    if q.isUnion then q.unionTail.orders = [] ∧ ∀ key ∈ q.tail.orders, key.targets column = false
    else ∀ key ∈ q.tail.orders, key.targets column = true

/-- The entry that is added last leads only where it is alone. -/
theorem leads_append_iff {kept : List SortKey} :
    (∃ rest, kept ++ [.column (.name column) direction] = .column (.name column) direction :: rest ∧
      ∀ key ∈ rest, key.targets column = false) ↔ kept = [] := by
  constructor
  · rintro ⟨rest, hsplit, hrest⟩
    cases kept with
    | nil => rfl
    | cons key keys =>
      obtain ⟨-, rfl⟩ := List.cons.inj hsplit
      -- an entry in front leaves the cursor among the rest, where none may be
      have hlast := hrest (.column (.name column) direction) (by simp)
      simp [SortKey.targets] at hlast
  · rintro rfl
    exact ⟨[], rfl, by simp⟩

/-- The window of a query without unions: the entries for other columns stand before the cursor. -/
theorem cursorWindow_select (hunion : q.isUnion = false) {bindings : Bindings}
    (hwindow : window = { q with
      wheres := q.wheres ++ beyond column operator last
      tail := { q.tail with
        orders := q.tail.orders.filter (fun key => !key.targets column) ++
          [.column (.name column) direction]
        limit := some size }
      bindings }) : q.CursorWindow size last column operator direction window := by
  have hplain : window.isUnion = false := hwindow ▸ hunion
  have houter : window.outerTail = window.tail := if_neg (by rw [hplain]; exact Bool.false_ne_true)
  have hwhole : q.outerTail = q.tail := if_neg (by rw [hunion]; exact Bool.false_ne_true)
  have hkept : q.keptOrders column = q.tail.orders.filter fun key => !key.targets column :=
    if_neg (by rw [hunion]; exact Bool.false_ne_true)
  have horders : window.outerTail.orders = q.keptOrders column ++
      [.column (.name column) direction] := by
    rw [houter, hkept, hwindow]
  refine ⟨by rw [hwindow], horders, by rw [houter, hwindow], by rw [houter, hwhole, hwindow], ?_⟩
  rw [if_neg (by rw [hunion]; exact Bool.false_ne_true)]
  constructor
  · intro hled
    -- only what is said of the ordering is needed: the others hold without unions
    have hnone := hled.leads
    rw [horders, leads_append_iff, hkept, List.filter_eq_nil_iff] at hnone
    exact fun key hmem => by simpa using hnone key hmem
  · intro htargets
    have hnone : q.keptOrders column = [] := by
      rw [hkept, List.filter_eq_nil_iff]
      exact fun key hmem => by simp [htargets key hmem]
    refine ⟨?_, fun hunited => ?_, by rw [hwindow]; rfl⟩
    · rw [horders]
      exact leads_append_iff.mpr hnone
    · rw [hplain] at hunited
      cases hunited

/-- The window of a union: its first select has lost the entries that sort by the cursor, and its
ordering has not. -/
theorem cursorWindow_union (hunion : q.isUnion = true) {bindings : Bindings}
    (hwindow : window = { q with
      wheres := q.wheres ++ beyond column operator last
      tail := { q.tail with orders := q.tail.orders.filter fun key => !key.targets column }
      unionTail := { q.unionTail with
        orders := q.unionTail.orders ++ [.column (.name column) direction], limit := some size }
      bindings }) : q.CursorWindow size last column operator direction window := by
  have hunited : window.isUnion = true := hwindow ▸ hunion
  have houter : window.outerTail = window.unionTail := if_pos hunited
  have hwhole : q.outerTail = q.unionTail := if_pos hunion
  have hkept : q.keptOrders column = q.unionTail.orders := if_pos hunion
  have horders : window.outerTail.orders = q.keptOrders column ++
      [.column (.name column) direction] := by
    rw [houter, hkept, hwindow]
  have hfirst : window.selectText window.columns window.tail =
      ({ q with wheres := q.wheres ++ beyond column operator last } : Query).selectText q.columns
        { q.tail with orders := q.tail.orders.filter fun key => !key.targets column } := by
    rw [hwindow]
    rfl
  -- dropping entries leaves the text of the first select alone only if there are none to drop
  have hsame := selectText_filter_iff { q with wheres := q.wheres ++ beyond column operator last }
    q.columns q.tail fun key => !key.targets column
  rw [← hfirst] at hsame
  refine ⟨by rw [hwindow], horders, by rw [houter, hwindow], by rw [houter, hwhole, hwindow], ?_⟩
  rw [if_pos hunion]
  constructor
  · intro hled
    have hnone := hled.leads
    rw [horders, leads_append_iff, hkept] at hnone
    exact ⟨hnone, fun key hmem => by simpa using hsame.mp (hled.first hunited) key hmem⟩
  · rintro ⟨hnone, hothers⟩
    refine ⟨?_, fun _ => hsame.mpr fun key hmem => by simp [hothers key hmem], by rw [hwindow]; rfl⟩
    rw [horders]
    exact leads_append_iff.mpr (hkept.trans hnone)

/-- The window for every query and every last value. -/
theorem cursorWindow_cursorPage (hclean : Text.lower (Text.trim operator) = operator)
    (hequals : operator ≠ "=") (hknows : q.dialect.knows operator = true) (size : Nat)
    (last : Option Value) (column : String) (direction : Direction) :
    ∃ window, q.cursorPage size last column operator direction = .ok window ∧
      q.CursorWindow size last column operator direction window := by
  obtain ⟨bindings, hmade⟩ := cursorPage_eq hclean hequals hknows size last column direction
  refine ⟨_, hmade, ?_⟩
  cases hunion : q.isUnion with
  | false =>
    have hplain : ¬ (q.withoutOrdersBy column).isUnion = true := by
      show ¬ q.isUnion = true
      rw [hunion]
      exact Bool.false_ne_true
    exact cursorWindow_select hunion (if_neg hplain)
  | true =>
    have hunited : (q.withoutOrdersBy column).isUnion = true := hunion
    exact cursorWindow_union hunion (if_pos hunited)

end Query

/-- For every query, united or not, every size, last value and column: there is a window after the
value and one before it. Each has the condition on the cursor last among its conditions, the cursor
last in the ordering of the whole, and the limit. The cursor leads, and the selects of a union are
left alone, exactly if a query without unions sorts by nothing but the cursor, and a union as a
whole by nothing at all while its first select does not sort by the cursor. -/
theorem cursor_led_iff (q : Query) (size : Nat) (last : Option Value) (column : String) :
    (∃ window, q.pageAfter size last column = .ok window ∧
      q.CursorWindow size last column ">" .ascending window) ∧
    ∃ window, q.pageBefore size last column = .ok window ∧
      q.CursorWindow size last column "<" .descending window := by
  have hafter : q.dialect.knows ">" = true := by cases q.dialect <;> decide
  have hbefore : q.dialect.knows "<" = true := by cases q.dialect <;> decide
  exact ⟨Query.cursorWindow_cursorPage rfl (by decide) hafter size last column .ascending,
    Query.cursorWindow_cursorPage rfl (by decide) hbefore size last column .descending⟩

/-- Users and admins, the newest first. -/
def newestOfBoth : Query :=
  ({ Query.table { attached := true } "users" with
    unions := [⟨false, Query.table { attached := true } "admins"⟩] } : Query).orderBy
      (.name "id") .descending

/-- The window after a key, in descending order. -/
theorem unled_cursor_newest :
    (newestOfBoth.pageAfter 2 (some (.ofInt 5)) "id").map
      (fun window => (window.sql, window.outerTail.orders)) =
      .ok ("(select * from \x60users\x60 where \x60id\x60 > ?) " ++
        "union (select * from \x60admins\x60) order by \x60id\x60 desc, \x60id\x60 asc limit 2",
        [.column (.name "id") .descending, .column (.name "id") .ascending]) := by
  decide +kernel

end QueryBuilder
