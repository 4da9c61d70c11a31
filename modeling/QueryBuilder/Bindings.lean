import QueryBuilder.Error
import QueryBuilder.Value.Basic
import QueryBuilder.Text.Join

/-!
# Parameter values

The binder of §2 and §4.1 of the specification.

* `Clause`: the nine clauses that bind values, in the order in which they stand in a statement.
* `Bindings`: one list of values for each clause.
* `Bindings.flattenExcept`: the scalars of all lists but some, in the order of the clauses.

Every operation is pinned by what `get` says afterwards (`get_set`, `get_extend`, `get_merge`).
-/

namespace QueryBuilder

/-- A clause that binds values (§2, the nine categories). -/
inductive Clause where
  | columns
  | source
  | joins
  | wheres
  | groups
  | havings
  | orders
  | unions
  | unionOrders
  deriving DecidableEq, Repr

namespace Clause

/-- The clauses in the order in which they stand in a statement. -/
def all : List Clause :=
  [columns, source, joins, wheres, groups, havings, orders, unions, unionOrders]

/-- The name of a clause. -/
def name : Clause → String
  | columns => "select"
  | source => "from"
  | joins => "join"
  | wheres => "where"
  | groups => "groupBy"
  | havings => "having"
  | orders => "order"
  | unions => "union"
  | unionOrders => "unionOrder"

/-- Reads the name of a clause without regard to the case of its letters (§4.1,
`InvalidCategory`). -/
def read (text : String) : Except Error Clause :=
  match all.find? fun c => Text.lowerAscii c.name == Text.lowerAscii text with
  | some c => .ok c
  | none => .error (.unknownClause text)

end Clause

/-- The values that a query binds, clause by clause (§2, Binder). -/
structure Bindings where
  columns : List Value := []
  source : List Value := []
  joins : List Value := []
  wheres : List Value := []
  groups : List Value := []
  havings : List Value := []
  orders : List Value := []
  unions : List Value := []
  unionOrders : List Value := []
  deriving Repr

namespace Bindings

/-- The values of a clause. -/
def get (b : Bindings) : Clause → List Value
  | .columns => b.columns
  | .source => b.source
  | .joins => b.joins
  | .wheres => b.wheres
  | .groups => b.groups
  | .havings => b.havings
  | .orders => b.orders
  | .unions => b.unions
  | .unionOrders => b.unionOrders

/-- Replaces the values of a clause. -/
def set (b : Bindings) (c : Clause) (vs : List Value) : Bindings :=
  match c with
  | .columns => { b with columns := vs }
  | .source => { b with source := vs }
  | .joins => { b with joins := vs }
  | .wheres => { b with wheres := vs }
  | .groups => { b with groups := vs }
  | .havings => { b with havings := vs }
  | .orders => { b with orders := vs }
  | .unions => { b with unions := vs }
  | .unionOrders => { b with unionOrders := vs }

/-- Appends values to a clause. -/
def extend (b : Bindings) (c : Clause) (vs : List Value) : Bindings :=
  b.set c (b.get c ++ vs)

/-- Appends a value to a clause; a list is spread into its items (§4.1, `addBinding`). -/
def add (b : Bindings) (c : Clause) (v : Value) : Bindings :=
  b.extend c (match v with
    | .list items => items
    | v => [v])

/-- Empties a clause. -/
def clear (b : Bindings) (c : Clause) : Bindings :=
  b.set c []

/-- Appends to each clause the values that `other` has for it. -/
def merge (b other : Bindings) : Bindings :=
  { columns := b.columns ++ other.columns
    source := b.source ++ other.source
    joins := b.joins ++ other.joins
    wheres := b.wheres ++ other.wheres
    groups := b.groups ++ other.groups
    havings := b.havings ++ other.havings
    orders := b.orders ++ other.orders
    unions := b.unions ++ other.unions
    unionOrders := b.unionOrders ++ other.unionOrders }

/-- No clause has a value. -/
def isEmpty (b : Bindings) : Bool :=
  Clause.all.all fun c => (b.get c).isEmpty

/-- The scalars of the clauses that are not excluded, in the order of the clauses (§4.1,
flattening). -/
def flattenExcept (b : Bindings) (excluded : List Clause) : List Value :=
  (Clause.all.filter fun c => !excluded.contains c).flatMap fun c => (b.get c).flatMap Value.leaves

/-- The scalars of all clauses, in the order in which their placeholders stand in a statement (§8,
in matching order). -/
def flatten (b : Bindings) : List Value :=
  b.flattenExcept []

/-! ## What `get` says after each operation -/

/-- Bindings are what `get` says of them: those that agree on every clause are the same. -/
theorem ext_get {a b : Bindings} (h : ∀ c, a.get c = b.get c) : a = b := by
  cases a; cases b
  simp only [mk.injEq]
  exact ⟨h .columns, h .source, h .joins, h .wheres, h .groups, h .havings, h .orders, h .unions,
    h .unionOrders⟩

/-- What is put in the place of a clause's values is read there, and nowhere else. -/
@[simp] theorem get_set (b : Bindings) (c d : Clause) (vs : List Value) :
    (b.set c vs).get d = if d = c then vs else b.get d := by
  cases c <;> cases d <;> rfl

/-- What is appended to a clause stands behind the values it has, and the others keep theirs. -/
@[simp] theorem get_extend (b : Bindings) (c d : Clause) (vs : List Value) :
    (b.extend c vs).get d = if d = c then b.get d ++ vs else b.get d := by
  cases c <;> cases d <;> rfl

/-- An emptied clause has no values, and the others keep theirs. -/
@[simp] theorem get_clear (b : Bindings) (c d : Clause) :
    (b.clear c).get d = if d = c then [] else b.get d := by
  cases c <;> cases d <;> rfl

/-- Emptying clauses one after another empties them all, whatever their order. -/
theorem get_foldl_clear (cs : List Clause) (b : Bindings) (d : Clause) :
    (cs.foldl clear b).get d = if d ∈ cs then [] else b.get d := by
  -- the bindings change with every clause, so the induction is for all of them
  induction cs generalizing b with
  | nil => rfl
  | cons c cs ih =>
    rw [List.foldl_cons, ih, get_clear]
    by_cases hd : d = c <;> simp [hd]

/-- Under each clause the values of the one stand in front of those of the other. -/
@[simp] theorem get_merge (a b : Bindings) (c : Clause) :
    (a.merge b).get c = a.get c ++ b.get c := by
  cases c <;> rfl

end Bindings

end QueryBuilder
