import QueryBuilder.Program
import QueryBuilder.Session

/-!
# Loading related rows

The resolver of §4.4 of the specification. The related rows of many parents are fetched together
and handed out by their keys. Keys are compared by their texts, so that `1` and `"1"` match.

* `parentKeys`: the distinct keys of the parents. Without any, nothing is fetched.
* `Index`: rows by the text of a key. `Index.find_of` says what it finds: the rows with that key,
  in order.
* `Relation.load`: the parents, each with its related rows under the relation's name.
-/

namespace QueryBuilder

/-- The values of a field, one for each text of a key, in the order in which they are first seen
(§4.4, step 1). -/
def distinctKeys (field : String) : List String → List Record → List Value
  | _, [] => []
  | seen, row :: rest =>
    match row.get? field with
    | none => distinctKeys field seen rest
    | some v =>
      match v.key? with
      | none => distinctKeys field seen rest
      | some k =>
        -- two values of one text are one key
        if seen.contains k then distinctKeys field seen rest
        else v :: distinctKeys field (k :: seen) rest

/-- The distinct keys of the parents. -/
def parentKeys (field : String) (rows : List Record) : List Value :=
  distinctKeys field [] rows

/-- The text of a row's key. -/
def rowKey? (field : String) (row : Record) : Option String :=
  (row.get? field).bind Value.key?

/-! ## Index -/

/-- Rows by the text of a key, the rows of one key in the order in which they came. -/
abbrev Index := List (String × List Record)

namespace Index

/-- Adds a row under a key. -/
def add : Index → String → Record → Index
  | [], k, row => [(k, [row])]
  | (key, rows) :: rest, k, row =>
    if key = k then (key, rows ++ [row]) :: rest else (key, rows) :: add rest k row

/-- The rows of a key. -/
def find (index : Index) (k : String) : List Record :=
  match index with
  | [] => []
  | (key, rows) :: rest => if key = k then rows else find rest k

/-- Adds a row under the key in its field, if it has one. -/
def addBy (field : String) (index : Index) (row : Record) : Index :=
  match rowKey? field row with
  | some k => index.add k row
  | none => index

/-- The rows that have a key in a field. -/
def of (field : String) (rows : List Record) : Index :=
  rows.foldl (addBy field) []

/-- A row added under a key stands behind the rows that the key has; other keys keep theirs. -/
@[simp] theorem find_add (index : Index) (k other : String) (row : Record) :
    (index.add k row).find other =
      if other = k then index.find other ++ [row] else index.find other := by
  induction index with
  | nil => grind [add, find]
  | cons entry rest ih => grind [add, find]

/-- Rows added one by one stand under their keys behind the rows that were there, in order. -/
theorem find_foldl_addBy (field k : String) (index : Index) (rows : List Record) :
    (rows.foldl (addBy field) index).find k =
      index.find k ++ rows.filter fun row => rowKey? field row == some k := by
  induction rows generalizing index with
  | nil => simp
  | cons row rest ih =>
    simp only [List.foldl_cons, List.filter_cons, ih, addBy]
    -- a row without a key is found under none
    cases rowKey? field row with
    | none => simp
    | some key => by_cases same : k = key <;> simp [same, Ne.symm]

/-- An index finds the rows with the key, in the order in which they came. -/
theorem find_of (field k : String) (rows : List Record) :
    (of field rows).find k = rows.filter fun row => rowKey? field row == some k :=
  find_foldl_addBy field k [] rows

/-- The rows whose key is that of a parent's field; none for a parent without a key. -/
def matching (index : Index) (field : String) (parent : Record) : List Record :=
  match rowKey? field parent with
  | some k => index.find k
  | none => []

end Index

/-! ## Handing out -/

/-- The first of the related rows, or null. -/
def firstOrNull : List Record → Value
  | [] => .null
  | row :: _ => .record row

/-- All related rows. -/
def allRows (rows : List Record) : Value :=
  .list (rows.map Value.record)

/-- What a parent without related rows carries (§4.4, step 5). -/
def Link.nothing (l : Link) : Value :=
  if l.isSingular then .null else .list []

/-- Each parent with its related rows under a name (§4.4, step 4). -/
def attach (name parentField relatedField : String) (singular : Bool)
    (parents related : List Record) : List Record :=
  let index := Index.of relatedField related
  parents.map fun parent =>
    let found := index.matching parentField parent
    parent.set name (if singular then firstOrNull found else allRows found)

/-- The field in which a related row carries its parent's key through the pivot table. -/
def pivotIdField : String := "_pivot_id"

namespace ManyToMany

/-- The pivot's column that holds the parent's key, with the table in front. -/
def qualifiedForeignKey (m : ManyToMany) : String :=
  m.pivotTable ++ "." ++ m.foreignPivotKey

/-- The query for the related rows of the keys, each with its parent's key (§4.4, step 2). -/
def relatedQuery (m : ManyToMany) (keys : List Value) (related : Query) : Except Error Query := do
  let q := related.addSelect
    [.name (m.qualifiedForeignKey ++ " as " ++ pivotIdField), .name (m.table ++ ".*")]
  let q ← m.addConditions true (m.joinPivot q)
  (m.addOrders true q).whereIn .and false (.name m.qualifiedForeignKey)
    (.operands (keys.map Operand.value))

/-- The query for the pivot rows of the keys (§4.4, step 3). -/
def pivotQuery (m : ManyToMany) (keys : List Value) (connection : Connection) :
    Except Error Query := do
  let q ← m.addConditions false (Query.table connection m.pivotTable)
  (m.addOrders false q).whereIn .and false (.name m.foreignPivotKey)
    (.operands (keys.map Operand.value))

/-- The pivot rows that have both keys, under the pair of them. -/
def pairs (m : ManyToMany) (pivots : List Record) : List ((String × String) × Record) :=
  pivots.filterMap fun pivot =>
    match rowKey? m.foreignPivotKey pivot, rowKey? m.relatedPivotKey pivot with
    | some parent, some child => some ((parent, child), pivot)
    | _, _ => none

/-- The first pivot row of a parent and a related row, or null. -/
def pivotOf (m : ManyToMany) (pairs : List ((String × String) × Record)) (parent : String)
    (item : Record) : Value :=
  match rowKey? m.relatedKey item with
  | none => .null
  | some child =>
    match pairs.find? fun entry => entry.1 == (parent, child) with
    | some (_, pivot) => .record pivot
    | none => .null

/-- A related row as it is handed out: without its parent's key, with its pivot row (§4.4, step
4). -/
def item (m : ManyToMany) (pivotKey : String) (pairs : List ((String × String) × Record))
    (parent : String) (row : Record) : Record :=
  let row := row.erase pivotIdField
  row.set pivotKey (m.pivotOf pairs parent row)

/-- Each parent with its related rows and their pivot rows under a name. -/
def attach (m : ManyToMany) (name pivotKey : String) (parents related pivots : List Record) :
    List Record :=
  let pairs := m.pairs pivots
  let index := Index.of pivotIdField related
  parents.map fun parent =>
    let items :=
      match rowKey? m.localKey parent with
      | some k => (index.find k).map (m.item pivotKey pairs k)
      | none => []
    parent.set name (allRows items)

end ManyToMany

/-! ## Fetching -/

/-- The query for related rows whose field holds one of the keys (§4.4, step 2). -/
def keyedQuery (related : Query) (field : String) (keys : List Value) : Except Error Query :=
  related.whereIn .and false (.name field) (.operands (keys.map Operand.value))

/-- Loads a relation onto parents. `fetch` runs a query (§4.4, `resolve`). -/
def Relation.load (fetch : Query → Run (List Record)) (connection : Connection) (name : String)
    (r : Relation) (parents : List Record) : Run (List Record) := do
  let keys := parentKeys r.link.parentKey parents
  -- nothing is looked up for parents without keys
  if keys.isEmpty then return parents.map fun parent => parent.set name r.link.nothing
  else
    let related ← Run.ofExcept (runRelation r connection)
    match r.link with
    | .hasOne _ foreignKey localKey =>
      let rows ← fetch (← Run.ofExcept (keyedQuery related foreignKey keys))
      return attach name localKey foreignKey true parents rows
    | .hasMany _ foreignKey localKey =>
      let rows ← fetch (← Run.ofExcept (keyedQuery related foreignKey keys))
      return attach name localKey foreignKey false parents rows
    | .belongsTo _ foreignKey ownerKey =>
      let rows ← fetch (← Run.ofExcept (keyedQuery related ownerKey keys))
      return attach name foreignKey ownerKey true parents rows
    | .belongsToMany m =>
      let rows ← fetch (← Run.ofExcept (m.relatedQuery keys related))
      -- the pivot rows are asked for apart, under the same conditions
      let pivots ← fetch (← Run.ofExcept (m.pivotQuery keys connection))
      return m.attach name connection.config.pivotKey parents rows pivots

/-! ## How deep relations nest -/

mutual

/-- How deep the relations nest that a program has loaded. -/
def stepsDepth : List Step → Nat
  | [] => 0
  | step :: rest => max (stepDepth step) (stepsDepth rest)

/-- How deep the relations nest that a step has loaded. -/
def stepDepth : Step → Nat
  | .provided _ steps => stepsDepth steps
  | .withRelation _ relation => relationDepth relation
  | _ => 0

/-- How deep a relation nests: one more than what its scope has loaded. -/
def relationDepth : Relation → Nat
  | ⟨_, scope⟩ => stepsDepth scope + 1

end

/-- How deep the relations of a query nest. -/
def Query.loadDepth (q : Query) : Nat :=
  q.eagerLoads.foldl (fun depth load => max depth (relationDepth load.2)) 0

end QueryBuilder
