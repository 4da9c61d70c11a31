import QueryBuilder.Number.Text

/-!
# Values and records

What a statement binds and what it is answered with, in the form of §6 and §10.1 of the
specification: a row is an ordered mapping from names to values. Section numbers in this library
are those of the specification.

* `Value`: what a query binds and what a row holds.
* `Record`: one row, its fields in order. `get?`, `set` and `erase` act on the first field of a
  name; `set` keeps the place of a field it replaces, and `get?_set` says what is read afterwards.
* `Value.leaves`: the scalars inside a value, left to right.
* `Value.equals`: equality of values, in which the order of a record's fields does not count.
-/

namespace QueryBuilder

/-- A data value (§10.1, serialization). -/
inductive Value where
  | null
  | bool (b : Bool)
  | number (n : Number)
  | text (s : String)
  | list (items : List Value)
  | record (fields : List (String × Value))
  deriving Repr

/-- One row: field names and values, in order (§6, records). -/
abbrev Record := List (String × Value)

instance : Inhabited Value := ⟨.null⟩

namespace Record

/-- The value of a field. -/
def get? (r : Record) (name : String) : Option Value :=
  (r.find? fun field => field.1 == name).map Prod.snd

/-- Gives a field a value: in its place if there is one of that name, otherwise at the end. -/
def set : Record → String → Value → Record
  | [], name, value => [(name, value)]
  | (key, old) :: rest, name, value =>
    if key = name then (name, value) :: rest else (key, old) :: set rest name value

/-- After a field is given a value, it is read as that value; all other fields are read as
before. -/
@[simp] theorem get?_set (r : Record) (name other : String) (v : Value) :
    get? (set r name v) other = if other = name then some v else get? r other := by
  induction r with
  | nil => grind [get?, set]
  | cons field rest ih => grind [get?, set]

/-- The record without a field; the others keep their order. -/
def erase : Record → String → Record
  | [], _ => []
  | (key, value) :: rest, name => if key = name then rest else (key, value) :: erase rest name

/-- A record from fields in the order given, a repeated name replacing the earlier value. -/
def ofFields (fields : List (String × Value)) : Record :=
  fields.foldl (fun r field => r.set field.1 field.2) []

end Record

namespace Value

/-- A whole number as a value. -/
def ofInt (n : Int) : Value := .number (.whole n)

/-- The value is null. -/
def isNull : Value → Bool
  | .null => true
  | _ => false

/-! ## Leaves -/

mutual

/-- The scalars inside a value: itself, or those of its items or fields in order (§4.1,
flattening). -/
def leaves : Value → List Value
  | .list items => leavesOfItems items
  | .record fields => leavesOfFields fields
  | .null => [.null]
  | .bool b => [.bool b]
  | .number n => [.number n]
  | .text s => [.text s]

/-- The scalars inside the items of a list. -/
def leavesOfItems : List Value → List Value
  | [] => []
  | v :: vs => leaves v ++ leavesOfItems vs

/-- The scalars inside the fields of a record. -/
def leavesOfFields : List (String × Value) → List Value
  | [] => []
  | (_, v) :: rest => leaves v ++ leavesOfFields rest

end

/-- The scalar that stands for a value behind a single placeholder: its first leaf, or null (§3,
one binding for each value). -/
def scalar (v : Value) : Value :=
  v.leaves.headD .null

/-- A value without parts. -/
def isScalar : Value → Bool
  | .list _ => false
  | .record _ => false
  | _ => true

/-- The scalars of a list are those of its items, one item behind the other. -/
theorem leavesOfItems_eq_flatMap (vs : List Value) : leavesOfItems vs = vs.flatMap leaves := by
  induction vs with
  | nil => rfl
  | cons v vs ih => simp [leavesOfItems, ih]

/-! ## Equality -/

mutual

/-- Two values are equal. Fields of records are compared by name, not by place. -/
def equals : Value → Value → Bool
  | .null, .null => true
  | .bool a, .bool b => a == b
  | .number m, .number n => m.equals n
  | .text s, .text t => s == t
  | .list vs, .list ws => itemsEqual vs ws
  | .record fs, .record gs => fs.length == gs.length && fieldsEqual fs gs
  | _, _ => false

/-- Two lists have equal items in equal places. -/
def itemsEqual : List Value → List Value → Bool
  | [], [] => true
  | v :: vs, w :: ws => equals v w && itemsEqual vs ws
  | _, _ => false

/-- Every field of the first record has an equal in the second. -/
def fieldsEqual : List (String × Value) → List (String × Value) → Bool
  | [], _ => true
  | (name, v) :: rest, gs =>
    (match Record.get? gs name with
      | some w => equals v w
      | none => false) && fieldsEqual rest gs

end

end Value

end QueryBuilder
