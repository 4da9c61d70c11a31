import QueryBuilder.Error
import QueryBuilder.Term

/-!
# Orderings and windows

The orderings and windows of a query and of a union of queries (§3 of the specification).

* `Direction`, `Ordering`: one entry of an `order by`.
* `Tail`: what ends a select: orderings, and which rows of the ordered result are kept.
-/

namespace QueryBuilder

/-- A direction of sorting (§3, `orders`). -/
inductive Direction where
  | ascending
  | descending
  deriving DecidableEq, Repr

namespace Direction

/-- The SQL word for a direction. -/
def sql : Direction → String
  | ascending => "asc"
  | descending => "desc"

/-- Reads a direction without regard to the case of its letters (§3 and §7, malformed
directions). -/
def read (text : String) : Except Error Direction :=
  match Text.lowerAscii text with
  | "asc" => .ok ascending
  | "desc" => .ok descending
  | _ => .error (.misuse .unknownDirection)

end Direction

/-- One entry of an `order by` (§3, `orders`). -/
inductive SortKey where
  | column (c : Column) (direction : Direction)
  | raw (sql : String)
  deriving DecidableEq, Repr

/-- The entry sorts by the plain column of that name. -/
def SortKey.targets (k : SortKey) (name : String) : Bool :=
  match k with
  | .column (.name c) _ => c == name
  | _ => false

/-- What ends a select: its ordering, and how many rows are kept after how many are passed over
(§3, `orders`, `limit` and `offset`). -/
structure Tail where
  orders : List SortKey := []
  limit : Option Nat := none
  offset : Option Nat := none
  deriving DecidableEq, Repr

/-- The greatest row number: windows are counted in 64 bits. -/
def maxRow : Nat := Nat.pow 2 64 - 1

/-- How many rows come before a page; pages count from one, and page zero is the first (§4.5,
`offset=(page-1)*pageSize`). -/
def pageStart (page size : Nat) : Nat :=
  min ((max page 1 - 1) * size) maxRow

end QueryBuilder
