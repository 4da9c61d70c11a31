import QueryBuilder.Value.Basic

/-!
# Conventions

The configuration of §10.1 of the specification.

* `Config`: the names and sizes that a query falls back on when none is given.
* `Config.ofValue?`: a configuration read from a record. Absent fields keep their defaults, unknown
  fields do not matter, and a field of the wrong kind refuses the whole.
-/

namespace QueryBuilder

/-- The conventions shared by all queries of one connection (§10.1, configuration). -/
structure Config where
  /-- The column that identifies a row. -/
  primaryKey : String := "id"
  /-- How many rows a page holds. -/
  pageSize : Nat := 15
  /-- How many rows a walk reads at a time. -/
  chunkSize : Nat := 1000
  /-- The column that holds when a row came to be. -/
  createdColumn : String := "created_at"
  /-- The column that holds when a row was last changed. -/
  updatedColumn : String := "updated_at"
  /-- The field under which a related row carries its pivot row. -/
  pivotKey : String := "pivot_table"
  deriving DecidableEq, Repr

namespace Config

/-- The default conventions under another primary key. -/
def withPrimaryKey (primaryKey : String) : Config :=
  { primaryKey }

/-- Another page size; zero counts as one. -/
def withPageSize (c : Config) (size : Nat) : Config :=
  { c with pageSize := max size 1 }

/-- Another chunk size; zero counts as one. -/
def withChunkSize (c : Config) (size : Nat) : Config :=
  { c with chunkSize := max size 1 }

/-- Other timestamp columns. -/
def withTimestamps (c : Config) (created updated : String) : Config :=
  { c with createdColumn := created, updatedColumn := updated }

/-- A field that has to be a text, if it is there. -/
def textField? (r : Record) (name default : String) : Option String :=
  match r.get? name with
  | none => some default
  | some (.text s) => some s
  | some _ => none

/-- A field that has to be a whole number from zero to `2 ^ 64 - 1`, if it is there. -/
def sizeField? (r : Record) (name : String) (default : Nat) : Option Nat :=
  match r.get? name with
  | none => some default
  | some (.number (.whole n)) => if 0 ≤ n ∧ n < Nat.pow 2 64 then some n.toNat else none
  | some _ => none

/-- Reads a configuration from a record (§10.1, configuration). -/
def ofRecord? (r : Record) : Option Config := do
  let base : Config := {}
  let primaryKey ← textField? r "primary_key" base.primaryKey
  let pageSize ← sizeField? r "page_size" base.pageSize
  let chunkSize ← sizeField? r "chunk_size" base.chunkSize
  let createdColumn ← textField? r "created_column" base.createdColumn
  let updatedColumn ← textField? r "updated_column" base.updatedColumn
  let pivotKey ← textField? r "pivot_key" base.pivotKey
  return { primaryKey, pageSize, chunkSize, createdColumn, updatedColumn, pivotKey }

/-- Reads a configuration; only a record can be one. -/
def ofValue? : Value → Option Config
  | .record fields => ofRecord? fields
  | _ => none

/-- The fields of a configuration, as they are read. -/
def toRecord (c : Config) : Record :=
  [("primary_key", .text c.primaryKey), ("page_size", .ofInt c.pageSize),
    ("chunk_size", .ofInt c.chunkSize), ("created_column", .text c.createdColumn),
    ("updated_column", .text c.updatedColumn), ("pivot_key", .text c.pivotKey)]

end Config

end QueryBuilder
