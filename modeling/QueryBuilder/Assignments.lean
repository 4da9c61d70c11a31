import QueryBuilder.Term

/-!
# Rows to write

The rows of the writes of §10.2 of the specification.

* `Assignments`: what an insert or an update gives to columns. Each column stands once, and the
  columns are sorted, so that rows which give the same things are equal however they were put
  together.
* `Assignments.set`: gives a column an operand. `get?_set` says what is looked up afterwards.
* `Assignments.bound`: the values that the assignments bind; SQL written as it is binds nothing.
-/

namespace QueryBuilder

/-- Columns and what they are given. -/
structure Assignments where
  entries : List (String × Operand) := []
  /-- Each column stands once, in the order of the code points. -/
  sorted : entries.Pairwise (fun a b => a.1 < b.1) := by exact .nil
  deriving Repr

namespace Assignments

/-! ## Placing an entry -/

/-- An entry put at its place among sorted ones, instead of the one for its column if there is
one. -/
def place (column : String) (o : Operand) : List (String × Operand) → List (String × Operand)
  | [] => [(column, o)]
  | (key, old) :: rest =>
    if column = key then (column, o) :: rest
    else if column < key then (column, o) :: (key, old) :: rest
    else (key, old) :: place column o rest

/-- Placing an entry brings in nothing else. -/
theorem mem_place {column : String} {o : Operand} {entry : String × Operand}
    {entries : List (String × Operand)} (h : entry ∈ place column o entries) :
    entry = (column, o) ∨ entry ∈ entries := by
  induction entries with
  | nil => simpa [place] using h
  | cons head rest ih =>
    simp only [place] at h
    split at h
    · simp only [List.mem_cons] at h ⊢
      exact h.imp_right .inr
    · split at h
      · simpa using h
      · simp only [List.mem_cons] at h ⊢
        rcases h with h | h
        · exact .inr (.inl h)
        · exact (ih h).imp_right .inr

/-- A placed entry keeps the columns in order, so that a row stays a row. -/
theorem place_sorted (column : String) (o : Operand) {entries : List (String × Operand)}
    (h : entries.Pairwise (fun a b => a.1 < b.1)) :
    (place column o entries).Pairwise (fun a b => a.1 < b.1) := by
  induction entries with
  | nil => simp [place]
  | cons head rest ih =>
    obtain ⟨key, old⟩ := head
    obtain ⟨below, tail⟩ := List.pairwise_cons.mp h
    simp only [place]
    split
    next same =>
      subst same
      exact List.pairwise_cons.mpr ⟨below, tail⟩
    next different =>
      split
      -- the new entry comes first, so all that was there stands behind it
      next before =>
        refine List.pairwise_cons.mpr ⟨fun entry mem => ?_, h⟩
        rcases List.mem_cons.mp mem with rfl | mem
        · exact before
        · exact String.lt_trans before (below entry mem)
      -- the new entry goes further back, by induction on the rest
      next notBefore =>
        refine List.pairwise_cons.mpr ⟨fun entry mem => ?_, ih tail⟩
        rcases mem_place mem with rfl | mem
        · exact Std.lt_of_le_of_ne (String.not_lt.mp notBefore) (Ne.symm different)
        · exact below entry mem

/-! ## Rows -/

/-- Gives a column an operand, in place of the one it had (§10.1, rows keep one entry for each
column). -/
def set (row : Assignments) (column : String) (o : Operand) : Assignments :=
  ⟨place column o row.entries, place_sorted column o row.sorted⟩

/-- Assignments made one after the other; a repeated column takes the last operand. -/
def ofList (entries : List (String × Operand)) : Assignments :=
  entries.foldl (fun row entry => row.set entry.1 entry.2) {}

/-- The fields of a record as assignments. -/
def ofRecord (r : Record) : Assignments :=
  ofList (r.map fun field => (field.1, .value field.2))

/-- What a column is given. -/
def get? (row : Assignments) (column : String) : Option Operand :=
  (row.entries.find? fun entry => entry.1 == column).map Prod.snd

/-- No column is given anything. -/
def isEmpty (row : Assignments) : Bool :=
  row.entries.isEmpty

/-- The columns, in order. -/
def columns (row : Assignments) : List String :=
  row.entries.map Prod.fst

/-- The values that the assignments bind, in the order of the columns. -/
def bound (row : Assignments) : List Value :=
  row.entries.filterMap fun entry => entry.2.bound?

/-- Looking up a placed entry finds it; every other column is found as before. -/
theorem find?_place (column other : String) (o : Operand) (entries : List (String × Operand)) :
    ((place column o entries).find? fun entry => entry.1 == other).map Prod.snd =
      if other = column then some o
      else (entries.find? fun entry => entry.1 == other).map Prod.snd := by
  induction entries with
  | nil => grind [place]
  | cons head rest ih => grind [place]

/-- A column is given what was set last; the other columns keep what they were given. -/
@[simp] theorem get?_set (row : Assignments) (column other : String) (o : Operand) :
    (row.set column o).get? other = if other = column then some o else row.get? other :=
  find?_place column other o row.entries

end Assignments

end QueryBuilder
