import QueryBuilder.Query.Store
import QueryBuilder.Proofs.Inserts
import QueryBuilder.Proofs.Sessions

/-!
# What an insert keeps of its rows

Several rows are inserted under one list of columns, and it is the first row that names them. A row
that lacks one of these columns is given null there; what a row gives to any other column has no
place in the statement and is left out without an error.

- `Grid`: columns, and the cells of rows under them. `Grid.Gives`: what a row holds under a column.
- `gridOf`: the rows of an insert as they are written. `gives_gridOf_iff` says what stands where.
- `InsertKind`: an insert of several rows may pass over rows that are there, or update them.
  `Query.insertAs_sends` says what is sent: nothing of the rows but their grid is read.
- `Assignments.only`: a row without what it gives to other columns. `gridOf_only`: its grid is the
  same.
- `insert_keeps_rows_iff`: an insert keeps all that its rows give exactly if no row has a column
  that the first row lacks.
-/

namespace QueryBuilder

/-! ## Rows under columns -/

/-- Columns, and the cells of rows under them. -/
structure Grid where
  columns : List String
  rows : List (List Operand)

namespace Grid

/-- The columns and the rows as they stand in an insert. -/
def text (d : Dialect) (g : Grid) : String :=
  "(" ++ d.columns (g.columns.map Column.name) ++ ") values " ++
    Text.join ", " (g.rows.map fun row => "(" ++ Operand.sqlList row ++ ")")

/-- The values that the cells bind, row by row. -/
def values (g : Grid) : List Value :=
  g.rows.flatMap fun row => row.filterMap Operand.bound?

/-- The `i`-th row holds an operand under a column. -/
def Gives (g : Grid) (i : Nat) (column : String) (o : Operand) : Prop :=
  ∃ (row : List Operand) (k : Nat),
    g.rows[i]? = some row ∧ g.columns[k]? = some column ∧ row[k]? = some o

/-- Whatever one of the rows gives to a column stands in its place under that column. -/
def Keeps (g : Grid) (rows : List Assignments) : Prop :=
  ∀ i row column o, rows[i]? = some row → row.get? column = some o → g.Gives i column o

end Grid

/-- The rows of an insert as they are written, under the columns of the first. -/
def gridOf (rows : List Assignments) : Grid :=
  ⟨insertColumns rows, rows.map (cells (insertColumns rows))⟩

section Grids

variable {rows : List Assignments} {row : Assignments} {i : Nat} {column : String} {o : Operand}

theorem values_gridOf (rows : List Assignments) : (gridOf rows).values = insertValues rows :=
  List.flatMap_map ..

/-- Under a column of the first row each row holds what it gives to the column, or null; under any
other it holds nothing. -/
theorem gives_gridOf_iff (hrow : rows[i]? = some row) :
    (gridOf rows).Gives i column o ↔
      column ∈ insertColumns rows ∧ o = (row.get? column).getD (.value .null) := by
  have hcells : (gridOf rows).rows[i]? = some (cells (insertColumns rows) row) := by
    show (rows.map _)[i]? = _
    rw [List.getElem?_map, hrow]
    rfl
  constructor
  · rintro ⟨written, k, hwritten, hcolumn, ho⟩
    obtain rfl := Option.some.inj (hcells.symm.trans hwritten)
    have hk : (insertColumns rows)[k]? = some column := hcolumn
    unfold cells at ho
    rw [List.getElem?_map, hk] at ho
    exact ⟨List.mem_of_getElem? hk, (Option.some.inj ho).symm⟩
  · rintro ⟨hmem, rfl⟩
    obtain ⟨k, hk⟩ := List.getElem?_of_mem hmem
    refine ⟨_, k, hcells, hk, ?_⟩
    unfold cells
    rw [List.getElem?_map, hk]
    rfl

/-- A row has the columns to which it gives something. -/
theorem mem_columns_iff : column ∈ row.columns ↔ ∃ o, row.get? column = some o := by
  unfold Assignments.columns Assignments.get?
  constructor
  · intro hmem
    obtain ⟨entry, hentry, rfl⟩ := List.mem_map.mp hmem
    have hfound : (row.entries.find? fun other => other.1 == entry.1).isSome = true :=
      List.find?_isSome.mpr ⟨entry, hentry, beq_self_eq_true entry.1⟩
    obtain ⟨other, hother⟩ := Option.isSome_iff_exists.mp hfound
    exact ⟨other.2, by rw [hother]; rfl⟩
  · rintro ⟨o, ho⟩
    obtain ⟨entry, hentry, -⟩ := Option.map_eq_some_iff.mp ho
    have hname : entry.1 = column := by simpa using List.find?_some hentry
    exact List.mem_map.mpr ⟨entry, List.mem_of_find?_eq_some hentry, hname⟩

/-- The rows lose nothing exactly if none of them has a column that the first row lacks. -/
theorem keeps_gridOf_iff :
    (gridOf rows).Keeps rows ↔
      ∀ row ∈ rows, ∀ column ∈ row.columns, column ∈ insertColumns rows := by
  constructor
  · intro hkeeps row hrow column hcolumn
    obtain ⟨i, hi⟩ := List.getElem?_of_mem hrow
    obtain ⟨o, ho⟩ := mem_columns_iff.mp hcolumn
    exact ((gives_gridOf_iff hi).mp (hkeeps i row column o hi ho)).1
  · intro hcolumns i row column o hi ho
    have hmem : column ∈ insertColumns rows :=
      hcolumns row (List.mem_of_getElem? hi) column (mem_columns_iff.mpr ⟨o, ho⟩)
    rw [gives_gridOf_iff hi, ho]
    exact ⟨hmem, rfl⟩

end Grids

/-! ## Rows without other columns -/

/-- A row without what it gives to any but some columns. -/
def Assignments.only (row : Assignments) (columns : List String) : Assignments :=
  ⟨row.entries.filter fun entry => columns.contains entry.1, row.sorted.filter _⟩

/-- A column that is kept has its value. -/
theorem Assignments.get?_only {columns : List String} {column : String} (h : column ∈ columns)
    (row : Assignments) : (row.only columns).get? column = row.get? column := by
  unfold get? only
  rw [List.find?_filter]
  congr 2
  funext entry
  by_cases hentry : entry.1 = column
  · subst hentry
    simp [h]
  · simp [hentry]

/-- A row has nothing beside its own columns. -/
theorem Assignments.only_columns (row : Assignments) : row.only row.columns = row := by
  have hentries : (row.entries.filter fun entry => row.columns.contains entry.1) = row.entries :=
    List.filter_eq_self.mpr fun entry hentry =>
      List.contains_iff_mem.mpr (List.mem_map_of_mem (f := Prod.fst) hentry)
  unfold only
  congr 1

/-- Nothing but the columns of the first row is read of any row. -/
theorem gridOf_only (rows : List Assignments) :
    gridOf (rows.map fun row => row.only (insertColumns rows)) = gridOf rows := by
  -- the first row keeps all of its columns, so they stay those of the insert
  have hcolumns : insertColumns (rows.map fun row => row.only (insertColumns rows)) =
      insertColumns rows := by
    cases rows with
    | nil => rfl
    | cons first rest => exact congrArg Assignments.columns first.only_columns
  unfold gridOf
  rw [hcolumns, List.map_map]
  congr 1
  refine List.map_congr_left fun row _ => List.map_congr_left fun column hcolumn => ?_
  rw [Assignments.get?_only hcolumn]

/-! ## Statements -/

/-- What becomes of rows that collide with others: the insert fails, passes over them, or updates
columns of them. -/
inductive InsertKind where
  | strict
  | ignoring
  | updating (unique : List String) (update : Option (List String))

namespace InsertKind

/-- The words in front of the table. -/
def words (d : Dialect) : InsertKind → String
  | ignoring => if d = .mysql then "insert ignore" else "insert or ignore"
  | _ => "insert"

/-- What stands behind the rows. The columns of the rows are updated unless others are named. -/
def ending (d : Dialect) (columns : List String) : InsertKind → String
  | updating unique update => Query.updatesText d unique (update.getD columns)
  | _ => ""

/-- The dialect has such an insert. -/
def Supported (d : Dialect) : InsertKind → Prop
  | strict => True
  | _ => d ≠ .plain

/-- The statement that inserts a grid. -/
def statement (kind : InsertKind) (d : Dialect) (table : String) (g : Grid) : Statement :=
  ⟨kind.words d ++ " into " ++ table ++ " " ++ g.text d ++ kind.ending d g.columns, g.values⟩

/-- The text of an insert. -/
def text (kind : InsertKind) (q : Query) (rows : List Assignments) : Except Error String :=
  match kind with
  | strict => q.insertText rows
  | ignoring => q.insertIgnoringText rows
  | updating unique update => q.upsertText rows unique (update.getD (insertColumns rows))

end InsertKind

namespace Query

variable {q : Query} {kind : InsertKind} {rows : List Assignments} {s : Session}

/-- Inserts rows. -/
def insertAs (q : Query) (kind : InsertKind) (rows : List Assignments) : Run Nat :=
  match kind with
  | .strict => q.insertMany rows
  | .ignoring => q.insertIgnoring rows
  | .updating unique update => q.upsert rows unique update

/-- There is a table to insert into, the dialect has such an insert, and an executor is attached. -/
structure CanInsert (q : Query) (kind : InsertKind) : Prop where
  source : q.source.isSome = true
  supported : kind.Supported q.dialect
  attached : q.connection.attached = true

/-- Where there is a source there is a table to write into. -/
theorem CanInsert.exists_target (h : q.CanInsert kind) : ∃ table, q.target = .ok table := by
  obtain ⟨source, hsource⟩ := Option.isSome_iff_exists.mp h.source
  unfold target
  rw [hsource]
  exact ⟨q.dialect.source source, rfl⟩

/-- Inserts of all kinds are one run: no rows do nothing, others make a text that is sent. -/
theorem insertAs_eq (q : Query) (kind : InsertKind) (rows : List Assignments) :
    q.insertAs kind rows =
      if rows.isEmpty then pure 0
      else Run.ofExcept (kind.text q rows) >>= fun sql =>
        q.connection.update sql (insertValues rows) := by
  cases kind <;> rfl

/-- Of the rows an insert reads nothing but their grid. -/
theorem insertWith_eq_grid (q : Query) (words : String) (rows : List Assignments) :
    q.insertWith words rows = q.target.map fun table =>
      words ++ " into " ++ table ++
        if (gridOf rows).rows.isEmpty then " default values"
        else " " ++ (gridOf rows).text q.dialect := by
  have hempty : (gridOf rows).rows.isEmpty = rows.isEmpty := List.isEmpty_map
  rw [hempty]
  unfold insertWith
  cases q.target with
  | error why => rfl
  | ok table =>
    by_cases hrows : rows.isEmpty = true
    · rw [if_pos hrows]
      exact if_pos hrows
    · rw [if_neg hrows]
      refine (if_neg hrows).trans (congrArg Except.ok ?_)
      unfold Grid.text gridOf
      simp only [List.map_map, String.append_assoc]
      rfl

/-- The words, the table and the grid make an insert. -/
theorem insertWith_grid {table : String} (htarget : q.target = .ok table) (hrows : rows ≠ [])
    (words : String) :
    q.insertWith words rows = .ok (words ++ " into " ++ table ++ " " ++
      (gridOf rows).text q.dialect) := by
  have hempty : ¬ (gridOf rows).rows.isEmpty = true := by simpa [gridOf] using hrows
  rw [insertWith_eq_grid, htarget, if_neg hempty]
  exact congrArg Except.ok String.append_assoc.symm

/-- The text of an insert is made of the grid of the rows. -/
theorem text_grid {table : String} (htarget : q.target = .ok table) (hrows : rows ≠ [])
    (hsupported : kind.Supported q.dialect) :
    kind.text q rows = .ok (kind.statement q.dialect table (gridOf rows)).sql := by
  have hinsert (words : String) := insertWith_grid htarget hrows words
  -- the kinds differ in the words in front and in what stands behind
  cases kind with
  | strict => exact (hinsert "insert").trans (congrArg Except.ok String.append_empty.symm)
  | ignoring =>
    show q.insertIgnoringText rows = _
    unfold insertIgnoringText InsertKind.statement
    cases hd : q.dialect with
    | plain => exact absurd hd hsupported
    | mysql =>
      rw [hd] at hinsert
      exact (hinsert "insert ignore").trans (congrArg Except.ok String.append_empty.symm)
    | sqlite =>
      rw [hd] at hinsert
      exact (hinsert "insert or ignore").trans (congrArg Except.ok String.append_empty.symm)
  | updating unique update =>
    exact upsertText_eq (hinsert "insert") hsupported unique (update.getD (insertColumns rows))

/-- Without a table, or in a dialect without such an insert, no text is made. -/
theorem text_error (h : q.source = none ∨ ¬ kind.Supported q.dialect) (rows : List Assignments) :
    ∃ why, kind.text q rows = .error why := by
  -- a dialect that has no such insert says so before it looks for a table
  have hinsert (hsource : q.source = none) (words : String) :
      ∃ why, q.insertWith words rows = .error why := by
    unfold insertWith target
    rw [hsource]
    exact ⟨_, rfl⟩
  cases kind with
  | strict => exact hinsert (h.resolve_right (not_not_intro trivial)) "insert"
  | ignoring =>
    show ∃ why, q.insertIgnoringText rows = .error why
    unfold insertIgnoringText
    cases hd : q.dialect with
    | plain => exact ⟨_, rfl⟩
    | mysql => exact hinsert (h.resolve_right (not_not_intro (hd ▸ nofun))) "insert ignore"
    | sqlite => exact hinsert (h.resolve_right (not_not_intro (hd ▸ nofun))) "insert or ignore"
  | updating unique update =>
    show ∃ why, q.upsertText rows unique _ = .error why
    unfold upsertText
    cases hd : q.dialect with
    | plain => exact ⟨_, rfl⟩
    | mysql =>
      obtain ⟨why, hwhy⟩ := hinsert (h.resolve_right (not_not_intro (hd ▸ nofun))) "insert"
      have htext : q.insertText rows = .error why := hwhy
      rw [htext]
      exact ⟨why, rfl⟩
    | sqlite =>
      obtain ⟨why, hwhy⟩ := hinsert (h.resolve_right (not_not_intro (hd ▸ nofun))) "insert"
      have htext : q.insertText rows = .error why := hwhy
      rw [htext]
      exact ⟨why, rfl⟩

theorem insertAs_nil (q : Query) (kind : InsertKind) (s : Session) :
    q.insertAs kind [] s = (.ok 0, s) := by
  rw [insertAs_eq]
  rfl

/-- An insert that cannot be made or sent fails and has sent nothing. -/
theorem insertAs_fails (hrows : rows ≠ []) (h : ¬ q.CanInsert kind) (s : Session) :
    ∃ why, q.insertAs kind rows s = (.error why, s) := by
  have hempty : ¬ rows.isEmpty = true := by simpa using hrows
  rw [insertAs_eq, if_neg hempty]
  cases htext : kind.text q rows with
  | error why => exact ⟨why, rfl⟩
  | ok sql =>
    -- a text was made, so it is the executor that is missing
    have hdetached : q.connection.attached = false := by
      refine Bool.eq_false_iff.mpr fun hattached => h ⟨?_, ?_, hattached⟩
      · refine Option.isSome_iff_ne_none.mpr fun hnone => ?_
        have hcannot : q.source = none ∨ ¬ kind.Supported q.dialect := .inl hnone
        obtain ⟨why, hwhy⟩ := text_error hcannot rows
        exact nomatch htext.symm.trans hwhy
      · refine Classical.byContradiction fun hunsupported => ?_
        obtain ⟨why, hwhy⟩ := text_error (.inr hunsupported) rows
        exact nomatch htext.symm.trans hwhy
    exact ⟨.noExecutor, Connection.update_detached hdetached sql (insertValues rows) s⟩

/-- An insert sends one statement, and nothing of the rows but their grid is in it. -/
theorem insertAs_sends (hrows : rows ≠ []) (h : q.CanInsert kind) (s : Session) :
    ∃ table, q.target = .ok table ∧
      let inserted := kind.statement q.dialect table (gridOf rows)
      q.insertAs kind rows s =
        ((s.counts.headD (.ok 1)).mapError .execution, s.writing inserted.sql inserted.values) := by
  have hempty : ¬ rows.isEmpty = true := by simpa using hrows
  obtain ⟨table, htarget⟩ := h.exists_target
  refine ⟨table, htarget, ?_⟩
  rw [insertAs_eq, if_neg hempty, text_grid htarget hrows h.supported]
  show q.connection.update _ (insertValues rows) s = (_, s.writing _ (gridOf rows).values)
  rw [Connection.update_attached h.attached, values_gridOf]

/-- Rows of one grid are inserted alike. -/
theorem insertAs_congr {rows' : List Assignments} (hgrid : gridOf rows = gridOf rows') (q : Query)
    (kind : InsertKind) : q.insertAs kind rows = q.insertAs kind rows' := by
  have hcolumns : insertColumns rows = insertColumns rows' := congrArg Grid.columns hgrid
  have hvalues : insertValues rows = insertValues rows' := by
    rw [← values_gridOf, ← values_gridOf, hgrid]
  have hempty : rows.isEmpty = rows'.isEmpty := by
    have hrows := congrArg (fun g => g.rows.isEmpty) hgrid
    simpa [gridOf] using hrows
  have hinsert (words : String) : q.insertWith words rows = q.insertWith words rows' := by
    rw [insertWith_eq_grid, insertWith_eq_grid, hgrid]
  -- no kind looks at the rows other than through their grid
  have htext : kind.text q rows = kind.text q rows' := by
    cases kind with
    | strict => exact hinsert "insert"
    | ignoring =>
      show q.insertIgnoringText rows = q.insertIgnoringText rows'
      unfold insertIgnoringText
      rw [hinsert, hinsert]
    | updating unique update =>
      show q.upsertText rows unique (update.getD (insertColumns rows)) = q.upsertText rows' unique _
      unfold upsertText insertText
      rw [hinsert, hcolumns]
  rw [insertAs_eq, insertAs_eq, htext, hvalues, hempty]

end Query

/-- An insert of several rows, of any kind. No rows are no statement; without a table, an executor
or such an insert in the dialect nothing is sent; otherwise one statement with the grid of the rows
is. There each row holds, under every column of the first row, what it gives to that column, or
null; so it holds all that it gives exactly if the first row has all of its columns. The rest of
what a row gives makes no difference to anything. -/
theorem insert_keeps_rows_iff (q : Query) (kind : InsertKind) (rows : List Assignments)
    (s : Session) :
    (rows = [] → q.insertAs kind rows s = (.ok 0, s)) ∧
    (rows ≠ [] → ¬ q.CanInsert kind → ∃ why, q.insertAs kind rows s = (.error why, s)) ∧
    (rows ≠ [] → q.CanInsert kind → ∃ table, q.target = .ok table ∧
      let inserted := kind.statement q.dialect table (gridOf rows)
      q.insertAs kind rows s =
        ((s.counts.headD (.ok 1)).mapError .execution, s.writing inserted.sql inserted.values)) ∧
    (∀ i row column o, rows[i]? = some row → ((gridOf rows).Gives i column o ↔
      column ∈ insertColumns rows ∧ o = (row.get? column).getD (.value .null))) ∧
    ((gridOf rows).Keeps rows ↔ ∀ row ∈ rows, ∀ column ∈ row.columns, column ∈ insertColumns rows) ∧
    q.insertAs kind rows = q.insertAs kind (rows.map fun row => row.only (insertColumns rows)) := by
  refine ⟨?_, ?_, ?_, ?_, keeps_gridOf_iff, ?_⟩
  · rintro rfl
    exact q.insertAs_nil kind s
  · intro hrows hcannot
    exact Query.insertAs_fails hrows hcannot s
  · intro hrows hcan
    exact Query.insertAs_sends hrows hcan s
  · intro i row column o hrow
    exact gives_gridOf_iff hrow
  · exact Query.insertAs_congr (gridOf_only rows).symm q kind

/-- Two users, the first without a name. -/
def lateName : List Assignments :=
  [.ofList [("id", .value (.ofInt 1))],
    .ofList [("id", .value (.ofInt 2)), ("name", .value (.text "Ann"))]]

/-- With the named user in front all is kept: the other user is given null for a name. -/
theorem insert_keeps_rows_reversed :
    (gridOf lateName.reverse).Keeps lateName.reverse ∧
      ((Query.table { attached := true } "users").insertAs (.updating ["id"] none) lateName.reverse
        {}).2.sent =
        [.update ("insert into \x60users\x60 (\x60id\x60, \x60name\x60) values (?, ?), (?, ?) " ++
          "on duplicate key update \x60id\x60 = values(\x60id\x60), " ++
          "\x60name\x60 = values(\x60name\x60)")
          [.ofInt 2, .text "Ann", .ofInt 1, .null]] := by
  obtain ⟨-, -, hsends, -, hkeeps, -⟩ :=
    insert_keeps_rows_iff (Query.table { attached := true } "users") (.updating ["id"] none)
      lateName.reverse {}
  have hcan : (Query.table { attached := true } "users").CanInsert (.updating ["id"] none) :=
    ⟨rfl, nofun, rfl⟩
  refine ⟨hkeeps.mpr (by decide +kernel), ?_⟩
  obtain ⟨table, htable, hrun⟩ := hsends (by decide) hcan
  obtain rfl := Except.ok.inj htable
  rw [hrun]
  rfl

/-- The name of the second user is lost, and nothing fails. -/
theorem lost_name :
    (Query.table { attached := true } "users").insertAs .strict lateName {} = (.ok 1,
        ({} : Session).writing "insert into \x60users\x60 (\x60id\x60) values (?), (?)"
          [.ofInt 1, .ofInt 2]) ∧
      ¬ (gridOf lateName).Keeps lateName := by
  refine ⟨rfl, fun hkeeps => ?_⟩
  have hlost : ¬ ∀ row ∈ lateName, ∀ column ∈ row.columns, column ∈ insertColumns lateName := by
    decide +kernel
  exact hlost (keeps_gridOf_iff.mp hkeeps)

end QueryBuilder
