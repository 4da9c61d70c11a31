import QueryBuilder.Proofs.BuiltAlignment
import QueryBuilder.Proofs.Frames
import QueryBuilder.Proofs.WriteText

/-!
# The parameters of an insert

An insert writes its rows as groups of cells under the columns of the first row: a placeholder where
the row gives a value or has none, and raw SQL as it is. The values are taken from the rows once
more, apart from the text.

- `groupText`, `cellFront`: the cells of a row in parentheses, and what stands in front of one of
  them.
- `exists_cell_of_insertValues`: every value of an insert is that of a cell.
- `WritesCells`: the placeholders of a statement are the cells of its values, one after the other.
- `insert_values_follow_text`: so it is for an insert, for one that passes over rows and for one
  that updates those that are there.
-/

namespace QueryBuilder

/-! ## Cells -/

/-- The cells of a row in parentheses. -/
def groupText (columns : List String) (row : Assignments) : String :=
  "(" ++ Operand.sqlList (cells columns row) ++ ")"

/-- What stands in front of a cell: the groups of the rows before its own, and the cells of its row
under the columns before its own. -/
def cellFront (columns : List String) (earlier : List Assignments) (row : Assignments)
    (left : List String) : String :=
  textBefore ", " (earlier.map (groupText columns)) ++ "(" ++
    textBefore ", " ((cells left row).map Operand.sql)

/-- The values of the cells of a row. -/
def cellValues (columns : List String) (row : Assignments) : List Value :=
  (cells columns row).filterMap Operand.bound?

section Cells

variable {row : Assignments} {columns : List String}

/-- A row's cell is what the row gives to the column, or null. -/
theorem cells_append (left right : List String) (row : Assignments) :
    cells (left ++ right) row = cells left row ++ cells right row :=
  List.map_append

/-- Raw SQL in a row binds nothing and closes its quotes, and null is a value. -/
theorem allowsOperand_of_mem_cells
    (hrow : ∀ entry ∈ row.entries, Rules.matched.AllowsOperand entry.2) :
    ∀ o ∈ cells columns row, Rules.matched.AllowsOperand o := by
  intro o ho
  obtain ⟨column, -, rfl⟩ := List.mem_map.mp ho
  unfold Assignments.get?
  cases hfound : row.entries.find? fun entry => entry.1 == column with
  | none => exact trivial
  | some entry => exact hrow entry (List.mem_of_find?_eq_some hfound)

/-- Operands carry what they bind, a value each. -/
theorem carriesAll_bound {os : List Operand} (h : ∀ o ∈ os, Rules.matched.AllowsOperand o) :
    CarriesAll (os.map Operand.sql) (os.filterMap Operand.bound?).length := by
  -- a value is a mark and one placeholder, raw SQL carries none
  induction os with
  | nil => exact CarriesAll.nil
  | cons o os ih =>
    rw [List.forall_mem_cons] at h
    have hrest := ih h.2
    cases o with
    | value v =>
      have hone := CarriesAll.cons carries_mark hrest
      rwa [Nat.add_comm] at hone
    | raw sql =>
      have hraw : Carries sql 0 := h.1
      have hnone := CarriesAll.cons hraw hrest
      rwa [Nat.zero_add] at hnone

/-- The cells of a row carry the placeholders of its values. -/
theorem carries_groupText (hrow : ∀ entry ∈ row.entries, Rules.matched.AllowsOperand entry.2) :
    Carries (groupText columns row) (cellValues columns row).length :=
  (CarriesAll.join (by decide) (carriesAll_bound (allowsOperand_of_mem_cells hrow))).parenthesized

/-- So do the cells of several rows, row by row. -/
theorem carriesAll_groupTexts {rows : List Assignments}
    (hrows : ∀ row ∈ rows, ∀ entry ∈ row.entries, Rules.matched.AllowsOperand entry.2) :
    CarriesAll (rows.map (groupText columns)) (rows.flatMap (cellValues columns)).length := by
  induction rows with
  | nil => exact CarriesAll.nil
  | cons row rows ih =>
    rw [List.forall_mem_cons] at hrows
    rw [List.flatMap_cons, List.length_append]
    exact CarriesAll.cons (carries_groupText hrows.1) (ih hrows.2)

/-- In front of a cell stand the placeholders of the values before its own. -/
theorem carries_cellFront {earlier : List Assignments} {left : List String}
    (hearlier : ∀ row ∈ earlier, ∀ entry ∈ row.entries, Rules.matched.AllowsOperand entry.2)
    (hrow : ∀ entry ∈ row.entries, Rules.matched.AllowsOperand entry.2) :
    Carries (cellFront columns earlier row left)
      ((earlier.flatMap (cellValues columns)).length + (cellValues left row).length) := by
  have hcomma : Carries ", " 0 := by decide
  have hopen : Carries "(" 0 := by decide
  have hgroups : Carries (textBefore ", " (earlier.map (groupText columns)))
      (earlier.flatMap (cellValues columns)).length :=
    (carriesAll_groupTexts hearlier).textBefore hcomma
  have hcells : Carries (textBefore ", " ((cells left row).map Operand.sql))
      (cellValues left row).length :=
    (carriesAll_bound (allowsOperand_of_mem_cells hrow)).textBefore hcomma
  exact (hgroups.append hopen).append hcells

/-- A value of several lists put together is a value of one of them. -/
theorem exists_of_getElem?_flatMap {α β : Type} {f : α → List β} {as : List α} {i : Nat} {b : β}
    (h : (as.flatMap f)[i]? = some b) :
    ∃ left a right k, as = left ++ a :: right ∧ (f a)[k]? = some b ∧
      i = (left.flatMap f).length + k := by
  induction as generalizing i with
  | nil => simp at h
  | cons a as ih =>
    rw [List.flatMap_cons] at h
    -- the value lies in the first list, or its index goes down by the length of that
    by_cases hi : i < (f a).length
    · rw [List.getElem?_append_left hi] at h
      exact ⟨[], a, as, i, rfl, h, (Nat.zero_add i).symm⟩
    · rw [List.getElem?_append_right (Nat.le_of_not_lt hi)] at h
      obtain ⟨left, c, right, k, rfl, hc, hk⟩ := ih h
      refine ⟨a :: left, c, right, k, rfl, hc, ?_⟩
      rw [List.flatMap_cons, List.length_append]
      omega

/-- A value of a row is what the row gives to a column, or null where it gives nothing. -/
theorem exists_cell_of_cellValues {k : Nat} {v : Value}
    (h : (cellValues columns row)[k]? = some v) :
    ∃ left column right, columns = left ++ column :: right ∧
      (row.get? column).getD (.value .null) = .value v ∧ k = (cellValues left row).length := by
  have hvalues : ∀ columns, cellValues columns row =
      columns.flatMap fun column => ((row.get? column).getD (.value .null)).bound?.toList := by
    intro columns
    unfold cellValues cells
    rw [List.filterMap_eq_flatMap_toList, List.flatMap_map]
  rw [hvalues] at h
  obtain ⟨left, column, right, i, rfl, hi, rfl⟩ := exists_of_getElem?_flatMap h
  refine ⟨left, column, right, rfl, ?_⟩
  rw [hvalues]
  -- a cell binds at most one value
  cases hcell : (row.get? column).getD (.value .null) with
  | value w =>
    rw [hcell] at hi
    cases i with
    | zero => exact ⟨congrArg Operand.value (Option.some.inj hi), rfl⟩
    | succ i => simp [Operand.bound?] at hi
  | raw sql =>
    rw [hcell] at hi
    simp [Operand.bound?] at hi

/-- Every value of an insert is that of a cell: the row and the column before which the values
before it stand. -/
theorem exists_cell_of_insertValues {rows : List Assignments} {i : Nat} {v : Value}
    (h : (insertValues rows)[i]? = some v) :
    ∃ earlier row later left column right,
      rows = earlier ++ row :: later ∧ insertColumns rows = left ++ column :: right ∧
        (row.get? column).getD (.value .null) = .value v ∧
        i = (earlier.flatMap (cellValues (insertColumns rows))).length +
          (cellValues left row).length := by
  obtain ⟨earlier, row, later, k, hrows, hk, rfl⟩ := exists_of_getElem?_flatMap h
  obtain ⟨left, column, right, hcolumns, hcell, rfl⟩ := exists_cell_of_cellValues hk
  exact ⟨earlier, row, later, left, column, right, hrows, hcolumns, hcell, rfl⟩

/-- The groups of all rows, cut in front of a cell and behind it. -/
theorem join_groupTexts_split {columns left right : List String} {column : String}
    (hcolumns : columns = left ++ column :: right) (earlier later : List Assignments)
    (row : Assignments) :
    ∃ rest, Text.join ", " ((earlier ++ row :: later).map (groupText columns)) =
      cellFront columns earlier row left ++ ((row.get? column).getD (.value .null)).sql ++
        rest := by
  -- the row itself is cut at its column
  have hgroup : groupText columns row =
      "(" ++ (textBefore ", " ((cells left row).map Operand.sql) ++
        ((row.get? column).getD (.value .null)).sql ++
        textBehind ", " ((cells right row).map Operand.sql)) ++ ")" := by
    subst hcolumns
    unfold groupText Operand.sqlList
    rw [cells_append, List.map_append]
    exact congrArg (fun text => "(" ++ text ++ ")") (join_split ", " _ _ _)
  refine ⟨textBehind ", " ((cells right row).map Operand.sql) ++ ")" ++
    textBehind ", " (later.map (groupText columns)), ?_⟩
  rw [List.map_append, List.map_cons, join_split, hgroup]
  unfold cellFront
  simp only [String.append_assoc]

end Cells

/-! ## Statements -/

/-- A statement writes rows as groups of cells, as many cells in each as the first row has, and its
placeholders are the cells of the values of the insert: in front of the cell of a value stands one
placeholder for each value before it. -/
structure WritesCells (rows : List Assignments) (sql : String) : Prop where
  counted : Carries sql (insertValues rows).length
  even : ∀ row ∈ rows, (cells (insertColumns rows) row).length = (insertColumns rows).length
  placed : ∃ head tail, Carries head 0 ∧ Carries tail 0 ∧
    sql = head ++ Text.join ", " (rows.map (groupText (insertColumns rows))) ++ tail ∧
    ∀ i v, (insertValues rows)[i]? = some v → ∃ earlier row later left column right,
      rows = earlier ++ row :: later ∧ insertColumns rows = left ++ column :: right ∧
      (row.get? column).getD (.value .null) = .value v ∧
      Carries (head ++ cellFront (insertColumns rows) earlier row left) i ∧
      ∃ rest, sql = head ++ cellFront (insertColumns rows) earlier row left ++ "?" ++ rest

/-- Groups of cells between texts that carry nothing. -/
theorem writesCells_between {rows : List Assignments} {head tail : String}
    (hrows : ∀ row ∈ rows, ∀ entry ∈ row.entries, Rules.matched.AllowsOperand entry.2)
    (hhead : Carries head 0) (htail : Carries tail 0) :
    WritesCells rows
      (head ++ Text.join ", " (rows.map (groupText (insertColumns rows))) ++ tail) where
  counted := Carries.between hhead (CarriesAll.join (by decide) (carriesAll_groupTexts hrows)) htail
  even _ _ := List.length_map _
  placed := by
    refine ⟨head, tail, hhead, htail, rfl, fun i v hv => ?_⟩
    obtain ⟨earlier, row, later, left, column, right, heq, hcolumns, hcell, rfl⟩ :=
      exists_cell_of_insertValues hv
    rw [heq, List.forall_mem_append, List.forall_mem_cons] at hrows
    obtain ⟨hearlier, hrow, -⟩ := hrows
    have hcells : Carries (cellFront (insertColumns rows) earlier row left) _ :=
      carries_cellFront hearlier hrow
    have hfront := hhead.append hcells
    rw [Nat.zero_add] at hfront
    -- the same cut as text, with the cell written as a placeholder
    obtain ⟨rest, hrest⟩ := join_groupTexts_split hcolumns earlier later row
    refine ⟨earlier, row, later, left, column, right, heq, hcolumns, hcell, hfront,
      rest ++ tail, ?_⟩
    have htext : Text.join ", " (rows.map (groupText (insertColumns rows))) =
        cellFront (insertColumns rows) earlier row left ++ "?" ++ rest := by
      rw [hcell, ← heq] at hrest
      exact hrest
    rw [htext]
    simp only [String.append_assoc]

namespace Query

variable {q : Query} {table : String} {rows : List Assignments}

/-- What an insert has in front of its rows. -/
def insertHead (q : Query) (words table : String) (rows : List Assignments) : String :=
  words ++ " into " ++ q.dialect.quoteName table ++ " (" ++
    q.dialect.columns ((insertColumns rows).map Column.name) ++ ") values "

/-- An insert into a table is its head with the groups of its rows behind it. -/
theorem insertWith_eq (hsource : q.source = some (.table table)) (words : String)
    (hrows : rows ≠ []) :
    q.insertWith words rows = .ok (q.insertHead words table rows ++
      Text.join ", " (rows.map (groupText (insertColumns rows)))) := by
  have hempty : ¬ rows.isEmpty = true := by simpa using hrows
  unfold insertWith
  rw [target_ok hsource]
  show (if rows.isEmpty then _ else _) = _
  rw [if_neg hempty]
  rfl

/-- Names of columns carry no placeholder. -/
theorem carries_columnNames (d : Dialect) (names : List String) :
    Carries (d.columns (names.map Column.name)) 0 := by
  refine CarriesAll.columns (carriesAll_zero fun t ht => ?_)
  rw [List.map_map] at ht
  obtain ⟨name, -, rfl⟩ := List.mem_map.mp ht
  exact carries_quoteName d name

/-- Nothing is bound in front of the rows. -/
theorem carries_insertHead (q : Query) {words : String} (hwords : Carries words 0) (table : String)
    (rows : List Assignments) : Carries (q.insertHead words table rows) 0 := by
  have hinto : Carries " into " 0 := by decide
  have hopen : Carries " (" 0 := by decide
  have hvalues : Carries ") values " 0 := by decide
  have htable := carries_quoteName q.dialect table
  have hcolumns := carries_columnNames q.dialect (insertColumns rows)
  exact ((((hwords.append hinto).append htable).append hopen).append hcolumns).append hvalues

/-- What an upsert has behind its insert. -/
def updatesText : Dialect → List String → List String → String
  | .mysql, _, update =>
    " on duplicate key update " ++ Text.join ", " (update.map fun column =>
      Dialect.mysql.quoteName column ++ " = values(" ++ Dialect.mysql.quoteName column ++ ")")
  | d, unique, update =>
    " on conflict (" ++ d.columns (unique.map Column.name) ++ ") do update set " ++
      Text.join ", " (update.map fun column =>
        d.quoteName column ++ " = " ++ d.quote "excluded" ++ "." ++ d.quoteName column)

/-- Nor behind them. -/
theorem carries_updatesText (d : Dialect) (unique update : List String) :
    Carries (updatesText d unique update) 0 := by
  -- each dialect assigns the updated columns in its own words
  have hentries {entry : String → String} (hentry : ∀ column, Carries (entry column) 0) :
      Carries (Text.join ", " (update.map entry)) 0 := by
    refine CarriesAll.join (by decide) (carriesAll_zero fun t ht => ?_)
    obtain ⟨column, -, rfl⟩ := List.mem_map.mp ht
    exact hentry column
  have honConflict : ∀ d : Dialect, Carries
      (" on conflict (" ++ d.columns (unique.map Column.name) ++
      ") do update set " ++ Text.join ", " (update.map fun column =>
        d.quoteName column ++ " = " ++ d.quote "excluded" ++ "." ++ d.quoteName column)) 0 := by
    intro d
    have hword : Carries " on conflict (" 0 := by decide
    have hset : Carries ") do update set " 0 := by decide
    have hequals : Carries " = " 0 := by decide
    have hdot : Carries "." 0 := by decide
    refine ((hword.append (carries_columnNames d unique)).append hset).append
      (hentries fun column => ?_)
    have hname := carries_quoteName d column
    exact (((hname.append hequals).append (carries_quote d "excluded")).append hdot).append hname
  cases d with
  | mysql =>
    have hword : Carries " on duplicate key update " 0 := by decide
    have hopen : Carries " = values(" 0 := by decide
    have hclose : Carries ")" 0 := by decide
    refine hword.append (hentries fun column => ?_)
    have hname := carries_quoteName .mysql column
    exact ((hname.append hopen).append hname).append hclose
  | sqlite => exact honConflict .sqlite
  | plain => exact honConflict .plain

/-- An upsert is an insert with a text behind it. -/
theorem upsertText_eq {sql : String} (hinsert : q.insertText rows = .ok sql)
    (hdialect : q.dialect ≠ .plain) (unique update : List String) :
    q.upsertText rows unique update = .ok (sql ++ updatesText q.dialect unique update) := by
  unfold upsertText
  rw [hinsert]
  cases hd : q.dialect with
  | plain => exact absurd hd hdialect
  | mysql => exact congrArg Except.ok String.append_assoc
  | sqlite =>
    refine congrArg Except.ok ?_
    unfold updatesText
    simp only [String.append_assoc]

/-- An insert that passes over rows is an insert with other words. -/
theorem insertIgnoringText_eq (hdialect : q.dialect ≠ .plain) (rows : List Assignments) :
    ∃ words, Carries words 0 ∧ q.insertIgnoringText rows = q.insertWith words rows := by
  unfold insertIgnoringText
  cases hd : q.dialect with
  | plain => exact absurd hd hdialect
  | mysql => exact ⟨"insert ignore", by decide, rfl⟩
  | sqlite => exact ⟨"insert or ignore", by decide, rfl⟩

/-- The placeholders of an insert of rows, of one that passes over rows that are there and of one
that updates them are the cells of the values that the insert binds, in their order: a row's own
value under a column of the first row, or null where the row lacks the column. An insert of one row
that asks for the new key is the insert of that row. -/
theorem insert_values_follow_text (hsource : q.source = some (.table table)) (hempty : rows ≠ [])
    (hrows : ∀ row ∈ rows, ∀ entry ∈ row.entries, Rules.matched.AllowsOperand entry.2) :
    (∃ sql, q.insertText rows = .ok sql ∧ WritesCells rows sql) ∧
      (q.dialect ≠ .plain →
        (∃ sql, q.insertIgnoringText rows = .ok sql ∧ WritesCells rows sql) ∧
        ∀ unique update, ∃ sql, q.upsertText rows unique update = .ok sql ∧
          WritesCells rows sql) := by
  -- one statement for every wording, with a text behind the rows that carries nothing
  have hwritten {words : String} (hwords : Carries words 0) :
      ∃ sql, q.insertWith words rows = .ok sql ∧ ∀ tail, Carries tail 0 →
        WritesCells rows (sql ++ tail) :=
    ⟨_, insertWith_eq hsource words hempty, fun _ htail =>
      writesCells_between hrows (q.carries_insertHead hwords table rows) htail⟩
  have hbare {words : String} (hwords : Carries words 0) :
      ∃ sql, q.insertWith words rows = .ok sql ∧ WritesCells rows sql := by
    obtain ⟨sql, hsql, hwrites⟩ := hwritten hwords
    exact ⟨sql, hsql, String.append_empty (s := sql) ▸ hwrites "" carries_empty⟩
  refine ⟨hbare (by decide), fun hdialect => ⟨?_, fun unique update => ?_⟩⟩
  · obtain ⟨words, hwords, heq⟩ := insertIgnoringText_eq hdialect rows
    rw [heq]
    exact hbare hwords
  · have hinsert : Carries "insert" 0 := by decide
    obtain ⟨sql, hsql, hwrites⟩ := hwritten hinsert
    exact ⟨_, upsertText_eq hsql hdialect unique update,
      hwrites _ (carries_updatesText _ unique update)⟩

/-- Two rows to write: the second lacks a column of the first, has another, and gives SQL for a
value. -/
def unevenRows : List Assignments :=
  [.ofList [("votes", .value (.text "v")), ("name", .value (.text "n")), ("at", .raw "now()")],
    .ofList [("votes", .raw "1 + 1"), ("at", .value (.text "t")), ("more", .value (.text "m"))]]

/-- The last of the four values is for the name that the second row lacks. -/
theorem insert_values_follow_text_uneven :
    insertValues unevenRows = [.text "n", .text "v", .text "t", .null] ∧
      ∀ d ≠ Dialect.plain, ∃ sql,
        (Query.table { dialect := d } "users").insertText unevenRows = .ok sql ∧
        placeholders sql = 4 ∧ ∃ sql,
        (Query.table { dialect := d } "users").upsertText unevenRows ["name"] ["votes"] = .ok sql ∧
        placeholders sql = 4 := by
  refine ⟨rfl, fun d hd => ?_⟩
  have hrows : ∀ row ∈ unevenRows, ∀ entry ∈ row.entries, Rules.matched.AllowsOperand entry.2 := by
    have hnow : Carries "now()" 0 := by decide
    have hsum : Carries "1 + 1" 0 := by decide
    have hfirst : (Assignments.ofList [("votes", .value (.text "v")), ("name", .value (.text "n")),
        ("at", .raw "now()")]).entries =
      [("at", .raw "now()"), ("name", .value (.text "n")), ("votes", .value (.text "v"))] := rfl
    have hsecond : (Assignments.ofList [("votes", .raw "1 + 1"), ("at", .value (.text "t")),
        ("more", .value (.text "m"))]).entries =
      [("at", .value (.text "t")), ("more", .value (.text "m")), ("votes", .raw "1 + 1")] := rfl
    unfold unevenRows
    simp only [List.forall_mem_cons, hfirst, hsecond]
    exact ⟨⟨hnow, trivial, trivial, nofun⟩, ⟨trivial, trivial, hsum, nofun⟩, nofun⟩
  obtain ⟨⟨sql, hsql, hwrites⟩, hsupported⟩ :=
    insert_values_follow_text (q := .table { dialect := d } "users") rfl
      (List.cons_ne_nil _ _) hrows
  obtain ⟨upsert, hupsert, hupsertWrites⟩ := (hsupported hd).2 ["name"] ["votes"]
  exact ⟨sql, hsql, hwrites.counted.count, upsert, hupsert, hupsertWrites.counted.count⟩

end Query

end QueryBuilder
