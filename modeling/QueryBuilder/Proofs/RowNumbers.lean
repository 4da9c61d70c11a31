import QueryBuilder.Proofs.Filings
import QueryBuilder.Proofs.Precedence
import QueryBuilder.Proofs.TextEnds
import QueryBuilder.Proofs.Updates
import QueryBuilder.Proofs.WriteScope

/-!
# The rows that a write with joins reaches

One dialect has no joins in updates and deletes. There the rows are selected by their numbers, in a
condition behind the assignments; the text of this select is put together by hand, and trimmed,
apart from the texts of selects. It is the text of a select all the same: of the query that selects
the row numbers and nothing else.

- `Predicate.rawEnd?`: the SQL that a predicate ends with as it was given. Any other predicate ends
  in a word, a quotation mark, a placeholder or a parenthesis (`endsUnblank_predicateText`).
- `endsUnblank_joinsText`, `endsUnblank_conditionsText`: joins always end so, conditions if their
  SQL does.
- `WriteScope.rowIdText_eq_sql`: the select of row numbers is what the query that selects them is
  written as.
- `joined_write_reaches_selected_rows`: the texts and the values of updates and deletes.
-/

namespace QueryBuilder

/-! ## Ends of predicates, conditions and joins -/

/-- The SQL, neither quoted nor bound, that the text of a predicate ends with. -/
def Predicate.rawEnd? : Predicate → Option String
  | .compare _ _ (.raw sql) => some sql
  | .compareColumns _ _ (.raw sql) => some sql
  | .raw sql => some sql
  | .between _ _ _ (.raw sql) => some sql
  | .betweenColumns _ _ _ (.raw sql) => some sql
  | _ => none

/-- The condition does not end with SQL that is empty or has blanks around it. -/
def Condition.EndsTight (c : Condition) : Prop :=
  ∀ sql ∈ c.predicate.rawEnd?, sql ≠ "" ∧ Text.trim sql = sql

instance (c : Condition) : Decidable c.EndsTight :=
  inferInstanceAs (Decidable (∀ sql ∈ c.predicate.rawEnd?, sql ≠ "" ∧ Text.trim sql = sql))

/-- A placeholder ends unblank; raw SQL in its place ends as it was given. -/
theorem endsUnblank_operand {o : Operand} (h : ∀ sql, o = .raw sql → EndsUnblank sql) :
    EndsUnblank o.sql := by
  cases o with
  | value v => exact (by decide : EndsUnblank "?")
  | raw sql => exact h sql rfl

/-- A quoted name ends in a quotation mark or a star. -/
theorem endsUnblank_column {d : Dialect} {c : Column} (h : ∀ sql, c = .raw sql → EndsUnblank sql) :
    EndsUnblank (d.column c) := by
  cases c with
  | name s => exact endsUnblank_quoteName d s
  | raw sql => exact h sql rfl

theorem endsUnblank_close (s : String) : EndsUnblank (s ++ ")") :=
  EndsUnblank.after (by decide) s

/-- A predicate ends in a blank only if the SQL at its end does. -/
theorem endsUnblank_predicateText {c : Condition} (h : c.EndsTight) :
    EndsUnblank (predicateText .sqlite c.predicate) := by
  obtain ⟨connector, p⟩ := c
  have hraw : ∀ sql, p.rawEnd? = some sql → EndsUnblank sql := fun sql hsql =>
    EndsUnblank.of_trim_eq (h sql hsql).1 (h sql hsql).2
  show EndsUnblank (predicateText .sqlite p)
  -- by the last thing that each predicate writes
  cases p with
  | compare column operator value =>
    rw [predicateText]
    exact (endsUnblank_operand fun sql heq => hraw sql (by rw [heq]; rfl)).after _
  | compareColumns first operator second =>
    rw [predicateText]
    exact (endsUnblank_column fun sql heq => hraw sql (by rw [heq]; rfl)).after _
  | isNull negated column =>
    rw [predicateText]
    refine EndsUnblank.after ?_ _
    cases negated <;> decide
  | raw sql => rw [predicateText]; exact hraw sql rfl
  | isIn negated column candidates =>
    rw [predicateText]
    unfold Dialect.isInText
    split
    · cases negated <;> decide
    · exact endsUnblank_close _
  | between negated column low high =>
    rw [predicateText]
    exact (endsUnblank_operand fun sql heq => hraw sql (by rw [heq]; rfl)).after _
  | betweenColumns negated column low high =>
    rw [predicateText]
    exact (endsUnblank_column fun sql heq => hraw sql (by rw [heq]; rfl)).after _
  | datePart part column operator value =>
    rw [predicateText]
    exact EndsUnblank.after (by decide) _
  | group conditions => rw [predicateText]; exact endsUnblank_close _
  | compareQuery column operator query => rw [predicateText]; exact endsUnblank_close _
  | «exists» negated query => rw [predicateText]; exact endsUnblank_close _

/-- Conditions that are written one behind the other end as the last of them does. -/
theorem endsUnblank_followingText {items : List (Connector × String)} (hne : items ≠ [])
    (h : ∀ item ∈ items, EndsUnblank item.2) : EndsUnblank (followingText items) := by
  induction items with
  | nil => exact absurd rfl hne
  | cons item rest ih =>
    rw [List.forall_mem_cons] at h
    rw [followingText]
    -- an empty rest writes nothing, so that this is the last one
    cases rest with
    | nil =>
      rw [followingText, String.append_empty]
      exact h.1.after _
    | cons next rest => exact (ih (List.cons_ne_nil next rest) h.2).after _

/-- The text of a condition list ends as the text of its last condition does. -/
theorem endsUnblank_conditionsText {conditions : List Condition} (hne : conditions ≠ [])
    (h : ∀ c ∈ conditions, c.EndsTight) : EndsUnblank (conditionsText .sqlite conditions) := by
  cases conditions with
  | nil => exact absurd rfl hne
  | cons c rest =>
    rw [List.forall_mem_cons] at h
    rw [conditionsText_cons]
    cases rest with
    | nil =>
      show EndsUnblank (_ ++ "")
      rw [String.append_empty]
      unfold Connector.signedText
      split
      · exact (endsUnblank_predicateText h.1).after _
      · exact endsUnblank_predicateText h.1
    | cons next rest =>
      refine (endsUnblank_followingText (by simp [writtenConditions]) ?_).after _
      intro item hitem
      obtain ⟨c', hc', rfl⟩ := List.mem_map.mp hitem
      exact endsUnblank_predicateText (h.2 c' hc')

/-- The text of each join ends unblank, since it is trimmed. -/
theorem endsUnblank_of_mem_joinTexts (d : Dialect) (joins : List Join) :
    ∀ t ∈ joinTexts d joins, EndsUnblank t := by
  induction joins with
  | nil => simp [joinTexts]
  | cons j rest ih =>
    obtain ⟨kind, source, conditions, joins⟩ := j
    rw [joinTexts, List.forall_mem_cons]
    -- the text of a join starts with the word for its kind
    obtain ⟨c, hkind, hc⟩ : ∃ c, kind.sql.toList.head? = some c ∧ Text.isBlank c = false := by
      cases kind <;> exact ⟨_, rfl, by decide⟩
    refine ⟨EndsUnblank.trim_of_head ?_ hc, ih⟩
    rw [String.append_assoc, String.append_assoc, String.append_assoc, String.toList_append,
      List.head?_append, hkind, Option.some_or]

/-- However its joins end, their text is trimmed join by join. -/
theorem endsUnblank_joinsText (d : Dialect) {joins : List Join} (hne : joins ≠ []) :
    EndsUnblank (joinsText d joins) := by
  refine EndsUnblank.join ?_ (endsUnblank_of_mem_joinTexts d joins)
  rw [ne_eq, ← List.isEmpty_iff, isEmpty_joinTexts, List.isEmpty_iff]
  exact hne

/-! ## The select of row numbers -/

/-- A select without groups, orderings and windows has its clauses with one blank between them. -/
theorem concatenate_select {columns source joins wheres : String} (hcolumns : columns ≠ "")
    (hsource : source ≠ "") (hjoins : joins ≠ "") :
    concatenate [columns, source, joins, wheres, "", "", "", "", ""] =
      columns ++ " " ++ source ++ " " ++ joins ++ (if wheres = "" then "" else " " ++ wheres) := by
  unfold concatenate
  by_cases hwheres : wheres = "" <;> simp [hcolumns, hsource, hjoins, hwheres, String.append_assoc]

namespace WriteScope

variable {w : WriteScope} {table : String}

/-- The query that selects the row numbers of the table, on the joins and the conditions of a
write. -/
def rowNumbers (w : WriteScope) (table : String) : Query :=
  (Query.ofScope w).select [.raw (w.connection.dialect.quoteOwner table ++ ".rowid")]

/-- The select of row numbers, clause by clause. -/
theorem sql_rowNumbers (hsource : w.source = some (.table table)) (hjoins : w.joins ≠ []) :
    (w.rowNumbers table).sql =
      "select " ++ (w.connection.dialect.quoteOwner table ++ ".rowid") ++ " " ++
        ("from " ++ w.connection.dialect.quoteName table) ++ " " ++
          joinsText w.connection.dialect w.joins ++
        (if (Query.ofScope w).whereText = "" then "" else " " ++ (Query.ofScope w).whereText) := by
  have htexts : (w.rowNumbers table).sql =
      concatenate ["select " ++ (w.connection.dialect.quoteOwner table ++ ".rowid"),
        "from " ++ w.connection.dialect.quoteName table, joinsText w.connection.dialect w.joins,
        (Query.ofScope w).whereText, "", "", "", "", ""] := by
    obtain ⟨connection, source, joins, wheres, bindings⟩ := w
    cases hsource
    rfl
  rw [htexts]
  refine concatenate_select ?_ ?_ (endsUnblank_joinsText _ hjoins).ne_empty
  · simp
  · simp

/-- The select that is put together by hand is the text of the query that selects the row
numbers. -/
theorem rowIdText_eq_sql (hdialect : w.connection.dialect = .sqlite)
    (hsource : w.source = some (.table table)) (hsimple : SimpleTable table) (hjoins : w.joins ≠ [])
    (htight : ∀ c ∈ w.wheres, c.EndsTight) :
    (Query.ofScope w).rowIdText (w.connection.dialect.quoteName table) =
      (w.rowNumbers table).sql := by
  have hselect : "select ".toList.head? = some 's' := rfl
  have hunblank : Text.isBlank 's' = false := by decide
  have hends : EndsUnblank (joinsText w.connection.dialect w.joins) :=
    endsUnblank_joinsText _ hjoins
  -- what stands in front of the conditions
  let found := w.connection.dialect.quoteOwner table ++ ".rowid from " ++
    w.connection.dialect.quoteName table ++ " " ++ joinsText w.connection.dialect w.joins
  have hwritten : (Query.ofScope w).rowIdText (w.connection.dialect.quoteName table) =
      Text.trim ("select " ++ found ++ (" " ++ (Query.ofScope w).whereText)) := by
    unfold Query.rowIdText
    rw [writtenAlias_quoteName hsimple]
    refine congrArg Text.trim ?_
    simp only [found, String.append_assoc]
    rfl
  have hsql : (w.rowNumbers table).sql = "select " ++ found ++
      (if (Query.ofScope w).whereText = "" then "" else " " ++ (Query.ofScope w).whereText) := by
    rw [sql_rowNumbers hsource hjoins, ← String.toList_inj]
    simp [found]
  rw [hwritten, hsql]
  -- without conditions two blanks at the end are trimmed; with them nothing is
  by_cases hwheres : w.wheres = []
  · have hnone : (Query.ofScope w).whereText = "" := by
      show keyword "where" (conditionsText w.connection.dialect w.wheres) = ""
      rw [hwheres]
      rfl
    rw [hnone, if_pos rfl, String.append_empty, String.append_empty]
    refine trim_append_blanks hselect hunblank ((hends.after _).after _) ?_
    intro c hc
    simp at hc
    subst hc
    decide
  · have hconditions : EndsUnblank (conditionsText w.connection.dialect w.wheres) := by
      rw [hdialect]
      exact endsUnblank_conditionsText hwheres htight
    have hwhere : EndsUnblank (Query.ofScope w).whereText := by
      show EndsUnblank (keyword "where" (conditionsText w.connection.dialect w.wheres))
      unfold keyword
      rw [if_neg hconditions.ne_empty]
      exact hconditions.after _
    rw [if_neg hwhere.ne_empty, String.append_assoc]
    exact trim_of_endsUnblank hselect hunblank (((hwhere.after " ").after found).after "select ")

/-- The values of the select are all values of the write but those of columns. -/
theorem values_rowNumbers (w : WriteScope) (table : String) :
    (w.rowNumbers table).values = w.bindings.flattenExcept [.columns] :=
  (w.bindings.flattenExcept_eq_flatten_clear [.columns]).symm

end WriteScope

/-! ## Writes around the select -/

namespace Query

variable {q : Query} {table : String}

theorem endsUnblank_byRowIdText (q : Query) (table : String) : EndsUnblank (q.byRowIdText table) :=
  endsUnblank_close _

/-- The parenthesis behind the select of row numbers ends the update, so nothing is trimmed. -/
theorem updateText_joined (hdialect : q.dialect = .sqlite)
    (hsource : q.source = some (.table table)) (hjoins : q.joins ≠ []) (row : Assignments) :
    q.updateText row = .ok ("update " ++ (q.dialect.quoteName table ++
      (" set " ++ assignmentsText q.dialect row ++ " " ++
        q.byRowIdText (q.dialect.quoteName table)))) := by
  have hends := (q.endsUnblank_byRowIdText (q.dialect.quoteName table)).after
    (" set " ++ assignmentsText q.dialect row ++ " ")
  rw [updateText_eq hsource, updateRest, if_neg hjoins, if_pos hdialect]
  exact congrArg Except.ok (trim_of_endsUnblank (c := 'u') rfl (by decide)
    ((hends.after _).after "update "))

/-- The same of the delete. -/
theorem deleteText_joined (hdialect : q.dialect = .sqlite)
    (hsource : q.source = some (.table table)) (hjoins : q.joins ≠ []) :
    q.deleteText = .ok ("delete " ++ ("from " ++ q.dialect.quoteName table ++ " " ++
      q.byRowIdText (q.dialect.quoteName table))) := by
  have hends := (q.endsUnblank_byRowIdText (q.dialect.quoteName table)).after
    ("from " ++ q.dialect.quoteName table ++ " ")
  rw [deleteText_eq hsource, deleteRest, if_neg hjoins, if_pos hdialect]
  exact congrArg Except.ok (trim_of_endsUnblank (c := 'd') rfl (by decide) (hends.after "delete "))

end Query

/-- In the dialect without joins in writes, an update or a delete with joins of a simple table
reaches the rows that a select finds: in the condition on row numbers stands the text of the query
that selects the row numbers of the table on the same joins and conditions, and behind the
assignments come the values of that query. SQL that a condition ends with must not be empty or have
blanks around it. -/
theorem joined_write_reaches_selected_rows {w : WriteScope} {table : String} (row : Assignments)
    (hdialect : w.connection.dialect = .sqlite) (hsource : w.source = some (.table table))
    (hsimple : SimpleTable table) (hjoins : w.joins ≠ []) (htight : ∀ c ∈ w.wheres, c.EndsTight) :
    let q := Query.ofScope w
    let found := q.select [.raw (Dialect.sqlite.quoteOwner table ++ ".rowid")]
    q.updateText row = .ok ("update " ++ Dialect.sqlite.quoteName table ++ " set " ++
        Query.assignmentsText .sqlite row ++ " where \"rowid\" in (" ++ found.sql ++ ")") ∧
      q.updateValues row = row.bound ++ found.values ∧
      q.deleteText = .ok ("delete from " ++ Dialect.sqlite.quoteName table ++
        " where \"rowid\" in (" ++ found.sql ++ ")") ∧
      q.deleteValues = found.values := by
  intro q found
  have hd : q.dialect = .sqlite := hdialect
  -- the select was made for the dialect by name, and for the write by its connection
  have hfound : found = w.rowNumbers table := by
    show _ = (Query.ofScope w).select [.raw (w.connection.dialect.quoteOwner table ++ ".rowid")]
    rw [hdialect]
  have hrows : q.byRowIdText (Dialect.sqlite.quoteName table) =
      "where \"rowid\" in (" ++ found.sql ++ ")" := by
    have hselect := WriteScope.rowIdText_eq_sql hdialect hsource hsimple hjoins htight
    rw [hdialect, ← hfound] at hselect
    unfold Query.byRowIdText
    rw [hd, hselect]
    rfl
  have hvalues : q.bindings.flattenExcept [.columns] = found.values := by
    rw [hfound]
    exact (w.values_rowNumbers table).symm
  refine ⟨?_, ?_, ?_, hvalues⟩
  · rw [Query.updateText_joined hd hsource hjoins row, hd, hrows]
    refine congrArg Except.ok (String.toList_inj.mp ?_)
    simp
  · rw [← hvalues]
    unfold Query.updateValues
    rw [hd]
  · rw [Query.deleteText_joined hd hsource hjoins, hd, hrows]
    refine congrArg Except.ok (String.toList_inj.mp ?_)
    simp

/-- Users with a name and a phone that is not at work; the phones join their lines first. -/
def usersWithPhones : WriteScope where
  connection := { dialect := .sqlite }
  source := some (.table "users as u")
  joins :=
    [⟨.left, .table "phones as p",
      [⟨.or, .compareColumns (.name "u.id") "=" (.name "p.user")⟩,
        ⟨.andNot, .group [⟨.or, .compare (.name "kind") "=" (.value (.text "work"))⟩]⟩],
      [⟨.cross, .table "lines", [], []⟩]⟩]
  wheres := [⟨.and, .isNull true (.name "u.name")⟩, ⟨.or, .raw "lines.id = 1"⟩]
  bindings := { joins := [.text "work"] }

/-- The select of their row numbers. -/
def phoneRowsText : String :=
  "select \"u\".rowid from \"users\" as \"u\" " ++
    "left join (\"phones\" as \"p\" cross join \"lines\") on " ++
    "\"u\".\"id\" = \"p\".\"user\" and not (\"kind\" = ?) " ++
    "where \"u\".\"name\" is not null or lines.id = 1"

/-- The names of these users are written, and the users are removed. -/
theorem joined_write_reaches_selected_rows_phones :
    ((Query.ofScope usersWithPhones).select [.raw "\"u\".rowid"]).sql = phoneRowsText ∧
      (Query.ofScope usersWithPhones).updateText named =
        .ok ("update \"users\" as \"u\" set \"name\" = ? where \"rowid\" in (" ++
          phoneRowsText ++ ")") ∧
      (Query.ofScope usersWithPhones).updateValues named = [.text "n", .text "work"] ∧
      (Query.ofScope usersWithPhones).deleteText =
        .ok ("delete from \"users\" as \"u\" where \"rowid\" in (" ++ phoneRowsText ++ ")") ∧
      (Query.ofScope usersWithPhones).deleteValues = [.text "work"] := by
  have hsql : ((Query.ofScope usersWithPhones).select [.raw "\"u\".rowid"]).sql =
      phoneRowsText := by
    decide +kernel
  have hunblank : ∀ cs : List Char, cs.all (fun c => !Text.isBlank c) = true →
      ∀ c ∈ cs, Text.isBlank c = false := by
    intro cs hcs c hc
    simpa using List.all_eq_true.mp hcs c hc
  -- the table is a name and its alias, with one blank on either side of the word
  have hsimple : SimpleTable "users as u" :=
    .inr ⟨"users", "u", rfl, hunblank _ rfl, hunblank _ rfl⟩
  have htight : ∀ c ∈ usersWithPhones.wheres, c.EndsTight := by decide +kernel
  have howner : Dialect.sqlite.quoteOwner "users as u" ++ ".rowid" = "\"u\".rowid" := rfl
  have hset : "update " ++ Dialect.sqlite.quoteName "users as u" ++ " set " ++
      Query.assignmentsText .sqlite named ++ " where \"rowid\" in (" =
        "update \"users\" as \"u\" set \"name\" = ? where \"rowid\" in (" := rfl
  have hfrom : "delete from " ++ Dialect.sqlite.quoteName "users as u" ++ " where \"rowid\" in (" =
      "delete from \"users\" as \"u\" where \"rowid\" in (" := rfl
  obtain ⟨hupdate, hupdated, hdelete, hdeleted⟩ :=
    joined_write_reaches_selected_rows (w := usersWithPhones) named rfl rfl hsimple
      (List.cons_ne_nil _ _) htight
  rw [howner] at hupdate hupdated hdelete hdeleted
  rw [hset, hsql] at hupdate
  rw [hfrom, hsql] at hdelete
  exact ⟨hsql, hupdate, hupdated, hdelete, hdeleted⟩

end QueryBuilder
