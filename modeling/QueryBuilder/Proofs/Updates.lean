import QueryBuilder.Proofs.BuiltAlignment
import QueryBuilder.Proofs.WriteText

/-!
# The parameters of an update

An update has joins, assignments and conditions. One dialect writes the assignments first and
selects the rows by their number, the others write the joins first; in each of them the values come
in the order of the text.

A text has parts, and each part its values, so it is enough that text and values name the same
parts in the same order. The two are put together apart from one another, by a list of clauses for
the values and by a grammar for the text; `Query.updateParts` is the order that both agree on.

- `Query.inDialect`: the query under the grammar of a dialect.
- `Query.SpreadsJoins`: what joins bind are scalars. Every edit keeps this
  (`Query.editClosed_spreadsJoins`), so these values need not be spread when they are taken out of
  their place among the others.
- `Query.updateParts`: the parts of an update in their order. `Query.shows_updateRest`: they stand
  behind its table. `Query.updateValues_eq_parts`: its values are theirs.
- `update_values_follow_text`: both for whatever a program builds, in every dialect.
-/

namespace QueryBuilder

namespace Query

variable {p q : Query} {table : String} {row : Assignments}

/-- The query under the grammar of a dialect. -/
def inDialect (q : Query) (d : Dialect) : Query :=
  { q with connection := { q.connection with dialect := d } }

/-! ## Joins bind scalars -/

/-- The values filed for joins are scalars. -/
def SpreadsJoins (q : Query) : Prop :=
  ∀ v ∈ q.bindings.get .joins, v.leaves = [v]

/-- Whatever leaves the values of joins leaves them scalars. -/
theorem SpreadsJoins.of_eq (h : p.SpreadsJoins)
    (hkept : q.bindings.get .joins = p.bindings.get .joins) : q.SpreadsJoins := by
  unfold SpreadsJoins
  rw [hkept]
  exact h

theorem SpreadsJoins.updateTail (h : q.SpreadsJoins) (f : Tail → Tail) :
    (q.updateTail f).SpreadsJoins :=
  h.of_eq (by rw [bindings_updateTail])

theorem SpreadsJoins.order (h : q.SpreadsJoins) (key : SortKey) (vs : List Value) :
    ((q.addSortKey key).bind q.orderClause vs).SpreadsJoins := by
  refine h.of_eq ?_
  show ((q.addSortKey key).bindings.extend q.orderClause vs).get .joins = _
  have hclause : Clause.joins ≠ q.orderClause := by
    unfold orderClause
    split <;> decide
  have hbindings : (q.addSortKey key).bindings = q.bindings := bindings_updateTail q _
  rw [Bindings.get_extend, if_neg hclause, hbindings]

/-- The conditions of a join hand their values over as scalars. -/
theorem SpreadsJoins.join (h : q.SpreadsJoins) {vs : List Value} (hvs : ∀ v ∈ vs, v.leaves = [v])
    (j : JoinDraft) : ((q.bind .joins vs).addJoin j).SpreadsJoins := by
  intro v hv
  have hjoins : ((q.bind .joins vs).addJoin j).bindings.get .joins =
      q.bindings.get .joins ++ vs ++ j.inner.values := rfl
  rw [hjoins, List.mem_append, List.mem_append] at hv
  rcases hv with (hv | hv) | hv
  · exact h v hv
  · exact hvs v hv
  · exact j.inner.leaves_of_mem_values v hv

/-- As long as values are not changed apart from the parts, joins bind scalars. -/
theorem editClosed_spreadsJoins {r : Rules} (hapart : ¬ r.apart) :
    EditClosed r fun p q => p.SpreadsJoins → q.SpreadsJoins where
  refl _ := id
  select hq _ := hq
  column hq _ := hq
  distinct hq := hq
  source hq _ _ := hq
  join _ hq _ hvs _ _ := fun hp => (hq hp).join hvs _
  condition _ hq _ := hq
  group hq _ := hq
  having _ hq _ := hq
  order hq _ := fun hp => (hq hp).order _ _
  reorder hq := hq
  withoutOrdersBy _ hq := hq
  limit _ hq := fun hp => (hq hp).updateTail _
  offset _ hq := fun hp => (hq hp).updateTail _
  union _ hq _ := hq
  loads _ hq := hq
  -- values that are filed by hand need not be scalars, so the rules exclude it
  values _ h := absurd h hapart
  drop _ h := absurd h hapart
  fresh _ _ := fun _ hv => absurd hv List.not_mem_nil

/-! ## The parts of an update -/

/-- The assignments as a part of an update. -/
def assignmentsPart (d : Dialect) (row : Assignments) : Statement :=
  ⟨assignmentsText d row, row.bound⟩

/-- The parts of an update in the order in which its dialect writes them. -/
def updateParts (q : Query) (row : Assignments) : List Statement :=
  if q.dialect = .sqlite then
    [assignmentsPart q.dialect row, q.clausePart .joins, q.clausePart .wheres]
  else [q.clausePart .joins, assignmentsPart q.dialect row, q.clausePart .wheres]

/-- An assignment carries what it binds: one value, or with raw SQL none. -/
theorem carriesAll_assignments {entries : List (String × Operand)} (d : Dialect)
    (h : ∀ entry ∈ entries, Rules.matched.AllowsOperand entry.2) :
    CarriesAll (entries.map fun entry => d.quoteName entry.1 ++ " = " ++ entry.2.sql)
      (entries.filterMap fun entry => entry.2.bound?).length := by
  -- on the assignments: a value adds one placeholder, raw SQL adds what it carries
  induction entries with
  | nil => exact CarriesAll.nil
  | cons entry entries ih =>
    have hrest := ih fun other hother => h other (List.mem_cons_of_mem entry hother)
    have hequals : Carries " = " 0 := by decide
    have hname := (carries_quoteName d entry.1).append hequals
    obtain ⟨column, operand⟩ := entry
    cases operand with
    | value v =>
      have hone := CarriesAll.cons (hname.append carries_mark) hrest
      rw [Nat.add_comm] at hone
      exact hone
    | raw sql =>
      have hraw : Carries sql 0 := h _ List.mem_cons_self
      have hnone := CarriesAll.cons (hname.append hraw) hrest
      rw [Nat.zero_add] at hnone
      exact hnone

theorem carries_assignmentsPart (d : Dialect)
    (hrow : ∀ entry ∈ row.entries, Rules.matched.AllowsOperand entry.2) :
    Carries (assignmentsPart d row).sql (assignmentsPart d row).values.length :=
  CarriesAll.join (by decide) (carriesAll_assignments d hrow)

/-- What an update has behind its table. -/
def updateRest (q : Query) (table : String) (row : Assignments) : String :=
  if q.joins = [] then " set " ++ assignmentsText q.dialect row ++ " " ++ q.whereText
  else if q.dialect = .sqlite then
    " set " ++ assignmentsText q.dialect row ++ " " ++ q.byRowIdText table
  else
    " " ++ joinsText q.dialect q.joins ++ " set " ++ assignmentsText q.dialect row ++
      " " ++ q.whereText

/-- An update is its words, its table and what stands behind it, trimmed. -/
theorem updateText_eq (hsource : q.source = some (.table table)) (row : Assignments) :
    q.updateText row = .ok (Text.trim ("update " ++ (q.dialect.quoteName table ++
      q.updateRest (q.dialect.quoteName table) row))) := by
  unfold updateText updateRest
  rw [target_ok hsource]
  simp only [List.isEmpty_iff]
  show Except.ok _ = _
  congr 2
  by_cases hjoins : q.joins = []
  · rw [if_pos hjoins, if_pos hjoins]
    simp only [String.append_assoc]
  · rw [if_neg hjoins, if_neg hjoins]
    cases q.dialect <;> simp [String.append_assoc]

/-- The parts of an update stand behind its table. -/
theorem shows_updateRest (h : q.Aligned q.dialect) (htable : Carries table 0)
    (halias : Carries (writtenAlias table) 0)
    (hrow : ∀ entry ∈ row.entries, Rules.matched.AllowsOperand entry.2) :
    Shows (q.updateRest table row) (q.updateParts row) := by
  have hassignments := carries_assignmentsPart q.dialect hrow
  have hset : Carries " set " 0 := by decide
  have hbehind := Shows.cons hset hassignments (shows_wheres h)
  unfold updateRest updateParts
  -- without joins the three orders are one, as the part for joins is empty
  by_cases hjoins : q.joins = []
  · obtain ⟨hempty, hnone⟩ := clausePart_joins_of_none h hjoins
    rw [if_pos hjoins]
    split
    · have hshows := Shows.cons hset hassignments (.cons_empty hempty hnone (shows_wheres h))
      rwa [← String.append_assoc] at hshows
    · rw [← String.append_assoc] at hbehind
      exact .cons_empty hempty hnone hbehind
  · rw [if_neg hjoins]
    split
    · have hrows := (shows_byRowIdText h htable halias).after carries_space
      have hshows := Shows.cons hset hassignments hrows
      rwa [← String.append_assoc] at hshows
    · have hshows := Shows.cons carries_space (carries_clausePart h .joins) hbehind
      rwa [← String.append_assoc, ← String.append_assoc, ← String.append_assoc] at hshows

/-- The text of an update shows its parts. -/
theorem shows_updateText (h : q.Aligned q.dialect) (hsource : q.source = some (.table table))
    (halias : Carries (writtenAlias (q.dialect.quoteName table)) 0)
    (hrow : ∀ entry ∈ row.entries, Rules.matched.AllowsOperand entry.2) :
    ∃ sql, q.updateText row = .ok sql ∧ Shows sql (q.updateParts row) := by
  have htable := carries_quoteName q.dialect table
  have hword : Carries "update " 0 := by decide
  have hshows := ((shows_updateRest h htable halias hrow).after htable).after hword
  exact ⟨_, updateText_eq hsource row, hshows.trim (c := 'u') rfl (by decide)⟩

/-- The values of an update are those of its parts. -/
theorem updateValues_eq_parts (hnone : q.bindings.count .source = 0) (hbehind : q.behindValues = [])
    (hjoins : q.SpreadsJoins) (row : Assignments) :
    q.updateValues row = (q.updateParts row).flatMap Statement.values := by
  -- the values of joins are filed as they are bound, so they may be bound alone
  have hspread : (q.clausePart .joins).values = q.bindings.get .joins :=
    flatMap_leaves_of_spread hjoins
  have hvalues : q.updateValues row =
      if q.dialect = .sqlite then row.bound ++ q.bindings.flattenExcept [.columns]
      else q.bindings.get .joins ++ row.bound ++ q.bindings.flattenExcept [.columns, .joins] := by
    unfold updateValues
    cases q.dialect <;> rfl
  rw [hvalues, flattenExcept_columns hnone, flattenExcept_columns_joins hnone, hbehind]
  unfold updateParts
  split
  · simp [assignmentsPart]
  · simp [assignmentsPart, hspread]

end Query

/-! ## Updates of what a program builds -/

/-- Whatever a program builds on a simple table that binds nothing behind its conditions, and
whatever is assigned: in every dialect there is an update. Its text shows the joins, the assignments
and the conditions, in this order or with the assignments in front, and nothing else that a value
could belong to; its values are those of the joins, of the assignments and of the conditions in the
same order. Without joins they are the same in all dialects. -/
theorem update_values_follow_text {c : Connection} {steps : List Step} {q : Query}
    (hallows : Rules.matched.AllowsSteps steps (.on c)) (hrun : runSteps steps (.on c) = .ok q)
    {table : String} (hsource : q.source = some (.table table)) (htable : SimpleTable table)
    (hbehind : ∀ e ∈ Clause.behindWheres, q.bindings.count e = 0) (row : Assignments)
    (hrow : ∀ entry ∈ row.entries, Rules.matched.AllowsOperand entry.2) :
    (∀ d, ∃ sql, (q.inDialect d).updateText row = .ok sql ∧
      Shows sql ((q.inDialect d).updateParts row) ∧
      (q.inDialect d).updateValues row =
        ((q.inDialect d).updateParts row).flatMap Statement.values) ∧
    (q.joins = [] → ∀ d e, (q.inDialect d).updateValues row =
      (q.inDialect e).updateValues row) := by
  have haligned : ∀ d, (q.inDialect d).Aligned d := by
    intro d
    obtain ⟨hplain, hcloses, hcount⟩ := (keepsAligned_of_runSteps hallows hrun).aligned d
    exact ⟨hplain, hcloses, hcount⟩
  have hspreads : q.SpreadsJoins :=
    (Query.editClosed_spreadsJoins (r := .matched) id).stepsKeep steps id hallows hrun
      fun v hv => absurd hv List.not_mem_nil
  have hnone : q.bindings.count .source = 0 :=
    Query.count_source (q := q.inDialect q.dialect) (haligned q.dialect) hsource
  have hvalues : ∀ d, (q.inDialect d).updateValues row =
      ((q.inDialect d).updateParts row).flatMap Statement.values := by
    intro d
    exact Query.updateValues_eq_parts (q := q.inDialect d) hnone
      (Query.behindValues_eq_nil_iff.mpr hbehind) hspreads row
  constructor
  · intro d
    obtain ⟨sql, htext, hshows⟩ := Query.shows_updateText (q := q.inDialect d) (haligned d) hsource
      (carries_writtenAlias htable d) hrow
    exact ⟨sql, htext, hshows, hvalues d⟩
  · intro hjoins d e
    -- without values of joins the two orders are one
    have hsame : ∀ d, (q.inDialect d).updateValues row =
        row.bound ++ (q.clausePart .wheres).values := by
      intro d
      have hempty : ((q.inDialect d).clausePart .joins).values = [] :=
        (Query.clausePart_joins_of_none (haligned d) hjoins).2
      rw [hvalues d]
      unfold Query.updateParts
      split
      · show row.bound ++ (((q.inDialect d).clausePart .joins).values ++
          ((q.clausePart .wheres).values ++ [])) = _
        rw [hempty, List.nil_append, List.append_nil]
      · show ((q.inDialect d).clausePart .joins).values ++
          (row.bound ++ ((q.clausePart .wheres).values ++ [])) = _
        rw [hempty, List.nil_append, List.append_nil]
    rw [hsame d, hsame e]

/-- Users under an alias with a value in a column, joined with posts on a group and with a
sub-query: three values beside that of the column. -/
def joinedProgram : List Step :=
  [.source (.table "users as u"), .selectRaw "? as x" [.text "s"],
    .joinWith (.table "posts") .inner
      [.on .and "posts.user_id" "=" "u.id",
        .group .and [.compare .or "posts.kind" "=" (.operand (.value (.text "a")))]],
    .joinNested (.closure [.source (.table "tags"), .whereRaw .and "x = ?" [.text "b"]]) "t" .left
      "t.user_id" "=" "u.id",
    .compare .and (.column (.name "age")) (some ">") (.operand (.value (.text "c")))]

/-- A value and raw SQL. -/
def namedNow : Assignments :=
  .ofList [("name", .value (.text "n")), ("at", .raw "now()")]

/-- The rules allow the program: each raw text has as many placeholders as values. -/
theorem allowsSteps_joinedProgram : Rules.matched.AllowsSteps joinedProgram (.on {}) := by
  have hcolumn : Carries "? as x" 1 := by decide
  have hequals : Carries "=" 0 := by decide
  have hx : Carries "x = ?" 1 := by decide
  refine Rules.allowsSteps_cons ⟨trivial, .inr rfl⟩ rfl ?_
  refine Rules.allowsSteps_cons hcolumn rfl ?_
  refine Rules.allowsSteps_cons ⟨trivial, hequals, ⟨trivial, trivial⟩, trivial⟩ rfl ?_
  refine Rules.allowsSteps_cons ⟨?_, hequals⟩ rfl ?_
  · exact Rules.allowsSteps_cons ⟨trivial, .inr rfl⟩ rfl (Rules.allowsSteps_cons hx rfl trivial)
  · exact Rules.allowsSteps_cons ⟨trivial, trivial⟩ rfl trivial

/-- The assigned value stands between those of joins and conditions in one dialect, and in front
in the other. -/
theorem update_values_follow_text_joined :
    ∃ q, runSteps joinedProgram (.on {}) = .ok q ∧
      (∃ sql, (q.inDialect .mysql).updateText namedNow = .ok sql ∧ placeholders sql = 4 ∧
        (q.inDialect .mysql).updateValues namedNow = [.text "a", .text "b", .text "n", .text "c"]) ∧
      ∃ sql, (q.inDialect .sqlite).updateText namedNow = .ok sql ∧ placeholders sql = 4 ∧
        (q.inDialect .sqlite).updateValues namedNow =
          [.text "n", .text "a", .text "b", .text "c"] := by
  obtain ⟨q, hq, hsource, hbehind, hmysql, hsqlite⟩ : ∃ q, runSteps joinedProgram (.on {}) = .ok q ∧
      q.source = some (.table "users as u") ∧
      (∀ e ∈ Clause.behindWheres, q.bindings.count e = 0) ∧
      (q.inDialect .mysql).updateValues namedNow = [.text "a", .text "b", .text "n", .text "c"] ∧
      (q.inDialect .sqlite).updateValues namedNow = [.text "n", .text "a", .text "b", .text "c"] :=
    ⟨_, rfl, rfl, by decide, rfl, rfl⟩
  have hunblank : ∀ cs : List Char, cs.all (fun c => !Text.isBlank c) = true →
      ∀ c ∈ cs, Text.isBlank c = false := by
    intro cs hcs c hc
    simpa using List.all_eq_true.mp hcs c hc
  have htable : SimpleTable "users as u" :=
    .inr ⟨"users", "u", rfl, hunblank _ rfl, hunblank _ rfl⟩
  have hrow : ∀ entry ∈ namedNow.entries, Rules.matched.AllowsOperand entry.2 := by
    intro entry hentry
    have hentries : namedNow.entries = [("at", .raw "now()"), ("name", .value (.text "n"))] := rfl
    rw [hentries, List.mem_cons, List.mem_singleton] at hentry
    rcases hentry with rfl | rfl
    · exact (by decide : Carries "now()" 0)
    · trivial
  have hupdate :=
    (update_values_follow_text allowsSteps_joinedProgram hq hsource htable hbehind namedNow hrow).1
  obtain ⟨mysql, hmysqlText, hmysqlShows, hmysqlValues⟩ := hupdate .mysql
  obtain ⟨sqlite, hsqliteText, hsqliteShows, hsqliteValues⟩ := hupdate .sqlite
  refine ⟨q, hq, ⟨mysql, hmysqlText, ?_, hmysql⟩, sqlite, hsqliteText, ?_, hsqlite⟩
  · rw [hmysqlShows.carries.count, ← hmysqlValues, hmysql]
    rfl
  · rw [hsqliteShows.carries.count, ← hsqliteValues, hsqlite]
    rfl

end QueryBuilder
