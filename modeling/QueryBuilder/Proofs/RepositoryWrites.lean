import QueryBuilder.Repository
import QueryBuilder.Proofs.Batches
import QueryBuilder.Proofs.Deletes
import QueryBuilder.Proofs.Filings
import QueryBuilder.Proofs.InsertedRows
import QueryBuilder.Proofs.KeyedStatements
import QueryBuilder.Proofs.TextEnds
import QueryBuilder.Proofs.Updates

/-!
# What a repository sends and announces

A repository that fills in timestamps sends one statement for a write. The row in it is the row it
was given with the timestamp columns in the place of whatever the row had for them, and the same row
is announced, with the answer, once the statement has succeeded.

A write is a chain of three: fill in, send, announce. Each link has its own lemma, so that an
observer who declines, an executor that fails and a connection without one differ in a single place.

- `Connection.reply`: the answer to one statement, with an executor or without.
- `announce_apply`: a statement and the announcement of its answer, as one step of a walk.
- `Assignments.cells_columns`: under its own columns a row is written as it is.
- `Query.insertText_table`, `Query.updateText_keyed`, `Query.deleteText_keyed`: the texts of the
  three writes.
- `repository_announces_what_it_sends`: what each write sends, gives back and announces.
-/

namespace QueryBuilder

/-! ## One statement -/

/-- The answer to a statement: without an executor there is none. -/
def Connection.reply {β : Type} (c : Connection) (answer : Reply β) : Except Error β :=
  if c.attached then answer.mapError .execution else .error .noExecutor

/-- The session after an insert that asks for the key was sent. -/
def Session.inserting (s : Session) (sql : String) (vs : List Value) (key : String) : Session :=
  { s with keys := s.keys.tail, sent := s.sent ++ [.insertReturning sql vs key] }

namespace Connection

/-- A write is sent if there is an executor, and its answer is the reply. -/
theorem update_apply (c : Connection) (sql : String) (vs : List Value) (s : Session) :
    c.update sql vs s =
      (c.reply (s.counts.headD (.ok 1)), if c.attached then s.writing sql vs else s) := by
  unfold reply
  cases hc : c.attached with
  | true => exact update_attached hc sql vs s
  | false => exact update_detached hc sql vs s

end Connection

/-- The key of an inserted row is asked for under the name of the primary key. -/
theorem Query.insertReturning_apply {q : Query} {row : Assignments} {sql : String}
    (hsql : q.insertText [row] = .ok sql) (s : Session) :
    q.insertReturning row none s =
      (q.connection.reply (s.keys.headD (.ok 1)),
        if q.connection.attached then
          s.inserting sql (insertValues [row]) q.connection.config.primaryKey
        else s) := by
  unfold insertReturning Connection.insertReturning Connection.requireExecutor Connection.reply
  cases hc : q.connection.attached with
  | true =>
    rw [hsql]
    show (s.keys.headD (.ok 1)).toRun
      (s.inserting sql (insertValues [row]) q.connection.config.primaryKey) = _
    cases s.keys.headD (.ok 1) <;> rfl
  | false => rfl

theorem Query.update_apply {q : Query} {row : Assignments} {sql : String}
    (hsql : q.updateText row = .ok sql) (s : Session) :
    q.update row s =
      (q.connection.reply (s.counts.headD (.ok 1)),
        if q.connection.attached then s.writing sql (q.updateValues row) else s) := by
  rw [← Connection.update_apply]
  unfold update
  rw [hsql]
  rfl

theorem Query.delete_apply {q : Query} {sql : String} (hsql : q.deleteText = .ok sql)
    (s : Session) :
    q.delete s =
      (q.connection.reply (s.counts.headD (.ok 1)),
        if q.connection.attached then s.writing sql q.deleteValues else s) := by
  rw [← Connection.update_apply]
  unfold delete
  rw [hsql]
  rfl

/-! ## Announcements -/

/-- What is announced of an answer: nothing unless the statement succeeded. -/
def announced {α β : Type} (announce : β → α) : Except Error β → List α
  | .ok b => [announce b]
  | .error _ => []

/-- A statement is sent, its answer is announced if there is one, and given back. -/
theorem announce_apply {α β : Type} {run : Run β} {tour : Tour α} {answer : Except Error β}
    {s : Session} (hrun : run tour.session = (answer, s)) (announce : β → α) :
    (run.toWalk >>= fun b => Walk.note (announce b) >>= fun _ => pure b : Walk α β) tour =
      (answer, ⟨s, tour.calls ++ announced announce answer⟩) := by
  have hsent : (run.toWalk : Walk α β) tour = (answer, ⟨s, tour.calls⟩) :=
    Run.toWalk_apply hrun tour.calls
  -- a failure ends the walk before anything is announced
  cases answer with
  | ok b =>
    rw [bind_apply_ok hsent]
    rfl
  | error why =>
    rw [bind_apply_error hsent, announced, List.append_nil]

/-! ## Rows as they are written -/

namespace Assignments

/-- In a row every column occurs once, so each assignment is the one that is found for its
column. -/
theorem find?_of_sorted {entries : List (String × Operand)} {entry : String × Operand}
    (hsorted : entries.Pairwise fun a b => a.1 < b.1) (hmem : entry ∈ entries) :
    (entries.find? fun other => other.1 == entry.1) = some entry := by
  induction entries with
  | nil => cases hmem
  | cons head rest ih =>
    obtain ⟨hbelow, hrest⟩ := List.pairwise_cons.mp hsorted
    rcases List.mem_cons.mp hmem with rfl | hmem
    · exact List.find?_cons_of_pos (beq_self_eq_true entry.1)
    · -- the columns behind the first are larger than it
      have hne : ¬ (head.1 == entry.1) = true := by
        rw [beq_iff_eq]
        intro heq
        exact String.lt_irrefl _ (heq ▸ hbelow entry hmem)
      rw [List.find?_cons, Bool.eq_false_iff.mpr hne]
      exact ih hrest hmem

/-- Under its own columns a row is written as it is. -/
theorem cells_columns (row : Assignments) : cells row.columns row = row.entries.map Prod.snd := by
  unfold cells columns
  rw [List.map_map]
  refine List.map_congr_left ?_
  intro entry hentry
  show (row.get? entry.1).getD (.value .null) = entry.2
  unfold get?
  rw [find?_of_sorted row.sorted hentry]
  rfl

/-- A single row binds its own values, in the order of its columns. -/
theorem insertValues_singleton (row : Assignments) : insertValues [row] = row.bound := by
  show (cells row.columns row).filterMap Operand.bound? ++ [] =
    row.entries.filterMap fun entry => entry.2.bound?
  rw [List.append_nil, cells_columns, List.filterMap_map]
  rfl

end Assignments

/-! ## The texts of the writes -/

namespace Query

variable {q : Query} {table : String}

/-- The insert of a single row names its columns and gives them what the row does. -/
theorem insertText_table (hsource : q.source = some (.table table)) (row : Assignments) :
    q.insertText [row] = .ok ("insert into " ++ q.dialect.quoteName table ++ " (" ++
      q.dialect.columns (row.columns.map Column.name) ++ ") values (" ++
        Operand.sqlList (row.entries.map Prod.snd) ++ ")") := by
  have hgrid := insertWith_grid (target_ok hsource) (List.cons_ne_nil row []) "insert"
  -- a grid of one row has the cells of that row
  have hcells : (gridOf [row]).rows = [row.entries.map Prod.snd] := by
    show [cells row.columns row] = _
    rw [row.cells_columns]
  unfold Grid.text at hgrid
  rw [hcells] at hgrid
  refine hgrid.trans (congrArg Except.ok (String.toList_inj.mp ?_))
  show _ = _
  simp [gridOf, insertColumns]

/-- The one condition that a column has a value. -/
theorem conditionsText_equals (d : Dialect) (column : String) (v : Value) :
    conditionsText d [⟨.and, .compare (.name column) "=" (.value v)⟩] =
      d.quoteName column ++ " = ?" := by
  rw [conditionsText_cons, predicateText]
  show d.quoteName column ++ " " ++ "=" ++ " " ++ "?" ++ "" = d.quoteName column ++ " = ?"
  simp only [String.append_assoc]
  rfl

/-- A query that has no conditions and seeks a key has the one condition. -/
theorem whereText_keyed (hwheres : q.wheres = []) (column : String) (v : Value) :
    (q.keyed column "=" (.value v)).whereText =
      "where " ++ (q.dialect.quoteName column ++ " = ?") := by
  have hkeyed : (q.keyed column "=" (.value v)).wheres =
      [⟨.and, .compare (.name column) "=" (.value v)⟩] := by
    show q.wheres ++ _ = _
    rw [hwheres]
    rfl
  have hsome : q.dialect.quoteName column ++ " = ?" ≠ "" := by simp
  unfold whereText keyword
  rw [hkeyed]
  show (if conditionsText q.dialect _ = "" then "" else "where" ++ " " ++
    conditionsText q.dialect _) = _
  rw [conditionsText_equals, if_neg hsome, String.append_assoc]
  rfl

/-- The update of the row of a key, in a query without joins or conditions. -/
theorem updateText_keyed (hsource : q.source = some (.table table)) (hjoins : q.joins = [])
    (hwheres : q.wheres = []) (column : String) (v : Value) (row : Assignments) :
    (q.keyed column "=" (.value v)).updateText row =
      .ok ("update " ++ q.dialect.quoteName table ++ " set " ++ assignmentsText q.dialect row ++
        " where " ++ q.dialect.quoteName column ++ " = ?") := by
  have hkeyed : (q.keyed column "=" (.value v)).joins = [] := hjoins
  -- the text ends in a placeholder, so nothing is trimmed
  have hmark : EndsUnblank " = ?" := by decide
  have hends := (((hmark.after (q.dialect.quoteName column)).after "where ").after
    (" set " ++ assignmentsText q.dialect row ++ " ")).after (q.dialect.quoteName table)
  rw [updateText_eq (q := q.keyed column "=" (.value v)) hsource, updateRest, if_pos hkeyed,
    whereText_keyed hwheres]
  have hkept := trim_of_endsUnblank (c := 'u') rfl (by decide) (hends.after "update ")
  refine congrArg Except.ok (hkept.trans (String.toList_inj.mp ?_))
  simp

/-- The delete of the row of a key, in a query without joins or conditions. -/
theorem deleteText_keyed (hsource : q.source = some (.table table)) (hjoins : q.joins = [])
    (hwheres : q.wheres = []) (column : String) (v : Value) :
    (q.keyed column "=" (.value v)).deleteText =
      .ok ("delete from " ++ q.dialect.quoteName table ++ " where " ++
        q.dialect.quoteName column ++ " = ?") := by
  have hkeyed : (q.keyed column "=" (.value v)).joins = [] := hjoins
  have hmark : EndsUnblank " = ?" := by decide
  have hends := ((hmark.after (q.dialect.quoteName column)).after "where ").after
    ("from " ++ q.dialect.quoteName table ++ " ")
  rw [deleteText_eq (q := q.keyed column "=" (.value v)) hsource, deleteRest, if_pos hkeyed,
    whereText_keyed hwheres]
  have hkept := trim_of_endsUnblank (c := 'd') rfl (by decide) (hends.after "delete ")
  refine congrArg Except.ok (hkept.trans (String.toList_inj.mp ?_))
  simp

/-- A key that is a scalar is all that is bound. -/
theorem bindings_keyed (hbindings : q.bindings = {}) {v : Value} (hv : v.isScalar = true)
    (column : String) : (q.keyed column "=" (.value v)).bindings = { wheres := [v] } := by
  show q.bindings.extend .wheres [v.scalar] = _
  rw [hbindings, scalar_of_isScalar hv]
  rfl

/-- The key is left out only with the conditions. -/
theorem flattenExcept_key {v : Value} (hv : v.isScalar = true) {excluded : List Clause}
    (hwheres : .wheres ∉ excluded) :
    ({ wheres := [v] } : Bindings).flattenExcept excluded = [v] := by
  have hkept : excluded.foldl Bindings.clear { wheres := [v] } = { wheres := [v] } := by
    refine Bindings.ext_get ?_
    intro c
    rw [Bindings.get_foldl_clear]
    split
    next hc =>
      cases c with
      | wheres => exact absurd hc hwheres
      | _ => rfl
    next => rfl
  rw [Bindings.flattenExcept_eq_flatten_clear, hkept]
  show v.leaves ++ [] ++ [] = [v]
  rw [Value.leaves_of_isScalar hv]
  rfl

/-- Nothing is bound but the assignments and behind them the key. -/
theorem updateValues_keyed (hbindings : q.bindings = {}) {v : Value} (hv : v.isScalar = true)
    (column : String) (row : Assignments) :
    (q.keyed column "=" (.value v)).updateValues row = row.bound ++ [v] := by
  unfold updateValues
  rw [bindings_keyed hbindings hv, flattenExcept_key hv (by decide),
    flattenExcept_key hv (by decide)]
  cases (q.keyed column "=" (.value v)).dialect <;> rfl

theorem deleteValues_keyed (hbindings : q.bindings = {}) {v : Value} (hv : v.isScalar = true)
    (column : String) : (q.keyed column "=" (.value v)).deleteValues = [v] := by
  unfold deleteValues
  rw [bindings_keyed hbindings hv, flattenExcept_key hv (by decide)]

end Query

/-! ## Repositories -/

namespace Repository

variable {r : Repository} {now : Moment}

/-- A new row has the moment in both timestamp columns, which may be one column. -/
theorem get?_stampNew (hnow : r.timestamp = some now) (row : Assignments) (column : String) :
    (r.stampNew row).get? column =
      if column = r.connection.config.createdColumn ∨
          column = r.connection.config.updatedColumn then some (.text now.text)
      else row.get? column := by
  unfold stampNew
  rw [hnow]
  show ((row.set _ _).set _ _).get? column = _
  -- the column of the last change is set last, over the other if they are one
  rw [Assignments.get?_set, Assignments.get?_set]
  by_cases hupdated : column = r.connection.config.updatedColumn
  · rw [if_pos hupdated, if_pos (.inr hupdated)]
  · rw [if_neg hupdated]
    simp only [hupdated, or_false]

/-- A changed row has the moment in the column of the last change. -/
theorem get?_stampChanged (hnow : r.timestamp = some now) (row : Assignments) (column : String) :
    (r.stampChanged row).get? column =
      if column = r.connection.config.updatedColumn then some (.text now.text)
      else row.get? column := by
  unfold stampChanged
  rw [hnow]
  exact Assignments.get?_set row _ column _

/-- The insert that a repository sends for a row. -/
def insertion (r : Repository) (row : Assignments) : String :=
  "insert into " ++ r.connection.dialect.quoteName r.table ++ " (" ++
    r.connection.dialect.columns (row.columns.map Column.name) ++ ") values (" ++
      Operand.sqlList (row.entries.map Prod.snd) ++ ")"

/-- A row is inserted as it is stamped, and announced with the key that it was given. -/
theorem insert_apply (row : Assignments) (tour : Tour Announcement) :
    r.insert row tour =
      (r.connection.reply (tour.session.keys.headD (.ok 1)),
        { session :=
            if r.connection.attached then
              tour.session.inserting (r.insertion (r.stampNew row))
                (r.stampNew row).bound r.connection.config.primaryKey
            else tour.session
          calls := tour.calls ++ announced (fun key => .inserted key (r.stampNew row))
            (r.connection.reply (tour.session.keys.headD (.ok 1))) }) := by
  have htext : r.query.insertText [r.stampNew row] = .ok (r.insertion (r.stampNew row)) :=
    Query.insertText_table rfl (r.stampNew row)
  have hrun := Query.insertReturning_apply htext tour.session
  rw [Assignments.insertValues_singleton] at hrun
  exact announce_apply hrun fun key => .inserted key (r.stampNew row)

/-- The update that a repository sends for the row of a key. -/
def change (r : Repository) (row : Assignments) : String :=
  "update " ++ r.connection.dialect.quoteName r.table ++ " set " ++
    Query.assignmentsText r.connection.dialect row ++ " where " ++
      r.connection.dialect.quoteName r.connection.config.primaryKey ++ " = ?"

/-- The delete that a repository sends for the row of a key. -/
def removal (r : Repository) : String :=
  "delete from " ++ r.connection.dialect.quoteName r.table ++ " where " ++
    r.connection.dialect.quoteName (r.query.qualify r.connection.config.primaryKey) ++ " = ?"

variable {v : Value}

/-- The row of the key is updated with the row as it is stamped, which is announced with the number
of rows. -/
theorem update_apply (hscalar : v.isScalar = true) (hsome : v.isNull = false) (row : Assignments)
    (tour : Tour Announcement) :
    r.update (.value v) row tour =
      (r.connection.reply (tour.session.counts.headD (.ok 1)),
        { session :=
            if r.connection.attached then
              tour.session.writing (r.change (r.stampChanged row))
                ((r.stampChanged row).bound ++ [v])
            else tour.session
          calls := tour.calls ++ announced
            (fun changed => .updated (.value v) changed (r.stampChanged row))
            (r.connection.reply (tour.session.counts.headD (.ok 1))) }) := by
  have hkeyed : (Operand.value v).isNull = false := hsome
  -- the query for the row of the key; that the key is no null makes it a comparison
  let q := r.query.keyed r.connection.config.primaryKey "=" (.value v)
  have hkey : r.query.whereIs r.connection.config.primaryKey "=" (.operand (.value v)) = .ok q :=
    Query.whereIs_equals hkeyed _
  have htext : q.updateText (r.stampChanged row) = .ok (r.change (r.stampChanged row)) :=
    Query.updateText_keyed rfl rfl rfl _ v (r.stampChanged row)
  have hvalues : q.updateValues (r.stampChanged row) = (r.stampChanged row).bound ++ [v] :=
    Query.updateValues_keyed rfl hscalar _ (r.stampChanged row)
  have hrun := Query.update_apply htext tour.session
  rw [hvalues] at hrun
  have hseeks : (Run.ofExcept (r.query.whereIs r.connection.config.primaryKey "="
      (.operand (.value v)))).toWalk tour = (.ok q, tour) := by
    rw [hkey]
    rfl
  unfold update
  rw [bind_apply_ok hseeks]
  exact announce_apply hrun fun changed => .updated (.value v) changed (r.stampChanged row)

/-- The row of the key is deleted unless that is forbidden; then nothing is sent, and nothing
announced. -/
theorem delete_apply (hscalar : v.isScalar = true) (hsome : v.isNull = false)
    (tour : Tour Announcement) :
    r.delete (.value v) tour =
      if r.mayDelete (.value v) then
        (r.connection.reply (tour.session.counts.headD (.ok 1)),
          { session := if r.connection.attached then tour.session.writing r.removal [v]
            else tour.session
            calls := tour.calls ++ announced (fun changed => .deleted (.value v) changed)
              (r.connection.reply (tour.session.counts.headD (.ok 1))) })
      else (.ok 0, tour) := by
  have hkeyed : (Operand.value v).isNull = false := hsome
  let q := r.query.deletedBy (.value v)
  have htext : q.deleteText = .ok r.removal := Query.deleteText_keyed rfl rfl rfl _ v
  have hvalues : q.deleteValues = [v] := Query.deleteValues_keyed rfl hscalar _
  have hrun := Query.delete_apply htext tour.session
  rw [hvalues, ← Query.deleteByKey_eq hkeyed] at hrun
  unfold delete
  -- the veto is asked before anything else is done
  split
  next => exact announce_apply hrun fun changed => .deleted (.value v) changed
  next => rfl

end Repository

/-- A repository that fills in timestamps writes a row with these in the place of whatever the row
has for their columns: both of them in an insert, the one of the last change in an update. It sends
one statement, for the row of a key where it is an update or a delete; whatever the answer is, it is
given back. If the statement succeeded, that is announced once, with the answer and the very row
that was sent, and otherwise nothing is. A delete that is forbidden answers that no row was deleted,
and neither sends nor announces anything. -/
theorem repository_announces_what_it_sends {r : Repository} {now : Moment}
    (hnow : r.timestamp = some now) {v : Value} (hscalar : v.isScalar = true)
    (hsome : v.isNull = false) (row : Assignments) (tour : Tour Announcement) :
    let stamped := r.stampNew row
    let changed := r.stampChanged row
    let key := r.connection.reply (tour.session.keys.headD (.ok 1))
    let count := r.connection.reply (tour.session.counts.headD (.ok 1))
    ((∀ column, stamped.get? column =
        if column = r.connection.config.createdColumn ∨
            column = r.connection.config.updatedColumn then some (.text now.text)
        else row.get? column) ∧
      r.insert row tour = (key,
        { session :=
            if r.connection.attached then
              tour.session.inserting (r.insertion stamped) stamped.bound
                r.connection.config.primaryKey
            else tour.session
          calls := tour.calls ++ announced (fun id => .inserted id stamped) key })) ∧
    ((∀ column, changed.get? column =
        if column = r.connection.config.updatedColumn then some (.text now.text)
        else row.get? column) ∧
      r.update (.value v) row tour = (count,
        { session :=
            if r.connection.attached then
              tour.session.writing (r.change changed) (changed.bound ++ [v])
            else tour.session
          calls := tour.calls ++ announced (fun n => .updated (.value v) n changed) count })) ∧
    r.delete (.value v) tour =
      if r.mayDelete (.value v) then
        (count,
          { session := if r.connection.attached then tour.session.writing r.removal [v]
            else tour.session
            calls := tour.calls ++ announced (fun n => .deleted (.value v) n) count })
      else (.ok 0, tour) := by
  intro stamped changed key count
  refine ⟨⟨?_, r.insert_apply row tour⟩, ⟨?_, r.update_apply hscalar hsome row tour⟩, ?_⟩
  · exact r.get?_stampNew hnow row
  · exact r.get?_stampChanged hnow row
  · exact r.delete_apply hscalar hsome tour

/-- Users whose both timestamps are kept in one column, and of whom none may be deleted. -/
def trackedUsers : Repository where
  connection := { attached := true, config := { createdColumn := "seen", updatedColumn := "seen" } }
  table := "users"
  timestamp := some ⟨⟨2024, 5, 1⟩, ⟨12, 0, 0⟩⟩
  mayDelete := fun _ => false

/-- A name, and a moment that has passed. -/
def staleUser : Assignments :=
  .ofList [("seen", .text "never"), ("name", .text "Ann")]

/-- The insert succeeds, the update does not. -/
def firstTour : Tour Announcement where
  session := { keys := [.ok 9], counts := [.error "locked"] }
  calls := []

/-- The insert is announced, the update that fails is not, and the delete is forbidden. -/
theorem repository_announces_what_it_sends_users :
    (trackedUsers.stampNew staleUser).get? "seen" = some (.text "2024-05-01 12:00:00") ∧
      (trackedUsers.insert staleUser firstTour).1 = .ok 9 ∧
      (trackedUsers.insert staleUser firstTour).2.calls =
        [.inserted 9 (trackedUsers.stampNew staleUser)] ∧
      (trackedUsers.insert staleUser firstTour).2.session.sent =
        [.insertReturning "insert into \x60users\x60 (\x60name\x60, \x60seen\x60) values (?, ?)"
          [.text "Ann", .text "2024-05-01 12:00:00"] "id"] ∧
      (trackedUsers.update (.value (.ofInt 9)) staleUser firstTour).1 =
        .error (.execution "locked") ∧
      (trackedUsers.update (.value (.ofInt 9)) staleUser firstTour).2.calls = [] ∧
      (trackedUsers.update (.value (.ofInt 9)) staleUser firstTour).2.session.sent =
        [.update "update \x60users\x60 set \x60name\x60 = ?, \x60seen\x60 = ? where \x60id\x60 = ?"
          [.text "Ann", .text "2024-05-01 12:00:00", .ofInt 9]] ∧
      trackedUsers.delete (.value (.ofInt 9)) firstTour = (.ok 0, firstTour) := by
  obtain ⟨⟨hstamped, hinsert⟩, ⟨-, hupdate⟩, hdelete⟩ :=
    repository_announces_what_it_sends (r := trackedUsers) rfl
      (v := .ofInt 9) rfl rfl staleUser firstTour
  rw [hinsert, hupdate, hdelete, hstamped]
  exact ⟨rfl, rfl, rfl, rfl, rfl, rfl, rfl, rfl⟩

end QueryBuilder
