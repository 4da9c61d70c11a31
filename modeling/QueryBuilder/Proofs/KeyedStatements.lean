import QueryBuilder.Query.Store
import QueryBuilder.Proofs.Connections
import QueryBuilder.Proofs.Precedence
import QueryBuilder.Proofs.Sessions

/-!
# Statements that seek a key

A row is found and deleted by its key, and a window by cursor goes on after a key. The condition on
the key is appended to the conditions that the query has, without parentheses around these.

- `Query.keyed`: the query with the condition on a key. `Query.find_eq`, `Query.deleteByKey_eq` and
  `Query.pageAfter_eq` say what is done with it.
- `restrictedTo_key_iff`: the statements are restricted to the key exactly for a query in which no
  condition but the first is tied with an `or`.
-/

namespace QueryBuilder

namespace Query

variable {q : Query} {key : Operand}

/-- The query with one more condition: a column stands in a relation to a key. -/
def keyed (q : Query) (column operator : String) (key : Operand) : Query :=
  (q.bind .wheres key.scalars).addWhere .and (.compare (.name column) operator key)

/-- The query for the row that a key identifies. -/
def foundBy (q : Query) (key : Operand) : Query :=
  (q.keyed q.connection.config.primaryKey "=" key).limit 1

/-- The query whose rows are deleted where a key identifies them. -/
def deletedBy (q : Query) (key : Operand) : Query :=
  q.keyed (q.qualify q.connection.config.primaryKey) "=" key

/-- An operator that every dialect knows as it stands is written as it stands. -/
theorem whereIs_keyed {operator : String} (hclean : Text.lower (Text.trim operator) = operator)
    (hknows : q.dialect.knows operator = true) (hkey : key.isNull = false) (column : String) :
    q.whereIs column operator (.operand key) = .ok (q.keyed column operator key) := by
  have hcompared := compareColumn_operand (q := q) (hclean.symm ▸ hknows) hkey .and (.name column)
  rwa [hclean] at hcompared

theorem whereIs_equals (hkey : key.isNull = false) (column : String) :
    q.whereIs column "=" (.operand key) = .ok (q.keyed column "=" key) :=
  whereIs_keyed rfl (knows_equals q.dialect) hkey column

theorem wheres_updateTail (q : Query) (f : Tail → Tail) : (q.updateTail f).wheres = q.wheres := by
  unfold updateTail
  split <;> rfl

theorem wheres_orderBy_limit (q : Query) (column : Column) (direction : Direction) (size : Nat) :
    ((q.orderBy column direction).limit size).wheres = q.wheres :=
  (wheres_updateTail _ _).trans (wheres_updateTail _ _)

/-- Finding a row is fetching the query for it, which has a limit of one. -/
theorem find_eq (hkey : key.isNull = false) :
    q.find key = do return (← (q.foundBy key).fetch).head? := by
  show (Run.ofExcept (q.whereIs _ "=" (.operand key)) >>= first) = _
  rw [whereIs_equals hkey]
  rfl

/-- What is sent first to find a row is the query for it. -/
theorem sent_find (hattached : q.connection.attached = true) (hkey : key.isNull = false)
    (s : Session) :
    s.sent ++ [.query (q.foundBy key).sql (q.foundBy key).values] <+: (q.find key s).2.sent := by
  have hconnection : (q.foundBy key).connection = q.connection := connection_updateTail _
  have hfetch := sent_fetch (q := q.foundBy key) (by rw [hconnection]; exact hattached) s
  -- what comes behind the fetch may send more, and takes nothing back
  have hafter := Run.Appends.after (q.foundBy key).fetch
    (fun rows : List Record => Run.Appends.pure rows.head?) s
  rw [find_eq hkey]
  exact hfetch.trans hafter

/-- Deleting by a key is deleting the query for it. -/
theorem deleteByKey_eq (hkey : key.isNull = false) :
    q.deleteByKey key = (q.deletedBy key).delete := by
  show (Run.ofExcept (q.whereIs _ "=" (.operand key)) >>= delete) = _
  rw [whereIs_equals hkey]
  rfl

/-- A row is deleted by one statement, or by none if there is no table to delete from. -/
theorem sent_deleteByKey (hattached : q.connection.attached = true) (hkey : key.isNull = false)
    (s : Session) :
    (∀ sql, (q.deletedBy key).deleteText = .ok sql →
      (q.deleteByKey key s).2.sent = s.sent ++ [.update sql (q.deletedBy key).deleteValues]) ∧
    (∀ why, (q.deletedBy key).deleteText = .error why → q.deleteByKey key s = (.error why, s)) := by
  rw [deleteByKey_eq hkey]
  unfold delete
  constructor
  · intro sql hsql
    rw [hsql]
    show (q.connection.update sql (q.deletedBy key).deleteValues s).2.sent = _
    rw [Connection.update_attached hattached]
    rfl
  · intro why hwhy
    rw [hwhy]
    rfl

/-- The window behind a value: orderings by the column make way for one of its own. -/
theorem pageAfter_eq {last : Value} (hlast : last.isNull = false) (size : Nat) (column : String) :
    q.pageAfter size (some last) column =
      .ok ((((q.withoutOrdersBy column).keyed column ">" (.value last)).orderBy (.name column)
        .ascending).limit size) := by
  have hknows : (q.withoutOrdersBy column).dialect.knows ">" = true := by
    show q.dialect.knows ">" = true
    cases q.dialect <;> decide
  have hvalue : (Operand.value last).isNull = false := hlast
  have hbound : (q.withoutOrdersBy column).whereIs column ">" (.operand (.value last)) =
      .ok ((q.withoutOrdersBy column).keyed column ">" (.value last)) :=
    whereIs_keyed rfl hknows hvalue column
  show ((q.withoutOrdersBy column).whereIs column ">" (.operand (.value last)) >>= _) = _
  rw [hbound]
  rfl

end Query

/-- Behind a key that is not null, the statement that finds a row, the statement that deletes one
and the window after a cursor are restricted to that key exactly if no condition of the query but
the first is tied with an `or`. -/
theorem restrictedTo_key_iff (q : Query) (hattached : q.connection.attached = true) (s : Session) :
    (∀ key : Operand, key.isNull = false →
      s.sent ++ [.query (q.foundBy key).sql (q.foundBy key).values] <+: (q.find key s).2.sent ∧
      (RestrictedTo (q.foundBy key).wheres
        (.compare (.name q.connection.config.primaryKey) "=" key) ↔ Conjoined q.wheres)) ∧
    (∀ key : Operand, key.isNull = false →
      (∀ sql, (q.deletedBy key).deleteText = .ok sql →
        (q.deleteByKey key s).2.sent = s.sent ++ [.update sql (q.deletedBy key).deleteValues]) ∧
      (∀ why, (q.deletedBy key).deleteText = .error why →
        q.deleteByKey key s = (.error why, s)) ∧
      (RestrictedTo (q.deletedBy key).wheres
        (.compare (.name (q.qualify q.connection.config.primaryKey)) "=" key) ↔
          Conjoined q.wheres)) ∧
    (∀ (last : Value) (size : Nat) (column : String), last.isNull = false →
      ∃ window, q.pageAfter size (some last) column = .ok window ∧
        (RestrictedTo window.wheres (.compare (.name column) ">" (.value last)) ↔
          Conjoined q.wheres)) := by
  -- all three have the key behind the conditions of the query, so one lemma decides them
  refine ⟨fun key hkey => ⟨Query.sent_find hattached hkey s, ?_⟩, fun key hkey => ?_, ?_⟩
  · unfold Query.foundBy Query.limit
    rw [Query.wheres_updateTail]
    exact restrictedTo_iff
  · obtain ⟨hsent, hfailed⟩ := Query.sent_deleteByKey hattached hkey s
    exact ⟨hsent, hfailed, restrictedTo_iff⟩
  · intro last size column hlast
    refine ⟨_, Query.pageAfter_eq hlast size column, ?_⟩
    rw [Query.wheres_orderBy_limit]
    exact restrictedTo_iff

/-- The users without a name, or without an address. -/
def incompleteUsers : Query :=
  ((Query.table { attached := true } "users").whereNull .and false (.name "name")).whereNull .or
    false (.name "email")

/-- The users without a name alone. -/
def namelessUsers : Query :=
  (Query.table { attached := true } "users").whereNull .and false (.name "name")

/-- One user without a name is deleted: both conditions have to be met, and the text says so. -/
theorem restrictedTo_key_nameless :
    (∃ sql, (namelessUsers.deleteByKey (.value (.ofInt 7)) {}).2.sent =
      [.update sql [.ofInt 7]]) ∧
    RestrictedTo (namelessUsers.deletedBy (.value (.ofInt 7))).wheres
      (.compare (.name "users.id") "=" (.value (.ofInt 7))) ∧
    conditionsText .mysql (namelessUsers.deletedBy (.value (.ofInt 7))).wheres =
      "\x60name\x60 is null and \x60users\x60.\x60id\x60 = ?" := by
  have hkeyed := (restrictedTo_key_iff namelessUsers rfl {}).2.1 (.value (.ofInt 7)) rfl
  have hconjoined : Conjoined namelessUsers.wheres := fun c hc => absurd hc List.not_mem_nil
  have hrestricted := hkeyed.2.2.mpr hconjoined
  refine ⟨⟨_, hkeyed.1 _ rfl⟩, hrestricted, ?_⟩
  exact (conditionsText_of_restrictedTo .mysql hrestricted).trans (by decide +kernel)

/-- A statement that is to delete one user deletes every user without a name: the second condition
is tied with an `or`, and the key belongs to that alone. -/
theorem unrestricted_deleteByKey :
    (incompleteUsers.deleteByKey (.value (.ofInt 7)) {}).2.sent =
      [.update ("delete from \x60users\x60 where \x60name\x60 is null or " ++
        "\x60email\x60 is null and \x60users\x60.\x60id\x60 = ?") [.ofInt 7]] ∧
    ¬ RestrictedTo (incompleteUsers.deletedBy (.value (.ofInt 7))).wheres
      (.compare (.name "users.id") "=" (.value (.ofInt 7))) := by
  constructor
  · obtain ⟨sql, hsent, hsql⟩ :
        ∃ sql, (incompleteUsers.deleteByKey (.value (.ofInt 7)) {}).2.sent =
            [.update sql [.ofInt 7]] ∧
          sql = "delete from \x60users\x60 where \x60name\x60 is null or " ++
            "\x60email\x60 is null and \x60users\x60.\x60id\x60 = ?" :=
      ⟨_, rfl, by decide +kernel⟩
    rw [hsent, hsql]
  · intro hrestricted
    have hconjoined : Conjoined incompleteUsers.wheres := restrictedTo_iff.mp hrestricted
    -- the second condition is tied with an `or`
    have hor := hconjoined ⟨.or, .isNull false (.name "email")⟩ List.mem_cons_self
    exact Bool.noConfusion hor

end QueryBuilder
