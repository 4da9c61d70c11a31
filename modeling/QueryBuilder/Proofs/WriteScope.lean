import QueryBuilder.Proofs.Deletes

/-!
# What a write reads of a query

An update or a delete is made of the table, the joins and the conditions of a query. Columns,
groups, conditions on groups, orderings, windows and unions have no part in it, so a write reaches
rows that a select of the same query would leave out.

- `WriteScope`: the parts that a write reads. Queries of one scope are written alike
  (`delete_eq_of_scope`, `update_eq_of_scope`).
- `Query.scope_without`: leaving out other parts does not change the scope.
- `write_ignores_limit`: a write does what it does without the limit.
-/

namespace QueryBuilder

/-- What a write reads of a query. -/
structure WriteScope where
  connection : Connection
  source : Option Source
  joins : List Join
  wheres : List Condition
  bindings : Bindings

/-- A part that a write reads. -/
def Part.isWritten : Part → Bool
  | .source => true
  | .joins => true
  | .wheres => true
  | _ => false

namespace Query

/-- What a write reads of the query. -/
def scope (q : Query) : WriteScope :=
  ⟨q.connection, q.source, q.joins, q.wheres, q.bindings⟩

/-- The query that holds nothing but what a write reads. -/
def ofScope (w : WriteScope) : Query :=
  { on w.connection with
    source := w.source, joins := w.joins, wheres := w.wheres, bindings := w.bindings }

variable {q q' : Query}

/-- Queries of one scope are deleted alike, in every session. -/
theorem delete_eq_of_scope (h : q.scope = q'.scope) : q.delete = q'.delete := by
  -- no field outside of the scope occurs in a delete, so this holds by evaluation
  have hscope : ∀ p : Query, p.delete = (ofScope p.scope).delete := fun _ => rfl
  rw [hscope q, hscope q', h]

theorem update_eq_of_scope (h : q.scope = q'.scope) (row : Assignments) :
    q.update row = q'.update row := by
  have hscope : ∀ p : Query, p.update row = (ofScope p.scope).update row := fun _ => rfl
  rw [hscope q, hscope q', h]

theorem scope_drop {part : Part} (h : part.isWritten = false) : (q.drop part).scope = q.scope := by
  cases part <;> first | rfl | exact absurd h (by decide)

/-- Parts that a write does not read may be left out. -/
theorem scope_without {parts : List Part} (h : ∀ part ∈ parts, part.isWritten = false) :
    (q.without parts).scope = q.scope := by
  unfold without
  -- each part is dropped from a query that others have been dropped from
  induction parts generalizing q with
  | nil => rfl
  | cons part parts ih =>
    rw [List.forall_mem_cons] at h
    exact (ih h.2).trans (scope_drop h.1)

/-! ## What is sent -/

/-- With a source a delete has a text: naming the table is all that can fail. -/
theorem deleteText_ok {source : Source} (hsource : q.source = some source) :
    ∃ sql, q.deleteText = .ok sql := by
  unfold deleteText target
  rw [hsource]
  exact ⟨_, rfl⟩

/-- With a source an update has a text, whatever it assigns. -/
theorem updateText_ok {source : Source} (hsource : q.source = some source) (row : Assignments) :
    ∃ sql, q.updateText row = .ok sql := by
  unfold updateText target
  rw [hsource]
  exact ⟨_, rfl⟩

/-- An update with an executor sends its text with its values, whatever the executor answers. -/
theorem sent_update (hattached : q.connection.attached = true) {row : Assignments} {sql : String}
    (htext : q.updateText row = .ok sql) (s : Session) :
    (q.update row s).2.sent = s.sent ++ [.update sql (q.updateValues row)] := by
  have hmade : (Run.ofExcept (q.updateText row)) s = (.ok sql, s) := by
    rw [htext]
    rfl
  unfold update
  rw [bind_apply_ok hmade, Connection.update_attached hattached]
  rfl

end Query

/-- A delete or an update does what it does without the limit, whatever else the query holds and
whether it ends well or not. With a table and an executor one statement is sent, and it is the
statement that is sent without the limit. -/
theorem write_ignores_limit (q : Query) (row : Assignments) (s : Session) :
    (q.delete s = (q.without [.limit]).delete s ∧
      q.update row s = (q.without [.limit]).update row s) ∧
      ∀ source, q.source = some source → q.connection.attached = true →
        (∃ sql, (q.delete s).2.sent = s.sent ++ [.update sql q.deleteValues] ∧
          ((q.without [.limit]).delete s).2.sent = s.sent ++ [.update sql q.deleteValues]) ∧
        ∃ sql, (q.update row s).2.sent = s.sent ++ [.update sql (q.updateValues row)] ∧
          ((q.without [.limit]).update row s).2.sent =
            s.sent ++ [.update sql (q.updateValues row)] := by
  have hscope : (q.without [.limit]).scope = q.scope := Query.scope_without (by decide)
  have hdelete := Query.delete_eq_of_scope hscope
  have hupdate := Query.update_eq_of_scope hscope row
  refine ⟨⟨by rw [hdelete], by rw [hupdate]⟩, ?_⟩
  intro source hsource hattached
  -- what is left to show speaks of the unlimited writes no more
  rw [hdelete, hupdate]
  obtain ⟨deletion, hdeletion⟩ := Query.deleteText_ok hsource
  obtain ⟨change, hchange⟩ := Query.updateText_ok hsource row
  have hdeleted := Query.sent_delete hattached hdeletion s
  have hupdated := Query.sent_update hattached hchange s
  exact ⟨⟨deletion, hdeleted, hdeleted⟩, change, hupdated, hupdated⟩

/-- The two oldest users beyond an age. -/
def oldestAdults : Query :=
  (((Query.table { attached := true } "users").whereRaw .and "age > ?" [.ofInt 17]).orderBy
    (.name "age") .descending).limit 2

/-- A name for all of them. -/
def named : Assignments :=
  .ofList [("name", .value (.text "n"))]

/-- A limited query is deleted as one without a limit. -/
theorem write_ignores_limit_oldest :
    oldestAdults.tail.limit = some 2 ∧
      ∃ sql, (oldestAdults.delete {}).2.sent = [.update sql [.ofInt 17]] ∧
        ((oldestAdults.without [.limit]).delete {}).2.sent = [.update sql [.ofInt 17]] := by
  obtain ⟨sql, hlimited, hunlimited⟩ :=
    ((write_ignores_limit oldestAdults named {}).2 (.table "users") rfl rfl).1
  exact ⟨rfl, sql, hlimited, hunlimited⟩

/-- A limited query whose delete and update reach every user beyond the age. -/
theorem unlimited_writes_oldest :
    oldestAdults.isUnion = false ∧ oldestAdults.tail.limit = some 2 ∧
      (oldestAdults.delete {}).2.sent =
        [.update "delete from \x60users\x60 where age > ?" [.ofInt 17]] ∧
      ((oldestAdults.without [.limit]).delete {}).2.sent =
        [.update "delete from \x60users\x60 where age > ?" [.ofInt 17]] ∧
      (oldestAdults.update named {}).2.sent =
        [.update "update \x60users\x60 set \x60name\x60 = ? where age > ?" [.text "n", .ofInt 17]] ∧
      ((oldestAdults.without [.limit]).update named {}).2.sent =
        [.update "update \x60users\x60 set \x60name\x60 = ? where age > ?"
          [.text "n", .ofInt 17]] :=
  ⟨rfl, rfl, rfl, rfl, rfl, rfl⟩

end QueryBuilder
