import QueryBuilder.Query.Store
import QueryBuilder.Proofs.BuiltAlignment
import QueryBuilder.Proofs.Connections
import QueryBuilder.Proofs.Sessions
import QueryBuilder.Proofs.WriteText

/-!
# The parameters of a delete

The text of a delete has the joins and the conditions of its query. Its values are those of all
clauses but the columns, so they follow the text as far as it goes, and behind them stand what
groups, orderings and unions bind, for which the text has no place.

- `Query.shows_deleteRest`: what the text shows behind its first word.
- `Query.deleteValues_eq`: what the values are.
- `delete_matched_iff`: a delete has one placeholder for each value exactly if nothing is bound
  behind the conditions. `unmatched_delete_ordered` is a delete with an ordering.
-/

namespace QueryBuilder

namespace Query

variable {q : Query} {table : String}

/-- What a delete has behind its word. -/
def deleteRest (q : Query) (table : String) : String :=
  if q.joins = [] then "from " ++ table ++ " " ++ q.whereText
  else if q.dialect = .sqlite then "from " ++ table ++ " " ++ q.byRowIdText table
  else
    writtenAlias table ++ " from " ++ table ++ " " ++ joinsText q.dialect q.joins ++
      " " ++ q.whereText

/-- A delete is its word and what stands behind it, trimmed. -/
theorem deleteText_eq (hsource : q.source = some (.table table)) :
    q.deleteText = .ok (Text.trim ("delete " ++ q.deleteRest (q.dialect.quoteName table))) := by
  unfold deleteText deleteRest
  rw [target_ok hsource]
  simp only [List.isEmpty_iff]
  show Except.ok _ = _
  congr 2
  -- the first word is cut off in front of a blank, so the characters are compared
  refine String.toList_inj.mp ?_
  by_cases hjoins : q.joins = []
  · rw [if_pos hjoins, if_pos hjoins]
    simp
  · rw [if_neg hjoins, if_neg hjoins]
    cases q.dialect <;> simp

/-- A delete has joins and conditions. With joins the alias of the table is written too, so it has
to close its quotes. -/
theorem shows_deleteRest (h : q.Aligned q.dialect) (htable : Carries table 0)
    (halias : q.joins = [] ∨ Carries (writtenAlias table) 0) :
    Shows (q.deleteRest table) [q.clausePart .joins, q.clausePart .wheres] := by
  have hfrom : Carries ("from " ++ table) 0 := Carries.append (by decide : Carries "from " 0) htable
  unfold deleteRest
  by_cases hjoins : q.joins = []
  · obtain ⟨hempty, hnone⟩ := clausePart_joins_of_none h hjoins
    have hshows := Shows.cons_empty hempty hnone ((shows_wheres h).after hfrom)
    rw [if_pos hjoins]
    rwa [← String.append_assoc] at hshows
  · have hcarries := halias.resolve_left hjoins
    rw [if_neg hjoins]
    split
    · exact (shows_byRowIdText h htable hcarries).after (hfrom.append carries_space)
    · have hword : Carries " from " 0 := by decide
      exact shows_joins_wheres h (((hcarries.append hword).append htable).append carries_space)

/-- The text of a delete shows its parts. -/
theorem shows_deleteText (h : q.Aligned q.dialect) (hsource : q.source = some (.table table))
    (halias : q.joins = [] ∨ Carries (writtenAlias (q.dialect.quoteName table)) 0) :
    ∃ sql, q.deleteText = .ok sql ∧ Shows sql [q.clausePart .joins, q.clausePart .wheres] := by
  have hword : Carries "delete " 0 := by decide
  have hshows := (shows_deleteRest h (carries_quoteName q.dialect table) halias).after hword
  exact ⟨_, deleteText_eq hsource, hshows.trim (c := 'd') rfl (by decide)⟩

/-- A delete binds what its parts bind, and behind that what is filed for clauses it has not. -/
theorem deleteValues_eq (hnone : q.bindings.count .source = 0) :
    q.deleteValues =
      [q.clausePart .joins, q.clausePart .wheres].flatMap Statement.values ++ q.behindValues := by
  unfold deleteValues
  rw [flattenExcept_columns hnone, ← List.append_assoc]
  simp

/-- A delete with an executor sends its text with its values. -/
theorem sent_delete (hattached : q.connection.attached = true) {sql : String}
    (htext : q.deleteText = .ok sql) (s : Session) :
    (q.delete s).2.sent = s.sent ++ [.update sql q.deleteValues] := by
  have hmade : (Run.ofExcept q.deleteText) s = (.ok sql, s) := by
    rw [htext]
    rfl
  unfold delete
  rw [bind_apply_ok hmade, Connection.update_attached hattached]
  rfl

end Query

/-- A delete of whatever a program builds on a table, with an executor. One statement is sent. Its
text shows the joins and the conditions, and nothing else that a value could belong to; its values
are theirs, in the same order, and behind them all that is bound by groups, conditions on groups,
orderings and unions. So there is one placeholder for each value exactly if these bind nothing. -/
theorem delete_matched_iff {c : Connection} {steps : List Step} {q : Query}
    (hallows : Rules.matched.AllowsSteps steps (.on c)) (hrun : runSteps steps (.on c) = .ok q)
    (hattached : c.attached = true) {table : String} (hsource : q.source = some (.table table))
    (halias : q.joins = [] ∨ Carries (Query.writtenAlias (q.dialect.quoteName table)) 0)
    (s : Session) :
    ∃ sql, (q.delete s).2.sent = s.sent ++ [.update sql q.deleteValues] ∧
      Shows sql [q.clausePart .joins, q.clausePart .wheres] ∧
      q.deleteValues =
        [q.clausePart .joins, q.clausePart .wheres].flatMap Statement.values ++ q.behindValues ∧
      (placeholders sql = q.deleteValues.length ↔
        ∀ e ∈ Clause.behindWheres, q.bindings.count e = 0) := by
  have haligned := (keepsAligned_of_runSteps hallows hrun).aligned q.dialect
  have hconnection : q.connection = c := connection_of_runSteps hrun
  have hvalues := Query.deleteValues_eq (Query.count_source haligned hsource)
  obtain ⟨sql, htext, hshows⟩ := Query.shows_deleteText haligned hsource halias
  refine ⟨sql, Query.sent_delete ?_ htext s, hshows, hvalues, ?_⟩
  · rw [hconnection]
    exact hattached
  · -- the placeholders are those of two parts; what is bound behind these has none
    rw [hvalues, hshows.carries.count, List.length_append, ← Query.behindValues_eq_nil_iff,
      ← List.length_eq_zero_iff]
    omega

/-- Users beyond an age. -/
def adultsProgram : List Step :=
  [.source (.table "users"), .whereRaw .and "age > ?" [.ofInt 17]]

/-- The same in an order that binds a value. -/
def orderedAdultsProgram : List Step :=
  [.source (.table "users"), .whereRaw .and "age > ?" [.ofInt 17],
    .orderByRaw "field(id, ?)" [.ofInt 1]]

theorem allowsSteps_adultsProgram :
    Rules.matched.AllowsSteps adultsProgram (.on { attached := true }) := by
  have hage : Carries "age > ?" 1 := by decide
  exact Rules.allowsSteps_cons ⟨trivial, .inr rfl⟩ rfl (Rules.allowsSteps_cons hage rfl trivial)

/-- Without values behind the conditions text and values agree. -/
theorem delete_matched_iff_adults :
    ∃ q, runSteps adultsProgram (.on { attached := true }) = .ok q ∧ q.deleteValues = [.ofInt 17] ∧
      ∃ sql, (q.delete {}).2.sent = [.update sql q.deleteValues] ∧ placeholders sql = 1 := by
  obtain ⟨q, hq, hsource, hjoins, hbehind, hvalues⟩ :
      ∃ q, runSteps adultsProgram (.on { attached := true }) = .ok q ∧
        q.source = some (.table "users") ∧ q.joins = [] ∧
        (∀ e ∈ Clause.behindWheres, q.bindings.count e = 0) ∧ q.deleteValues = [.ofInt 17] :=
    ⟨_, rfl, rfl, rfl, by decide, rfl⟩
  obtain ⟨sql, hsent, _, _, hmatched⟩ :=
    delete_matched_iff allowsSteps_adultsProgram hq rfl hsource (.inl hjoins) {}
  refine ⟨q, hq, hvalues, sql, hsent, ?_⟩
  rw [hmatched.mpr hbehind, hvalues]
  rfl

/-- A delete that sends two values for one placeholder. -/
theorem unmatched_delete_ordered :
    Rules.matched.AllowsSteps orderedAdultsProgram (.on { attached := true }) ∧
      ∃ q, runSteps orderedAdultsProgram (.on { attached := true }) = .ok q ∧
        (q.delete {}).2.sent =
          [.update "delete from \x60users\x60 where age > ?" [.ofInt 17, .ofInt 1]] ∧
        placeholders "delete from \x60users\x60 where age > ?" = 1 := by
  have hage : Carries "age > ?" 1 := by decide
  have hfield : Carries "field(id, ?)" 1 := by decide
  refine ⟨?_, _, rfl, ?_, by decide⟩
  · refine Rules.allowsSteps_cons ⟨trivial, .inr rfl⟩ rfl ?_
    exact Rules.allowsSteps_cons hage rfl (Rules.allowsSteps_cons hfield rfl trivial)
  · rfl

end QueryBuilder
