import QueryBuilder.Proofs.DerivedStatements
import QueryBuilder.Proofs.Sessions

/-!
# What reading sends

Alignment is a property of a query, and a read operation sends queries that it derives from the one
it is given: with a window, with a count in the place of the columns, with a condition on a key.
Each of these is aligned if the query is, so what is left is to follow the sessions.

- `Query.Reads q s s'`: a read operation on `q` leads from one session to another by sending matched
  statements, each of them followed by what the loading of the query's own relations sends.
- `Run.Reads`, `Walk.Reads`: an operation does so from whatever session it starts in.
- `Reading`: the read operations that rewrite a query before they send it.
- `Reading.reads_of_aligned`: on an aligned query each of them sends matched statements only.
-/

namespace QueryBuilder

/-- Sessions between which a read operation on `q` sends matched statements. What the relations of
`q` send for themselves stands behind the statement of a fetch and is not judged. -/
inductive Query.Reads (q : Query) : Session → Session → Prop
  | done (s : Session) : Reads q s s
  | fetch {s s' : Session} (p : Query) :
    p.Matched → p.eagerLoads = q.eagerLoads ∨ p.eagerLoads = [] → Reads q (p.fetch s).2 s' →
      Reads q s s'
  | query {s s' : Session} (c : Connection) {sql : String} {vs : List Value} :
    placeholders sql = vs.length → Reads q (c.query sql vs s).2 s' → Reads q s s'

theorem Query.Reads.trans {q : Query} {s s' s'' : Session} (h : q.Reads s s')
    (h' : q.Reads s' s'') : q.Reads s s'' := by
  induction h with
  | done _ => exact h'
  | fetch p hmatched hloads _ ih => exact .fetch p hmatched hloads (ih h')
  | query c hmatched _ ih => exact .query c hmatched (ih h')

/-- A statement with one placeholder for each of its values. -/
def Sent.Matched : Sent → Prop
  | .query sql vs => placeholders sql = vs.length
  | .update sql vs => placeholders sql = vs.length
  | .insertReturning sql vs _ => placeholders sql = vs.length

/-- A read operation on a query without relations sends matched statements and no others. -/
theorem Query.Reads.sent {q : Query} {s s' : Session} (h : q.Reads s s') (hq : q.eagerLoads = []) :
    ∃ new, s'.sent = s.sent ++ new ∧ ∀ statement ∈ new, statement.Matched := by
  -- both ways of sending come down to one select, which a missing executor does not see
  have hquery : ∀ {c : Connection} {sql : String} {vs : List Value} {s s' : Session},
      placeholders sql = vs.length →
      (∃ new, s'.sent = (c.query sql vs s).2.sent ++ new ∧ ∀ statement ∈ new, statement.Matched) →
      ∃ new, s'.sent = s.sent ++ new ∧ ∀ statement ∈ new, statement.Matched := by
    intro c sql vs s s' hmatched hrest
    obtain ⟨new, hsent, hnew⟩ := hrest
    cases hattached : c.attached with
    | false =>
      rw [Connection.query_detached hattached] at hsent
      exact ⟨new, hsent, hnew⟩
    | true =>
      rw [Connection.query_attached hattached] at hsent
      refine ⟨.query sql vs :: new, ?_, List.forall_mem_cons.mpr ⟨hmatched, hnew⟩⟩
      rw [hsent]
      simp [Session.sending]
  -- on the reads: what relations send for themselves is ruled out, as there are none
  induction h with
  | done s => exact ⟨[], by simp, by simp⟩
  | fetch p hmatched hloads _ ih =>
    have hnone : p.eagerLoads = [] := hloads.elim (·.trans hq) id
    rw [fetch_of_no_loads hnone] at ih
    exact hquery hmatched ih
  | query c hmatched _ ih => exact hquery hmatched ih

/-! ## Operations -/

/-- An operation leads from every session to another by reading. -/
def Run.Reads {α : Type} (q : Query) (r : Run α) : Prop :=
  ∀ s, q.Reads s (r s).2

/-- An operation with calls to a callback leads from every session to another by reading. -/
def Walk.Reads {α β : Type} (q : Query) (w : Walk α β) : Prop :=
  ∀ tour, q.Reads tour.session (w tour).2.session

variable {q p : Query} {α β γ : Type}

namespace Run.Reads

theorem pure (a : α) : Run.Reads q (Pure.pure a : Run α) :=
  fun s => .done s

theorem throw (why : Error) : Run.Reads q (MonadExcept.throw why : Run α) :=
  fun s => .done s

theorem bind {x : Run α} {f : α → Run β} (hx : Run.Reads q x) (hf : ∀ a, Run.Reads q (f a)) :
    Run.Reads q (x >>= f) :=
  bind_leads Query.Reads.trans hx hf

/-- A step that sends nothing hands on what it is known to give. -/
theorem ofExcept {e : Except Error α} {f : α → Run β} (hf : ∀ a, e = .ok a → Run.Reads q (f a)) :
    Run.Reads q (Run.ofExcept e >>= f) := by
  cases e with
  | ok a => exact hf a rfl
  | error why => exact fun s => .done s

/-- A matched query may be fetched if it loads the relations of the original, or none. -/
theorem fetch (hmatched : p.Matched) (hloads : p.eagerLoads = q.eagerLoads ∨ p.eagerLoads = []) :
    Run.Reads q p.fetch :=
  fun _ => .fetch p hmatched hloads (.done _)

/-- A query derived from an aligned one may be fetched in its place. -/
theorem fetchDerived (hq : q.Aligned q.dialect) (h : q.Derives p) : Run.Reads q p.fetch :=
  fetch (h.matched hq) h.loads

end Run.Reads

namespace Walk.Reads

theorem pure (a : β) : Walk.Reads q (Pure.pure a : Walk α β) :=
  fun tour => .done tour.session

theorem throw (why : Error) : Walk.Reads q (MonadExcept.throw why : Walk α β) :=
  fun tour => .done tour.session

theorem bind {x : Walk α β} {f : β → Walk α γ} (hx : Walk.Reads q x)
    (hf : ∀ b, Walk.Reads q (f b)) : Walk.Reads q (x >>= f) :=
  bind_leads (R := fun tour tour' : Tour α => q.Reads tour.session tour'.session)
    Query.Reads.trans hx hf

/-- An operation without calls reads inside of a walk as it does outside. -/
theorem ofRun {r : Run β} (h : Run.Reads q r) : Walk.Reads q (r.toWalk : Walk α β) :=
  fun tour => h tour.session

/-- A step that sends nothing hands on what it is known to give. -/
theorem ofExcept {e : Except Error β} {f : β → Walk α γ}
    (hf : ∀ b, e = .ok b → Walk.Reads q (f b)) : Walk.Reads q ((Run.ofExcept e).toWalk >>= f) := by
  cases e with
  | ok b => exact hf b rfl
  | error why => exact fun tour => .done tour.session

/-- A callback sends nothing. -/
theorem call (visitor : Visitor α) (x : α) : Walk.Reads q (visitor.call x) := by
  unfold Visitor.call
  refine bind (fun tour => .done tour.session) fun _ => ?_
  refine bind (fun tour => .done tour.session) fun tour => ?_
  cases visitor tour.calls.length x with
  | ok answer => exact pure answer
  | error why => exact throw why

theorem windowBound : Walk.Reads q (Query.windowBound : Walk α Nat) :=
  fun tour => .done tour.session

/-- Every window by row number is derived from the query. -/
theorem windows (hq : q.Aligned q.dialect) {size : Nat} {visit : Nat → List Record → Walk α Bool}
    (hvisit : ∀ number rows, Walk.Reads q (visit number rows)) (bound number : Nat) :
    Walk.Reads q (q.windows size visit bound number) := by
  -- on the bound of windows, for every number: each window is derived from the query itself
  induction bound generalizing number with
  | zero => exact pure true
  | succ bound ih =>
    unfold Query.windows
    refine bind (ofRun (Run.Reads.fetchDerived hq (Query.derives_page number size))) fun rows => ?_
    split
    · exact pure true
    · refine bind (hvisit number rows) fun goOn => ?_
      split
      · split
        · exact ih (number + 1)
        · exact pure true
      · exact pure false

/-- Every window by cursor is derived from the query, whatever value it goes on from. -/
theorem cursorWindows (hq : q.Aligned q.dialect) {size : Nat} {column : String}
    {visit : Nat → List Record → Walk α Bool}
    (hvisit : ∀ number rows, Walk.Reads q (visit number rows)) (bound number : Nat)
    (last : Option Value) : Walk.Reads q (q.cursorWindows size column visit bound number last) := by
  -- as before, and for every value to go on from: the next window may start anywhere
  induction bound generalizing number last with
  | zero => exact pure true
  | succ bound ih =>
    unfold Query.cursorWindows
    refine ofExcept fun window hwindow => ?_
    have hderives := Query.derives_pageAfter hwindow
    refine bind (ofRun (Run.Reads.fetchDerived hq hderives)) fun rows => ?_
    split
    · exact pure true
    · refine bind (hvisit number rows) fun goOn => ?_
      split
      · split
        · exact throw _
        · split
          · exact ih (number + 1) _
          · exact pure true
      · exact pure false

end Walk.Reads

/-! ## The read operations -/

/-- A read operation that rewrites a query before it sends it. -/
inductive Reading where
  | first
  | find (key : Operand)
  | firstWhere (column operator : String) (o : Operand)
  | sole
  | value (column : String)
  | soleValue (column : String)
  | pluck (column : String)
  | pluckKeyed (column key : String)
  | hasRow
  | compute (function : String) (columns : List String)
  | count (column : String)
  | minimum (column : String)
  | maximum (column : String)
  | sum (column : String)
  | average (column : String)
  | totalCount
  | paginate (number : Nat) (size : Option Nat)
  | chunk (size : Nat) (visitor : Visitor (Nat × List Record))
  | chunkByCursor (size : Nat) (column : Option String) (visitor : Visitor (Nat × List Record))

namespace Reading

/-- The session in which a read operation ends. -/
def finish : Reading → Query → Session → Session
  | first, q, s => (q.first s).2
  | find key, q, s => (q.find key s).2
  | firstWhere column operator o, q, s => (q.firstWhere column operator o s).2
  | sole, q, s => (q.sole s).2
  | value column, q, s => (q.value column s).2
  | soleValue column, q, s => (q.soleValue column s).2
  | pluck column, q, s => (q.pluck column s).2
  | pluckKeyed column key, q, s => (q.pluckKeyed column key s).2
  | hasRow, q, s => (q.hasRow s).2
  | compute function columns, q, s => (q.compute function columns s).2
  | count column, q, s => (q.count column s).2
  | minimum column, q, s => (q.minimum column s).2
  | maximum column, q, s => (q.maximum column s).2
  | sum column, q, s => (q.sum column s).2
  | average column, q, s => (q.average column s).2
  | totalCount, q, s => (q.totalCount s).2
  | paginate number size, q, s => (q.paginate number size s).2
  | chunk size visitor, q, s => (q.chunk size visitor ⟨s, []⟩).2.session
  | chunkByCursor size column visitor, q, s =>
    (q.chunkByCursor size column visitor ⟨s, []⟩).2.session

/-- Raw SQL among the arguments binds nothing: a raw operand, and the name of a function. Text with
neither question marks nor quotation marks is of this kind (`carries_of_inert`). -/
def Unbound : Reading → Prop
  | find key => Rules.matched.AllowsOperand key
  | firstWhere _ _ o => Rules.matched.AllowsOperand o
  | compute function _ => Carries function 0
  | _ => True

end Reading

namespace Run.Reads

/-- The first row is asked for by the query with a limit. -/
theorem first (hq : q.Aligned q.dialect) (h : q.Derives p) : Run.Reads q p.first :=
  bind (fetchDerived hq (h.trans (Query.derives_limit 1))) fun rows => pure rows.head?

/-- A sole row is asked for by a limit of two, so that a second one is noticed. -/
theorem sole (hq : q.Aligned q.dialect) (h : q.Derives p) : Run.Reads q p.sole := by
  refine bind (fetchDerived hq (h.trans (Query.derives_limit 2))) fun rows => ?_
  match rows with
  | [] => exact throw _
  | [row] => exact pure row
  | _ :: _ :: _ => exact throw _

/-- The condition is checked first; if it passes, its query is derived from the original. -/
theorem firstWhere (hq : q.Aligned q.dialect) {column operator : String} {o : Operand}
    (ho : Rules.matched.AllowsOperand o) : Run.Reads q (q.firstWhere column operator o) :=
  ofExcept fun _ h => first hq (Query.derives_whereIs ho h)

/-- Whether there is a row is asked by a statement around the query, with the values of the
query. -/
theorem hasRow (hq : q.Aligned q.dialect) : Run.Reads q q.hasRow := by
  refine bind (fun s => .query _ (Query.carries_existsSql hq).count (.done _)) fun rows => ?_
  match rows with
  | [] => exact throw _
  | row :: _ => exact pure _

/-- An aggregate is one statement: of the query itself, or around it as a derived table. -/
theorem compute (hq : q.Aligned q.dialect) {function : String} (columns : List String)
    (hfunction : Carries function 0) : Run.Reads q (q.compute function columns) := by
  have hmatched := Query.matched_aggregateQuery columns hq hfunction
  have hloads := Query.eagerLoads_aggregateQuery q function columns
  exact bind (fetch hmatched (.inr hloads)) fun rows => pure _

/-- The rows are counted by one statement that is matched as the query is. -/
theorem totalCount (hq : q.Aligned q.dialect) : Run.Reads q q.totalCount := by
  refine ofExcept fun counted hcounted => ?_
  have hmatched := Query.matched_countQuery hq hcounted
  exact bind (fetch hmatched (.inr (Query.eagerLoads_countQuery hcounted))) fun rows => pure _

/-- The rows are counted, and a page is fetched only if there are any. -/
theorem paginate (hq : q.Aligned q.dialect) (number : Nat) (size : Option Nat) :
    Run.Reads q (q.paginate number size) := by
  refine bind (totalCount hq) fun total => ?_
  split
  · exact bind (fetchDerived hq (Query.derives_page _ _)) fun rows => pure _
  · exact pure _

end Run.Reads

/-- Whatever read operation on an aligned query, and whatever the executor and the callbacks answer:
each statement that it sends has one placeholder for each of its values. Only what relations send
for themselves stands apart; without relations these are all statements. -/
theorem Reading.reads_of_aligned (hq : q.Aligned q.dialect) (operation : Reading)
    (hoperation : operation.Unbound) (s : Session) :
    q.Reads s (operation.finish q s) ∧
      (q.eagerLoads = [] → ∃ new, (operation.finish q s).sent = s.sent ++ new ∧
        ∀ statement ∈ new, statement.Matched) := by
  have hfunction : ∀ function ∈ ["count", "min", "max", "sum", "avg"], Carries function 0 := by
    decide
  have hreads : q.Reads s (operation.finish q s) := by
    -- each operation is a derived query that is fetched, and a function of the rows behind it
    cases operation with
    | first => exact Run.Reads.first hq (.refl q) s
    | find key => exact Run.Reads.firstWhere hq hoperation s
    | firstWhere column operator o => exact Run.Reads.firstWhere hq hoperation s
    | sole => exact Run.Reads.sole hq (.refl q) s
    | value column =>
      have hfirst := Run.Reads.first hq (Query.derives_select [column])
      exact (hfirst.bind fun row => .pure _) s
    | soleValue column =>
      have hsole := Run.Reads.sole hq (Query.derives_select [column])
      exact (hsole.bind fun row => .pure _) s
    | pluck column =>
      have hfetch := Run.Reads.fetchDerived hq (Query.derives_selectIfNone [column])
      exact (hfetch.bind fun rows => .pure _) s
    | pluckKeyed column key =>
      have hfetch := Run.Reads.fetchDerived hq (Query.derives_selectIfNone [column, key])
      exact (hfetch.bind fun rows => .pure _) s
    | hasRow => exact Run.Reads.hasRow hq s
    | compute function columns => exact Run.Reads.compute hq columns hoperation s
    | count column =>
      have hcompute := Run.Reads.compute hq [column] (hfunction "count" (by simp))
      exact (hcompute.bind fun v => .pure _) s
    | minimum column => exact Run.Reads.compute hq [column] (hfunction "min" (by simp)) s
    | maximum column => exact Run.Reads.compute hq [column] (hfunction "max" (by simp)) s
    | sum column =>
      have hcompute := Run.Reads.compute hq [column] (hfunction "sum" (by simp))
      exact (hcompute.bind fun v => .pure _) s
    | average column => exact Run.Reads.compute hq [column] (hfunction "avg" (by simp)) s
    | totalCount => exact Run.Reads.totalCount hq s
    | paginate number size => exact Run.Reads.paginate hq number size s
    | chunk size visitor =>
      have hcall := fun number rows => Walk.Reads.call (q := q) visitor (number, rows)
      have hwalk : Walk.Reads q (q.chunk size visitor) := by
        unfold Query.chunk Query.walk
        split
        · exact .throw _
        · exact Walk.Reads.windowBound.bind fun bound => Walk.Reads.windows hq hcall bound 1
      exact hwalk ⟨s, []⟩
    | chunkByCursor size column visitor =>
      have hcall := fun number rows => Walk.Reads.call (q := q) visitor (number, rows)
      have hwalk : Walk.Reads q (q.chunkByCursor size column visitor) :=
        Walk.Reads.windowBound.bind fun bound => Walk.Reads.cursorWindows hq hcall bound 1 none
      exact hwalk ⟨s, []⟩
  exact ⟨hreads, fun hnone => hreads.sent hnone⟩

/-- A query with a value among its columns, its groups and its orderings. -/
def groupedQuery : Query :=
  (((Query.table { attached := true } "t").selectRaw "x + ?" [.text "a"]).groupByRaw "y / ?"
    [.text "b"]).orderByRaw "z * ?" [.text "c"]

theorem aligned_groupedQuery : groupedQuery.Aligned groupedQuery.dialect := by
  refine ⟨rfl, ?_, ?_⟩
  · intro c
    cases c <;> decide
  · intro c
    cases c <;> rfl

/-- The groups are counted over a derived table, without the ordering and its value. -/
theorem reads_of_aligned_grouped :
    ∃ new, (Reading.totalCount.finish groupedQuery {}).sent = new ∧ new.length = 1 ∧
      ∀ statement ∈ new, statement.Matched := by
  have hreads := Reading.reads_of_aligned aligned_groupedQuery .totalCount trivial {}
  obtain ⟨new, hsent, hnew⟩ := hreads.2 rfl
  have hlength : (Reading.totalCount.finish groupedQuery {}).sent.length = 1 := rfl
  rw [hsent] at hlength
  exact ⟨new, hsent, hlength, hnew⟩

/-- Any user, of whom nothing is asked. -/
def anyUser : Query :=
  Query.table { attached := true } "users"

theorem aligned_anyUser : anyUser.Aligned .mysql := by
  refine ⟨rfl, ?_, ?_⟩
  · intro c
    cases c <;> decide
  · intro c
    cases c <;> rfl

/-- A query that opens a quotation among its columns and has a value among its conditions. -/
def openQuery : Query :=
  (anyUser.selectRaw "\"" []).whereRaw .and "x = ?" [.ofInt 1]

/-- What alignment asks for besides equal numbers is needed. A raw operand is written as it is and
binds nothing, whatever it asks for: the key that a row is sought by has to be unbound. And a
quotation that is left open reaches into the clauses behind it: of a query whose clauses have, each
for itself, as many placeholders as values, the statement has no placeholder for its value. -/
theorem unmatched_find_raw_and_open_quote :
    (anyUser.Aligned .mysql ∧
      ((Reading.find (.raw "?")).finish anyUser {}).sent =
        [.query "select * from \x60users\x60 where \x60id\x60 = ? limit 1" []] ∧
      ¬ Sent.Matched (.query "select * from \x60users\x60 where \x60id\x60 = ? limit 1" [])) ∧
    openQuery.aggregate = none ∧
      (∀ c, placeholders (openQuery.clauseText .mysql c) = openQuery.bindings.count c) ∧
      (Reading.first.finish openQuery {}).sent =
        [.query "select \" from \x60users\x60 where x = ? limit 1" [.ofInt 1]] ∧
      ¬ Sent.Matched
        (.query "select \" from \x60users\x60 where x = ? limit 1" [.ofInt 1]) := by
  refine ⟨⟨aligned_anyUser, rfl, ?_⟩, rfl, ?_, rfl, ?_⟩
  · show ¬ placeholders _ = 0
    decide
  · intro c
    cases c <;> rfl
  · -- the scan is still inside of the quotation where the question mark stands
    show ¬ placeholders _ = 1
    decide

end QueryBuilder
