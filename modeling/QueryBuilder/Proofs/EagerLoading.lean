import QueryBuilder.Proofs.Batches
import QueryBuilder.Proofs.Registrations

/-!
# Loading the relations of a result

A query is asked for first, then its relations, one after another in the order of their
registrations. How many statements that takes is told by the relations and not by the rows. Each
relation sees the rows as the ones before it have left them, and a statement that fails is the last.

- `Session.Sends`: statements that are answered in turn, none behind one that fails.
- `Loads`: the trace of the relations: for each of them the keys, the statements and the rows that
  it leaves.
- `Loads.sends`, `Loads.length_le`: what a trace sends, and how much at most.
- `loads_foldlM`: the trace of every run.
- `relations_load_in_batches`: registrations, and what a fetch after them sends.
-/

namespace QueryBuilder

/-- The statement of a query. -/
def Query.statement (q : Query) : Sent :=
  .query q.sql q.values

/-! ## Statements in turn -/

/-- Statements were sent and answered in turn. If one failed, then it was the last, and its failure
is the result. -/
structure Session.Sends {α : Type} (s : Session) (statements : List Sent) (result : Except Error α)
    (s' : Session) : Prop where
  sent : s'.sent = s.sent ++ statements
  answers : s'.rows = s.rows.drop statements.length
  stops : ∀ i why, i < statements.length → s.rows[i]? = some (.error why) →
    i + 1 = statements.length ∧ result = .error (.execution why)

namespace Session.Sends

variable {α β : Type} {s s' s'' : Session} {statements more : List Sent}

/-- Where nothing is sent, nothing can fail. -/
theorem nothing (s : Session) (result : Except Error α) : s.Sends [] result s where
  sent := (List.append_nil s.sent).symm
  answers := rfl
  stops i _ hi := absurd hi (Nat.not_lt_zero i)

/-- A single statement, whose failure is the result. -/
theorem one (q : Query) {result : Except Error α}
    (hresult : ∀ why, s.answer = .error why → result = .error why) :
    s.Sends [q.statement] result (s.sending q.sql q.values) where
  sent := rfl
  answers := List.drop_one.symm
  stops i why hi hfailed := by
    obtain rfl : i = 0 := Nat.lt_one_iff.mp hi
    -- the reply that failed is the one that the statement was answered with
    have hanswer : s.answer = .error (.execution why) := by
      unfold Session.answer
      cases hrows : s.rows with
      | nil =>
        rw [hrows] at hfailed
        cases hfailed
      | cons reply replies =>
        rw [hrows] at hfailed
        cases hfailed
        rfl
    exact ⟨rfl, hresult _ hanswer⟩

/-- What is sent behind statements that were all answered. -/
theorem trans {a : α} {result : Except Error β} (h : s.Sends statements (.ok a) s')
    (h' : s'.Sends more result s'') : s.Sends (statements ++ more) result s'' where
  sent := by rw [h'.sent, h.sent, List.append_assoc]
  answers := by rw [h'.answers, h.answers, List.drop_drop, List.length_append]
  stops i why hi hfailed := by
    rw [List.length_append] at hi ⊢
    by_cases hfirst : i < statements.length
    · -- an answer that was used up is none that failed
      exact absurd (h.stops i why hfirst hfailed).2 (by simp)
    · have hrest : s'.rows[i - statements.length]? = some (.error why) := by
        rw [h.answers, List.getElem?_drop, Nat.add_sub_cancel' (Nat.le_of_not_lt hfirst)]
        exact hfailed
      obtain ⟨hlast, hresult⟩ := h'.stops (i - statements.length) why (by omega) hrest
      exact ⟨by omega, hresult⟩

/-- The same statements for another result that fails alike. -/
theorem map {a : Except Error α} (h : s.Sends statements a s') (f : α → β) :
    s.Sends statements (a.map f) s' where
  sent := h.sent
  answers := h.answers
  stops i why hi hfailed := by
    obtain ⟨hlast, hresult⟩ := h.stops i why hi hfailed
    exact ⟨hlast, by rw [hresult]; rfl⟩

/-- Selects that are asked for in turn: all of them, or those up to one that fails. -/
theorem ask (s : Session) (qs : List Query) :
    ∃ statements, s.Sends statements (s.ask qs).1 (s.ask qs).2 ∧
    statements <+: qs.map Query.statement ∧
    ∀ answers, (s.ask qs).1 = .ok answers → statements = qs.map Query.statement := by
  -- on the selects; behind a failure none is asked for
  induction qs generalizing s with
  | nil => exact ⟨[], nothing s _, List.nil_prefix, fun _ _ => rfl⟩
  | cons q qs ih =>
    unfold Session.ask
    cases hanswer : s.answer with
    | error why =>
      refine ⟨[q.statement], one q fun _ hfailed => ?_, ?_, fun _ hok => by cases hok⟩
      · exact congrArg Except.error (Except.error.inj (hanswer.symm.trans hfailed))
      · exact List.cons_prefix_cons.mpr ⟨rfl, List.nil_prefix⟩
    | ok rows =>
      obtain ⟨statements, hsends, hprefix, hall⟩ := ih (s.sending q.sql q.values)
      have hfirst : s.Sends [q.statement] (.ok rows) (s.sending q.sql q.values) :=
        one q fun _ hfailed => by cases hanswer.symm.trans hfailed
      refine ⟨q.statement :: statements, hfirst.trans (hsends.map _), ?_, fun answers hok => ?_⟩
      · exact List.cons_prefix_cons.mpr ⟨rfl, hprefix⟩
      · have hmap : ((s.sending q.sql q.values).ask qs).1.map (fun more => rows :: more) =
            .ok answers := hok
        cases hrest : ((s.sending q.sql q.values).ask qs).1 with
        | error why =>
          rw [hrest] at hmap
          cases hmap
        | ok more => rw [hall more hrest, List.map_cons]

end Session.Sends

/-! ## The trace of the relations -/

/-- Relations are loaded onto rows one after another, each onto the rows that the ones before it
have left: what is sent for that, and how it ends. -/
inductive Loads (c : Connection) : Session → List (String × Relation) → List Record → List Sent →
    Except Error (List Record) → Session → Prop
  | done {s : Session} {rows : List Record} : Loads c s [] rows [] (.ok rows) s
  /-- No row has a key: nothing is sent. -/
  | keyless {s s' : Session} {name : String} {r : Relation} {rest : List (String × Relation)}
      {rows : List Record} {sent : List Sent} {result : Except Error (List Record)}
      (hkeys : ∀ row ∈ rows, rowKey? r.link.parentKey row = none)
      (hrest : Loads c s rest (rows.map fun row => row.set name r.link.nothing) sent result s') :
      Loads c s ((name, r) :: rest) rows sent result s'
  /-- The queries of the relation cannot be built: nothing is sent. -/
  | unbuilt {s : Session} {name : String} {r : Relation} {rest : List (String × Relation)}
      {rows : List Record} {keys : List Value} {why : Error}
      (hkeys : FirstKeys r.link.parentKey rows keys) (hsome : keys ≠ [])
      (hbatches : r.batches c = .error why) : Loads c s ((name, r) :: rest) rows [] (.error why) s
  /-- A statement fails: it is the last. -/
  | failed {s s' : Session} {name : String} {r : Relation} {rest : List (String × Relation)}
      {rows : List Record} {keys : List Value} {batches : List (Query × String)} {sent : List Sent}
      {why : Error} (hkeys : FirstKeys r.link.parentKey rows keys) (hsome : keys ≠ [])
      (hbatches : r.batches c = .ok batches)
      (hasked : s.ask (keyedBatches batches keys) = (.error why, s'))
      (hsent : s'.sent = s.sent ++ sent)
      (hfirst : sent <+: (keyedBatches batches keys).map Query.statement) :
      Loads c s ((name, r) :: rest) rows sent (.error why) s'
  /-- All statements are answered, and the answers are handed out. -/
  | loaded {s s' s'' : Session} {name : String} {r : Relation} {rest : List (String × Relation)}
      {rows : List Record} {keys : List Value} {batches : List (Query × String)} {sent : List Sent}
      {answers : List (List Record)} {result : Except Error (List Record)}
      (hkeys : FirstKeys r.link.parentKey rows keys) (hsome : keys ≠ [])
      (hbatches : r.batches c = .ok batches)
      (hasked : s.ask (keyedBatches batches keys) = (.ok answers, s'))
      (hrest : Loads c s' rest (r.handOut c name rows answers) sent result s'') :
      Loads c s ((name, r) :: rest) rows
        ((keyedBatches batches keys).map Query.statement ++ sent) result s''

/-- How many statements some relations take at most. -/
def statementsFor (loads : List (String × Relation)) : Nat :=
  (loads.map fun load => load.2.link.statements).sum

namespace Loads

variable {c : Connection} {s s' : Session} {loads : List (String × Relation)} {rows : List Record}
  {sent : List Sent} {result : Except Error (List Record)}

/-- A trace sends its statements in turn, none behind one that fails. -/
theorem sends (h : Loads c s loads rows sent result s') : s.Sends sent result s' := by
  -- along the trace: what is sent for a relation, and behind it what is sent for the rest
  induction h with
  | done => exact .nothing _ _
  | keyless hkeys hrest ih => exact ih
  | unbuilt hkeys hsome hbatches => exact .nothing _ _
  | @failed s s' name r rest rows keys batches sent why hkeys hsome hbatches hasked hsent hfirst =>
    obtain ⟨statements, hsends, -, -⟩ := Session.Sends.ask s (keyedBatches batches keys)
    rw [hasked] at hsends
    obtain rfl := List.append_cancel_left (hsent.symm.trans hsends.sent)
    exact hsends.map fun _ => rows
  | @loaded s s' s'' name r rest rows keys batches sent answers result hkeys hsome hbatches
    hasked hrest ih =>
    obtain ⟨statements, hsends, -, hall⟩ := Session.Sends.ask s (keyedBatches batches keys)
    rw [hasked] at hsends hall
    rw [← hall answers rfl]
    exact hsends.trans ih

/-- How much is sent does not depend on the rows. -/
theorem length_le (h : Loads c s loads rows sent result s') :
    sent.length ≤ statementsFor loads := by
  -- the queries of a relation are as many as its link says, restricted or not
  have hone : ∀ {r : Relation} {batches : List (Query × String)} (keys : List Value),
      r.batches c = .ok batches →
        ((keyedBatches batches keys).map Query.statement).length = r.link.statements := by
    intro r batches keys hbatches
    rw [List.length_map, keyedBatches, List.length_map, Relation.length_batches hbatches]
  unfold statementsFor
  induction h with
  | done => exact Nat.zero_le _
  | keyless hkeys hrest ih =>
    rw [List.map_cons, List.sum_cons]
    exact Nat.le_add_left_of_le ih
  | unbuilt hkeys hsome hbatches => exact Nat.zero_le _
  | failed hkeys hsome hbatches hasked hsent hfirst =>
    rw [List.map_cons, List.sum_cons]
    exact Nat.le_add_right_of_le (hone _ hbatches ▸ hfirst.length_le)
  | loaded hkeys hsome hbatches hasked hrest ih =>
    rw [List.map_cons, List.sum_cons, List.length_append, hone _ hbatches]
    exact Nat.add_le_add_left ih _

end Loads

/-- A relation takes two statements at most. -/
theorem statementsFor_le (loads : List (String × Relation)) :
    statementsFor loads ≤ 2 * loads.length := by
  unfold statementsFor
  induction loads with
  | nil => exact Nat.zero_le _
  | cons load loads ih =>
    have hone : load.2.link.statements ≤ 2 := by
      unfold Link.statements
      split <;> omega
    rw [List.map_cons, List.sum_cons, List.length_cons]
    omega

/-! ## Every run has a trace -/

variable {c : Connection}

/-- One relation, and those behind it. -/
theorem loads_cons {name : String} {r : Relation} {rest : List (String × Relation)} {depth : Nat}
    (hscope : r.LoadsNothing c) (hattached : c.attached = true)
    (hrest : ∀ rows s, ∃ sent result s',
      (rest.foldlM (fun rows load => load.2.load (Query.fetchWithin depth) c load.1 rows) rows :
        Run _) s = (result, s') ∧ Loads c s rest rows sent result s')
    (rows : List Record) (s : Session) :
    ∃ sent result s', (((name, r) :: rest).foldlM
      (fun rows load => load.2.load (Query.fetchWithin depth) c load.1 rows) rows : Run _) s =
        (result, s') ∧ Loads c s ((name, r) :: rest) rows sent result s' := by
  have hkeys := firstKeys_parentKeys r.link.parentKey rows
  rw [List.foldlM_cons]
  -- without keys nothing is sent, and the rest loads onto rows without related ones
  by_cases hsome : parentKeys r.link.parentKey rows = []
  · obtain ⟨sent, result, s', hrun, hloads⟩ :=
      hrest (rows.map fun row => row.set name r.link.nothing) s
    refine ⟨sent, result, s', ?_, .keyless (parentKeys_eq_nil.mp hsome) hloads⟩
    rw [bind_apply_ok (load_of_no_keys _ name hsome)]
    exact hrun
  · have hload := Relation.load_apply hscope hattached depth name hsome (s := s)
    cases hbatches : r.batches c with
    | error why =>
      rw [hbatches] at hload
      exact ⟨[], .error why, s, bind_apply_error hload, .unbuilt hkeys hsome hbatches⟩
    | ok batches =>
      rw [hbatches] at hload
      obtain ⟨first, hsends, hprefix, -⟩ :=
        Session.Sends.ask s (keyedBatches batches (parentKeys r.link.parentKey rows))
      rcases hasked : s.ask (keyedBatches batches (parentKeys r.link.parentKey rows)) with
        ⟨answers, s₁⟩
      dsimp only at hload
      rw [hasked] at hload hsends
      cases answers with
      | error why =>
        exact ⟨first, .error why, s₁, bind_apply_error hload,
          .failed hkeys hsome hbatches hasked hsends.sent hprefix⟩
      | ok answers =>
        obtain ⟨sent, result, s', hrun, hloads⟩ := hrest (r.handOut c name rows answers) s₁
        exact ⟨_, result, s', (bind_apply_ok hload).trans hrun,
          .loaded hkeys hsome hbatches hasked hloads⟩

/-- Every run of the relations has a trace. -/
theorem loads_foldlM {loads : List (String × Relation)}
    (hscopes : ∀ load ∈ loads, load.2.LoadsNothing c) (hattached : c.attached = true) (depth : Nat)
    (rows : List Record) (s : Session) :
    ∃ sent result s', (loads.foldlM
      (fun rows load => load.2.load (Query.fetchWithin depth) c load.1 rows) rows : Run _) s =
        (result, s') ∧ Loads c s loads rows sent result s' := by
  -- on the relations, for whatever rows and session the ones before leave
  induction loads generalizing rows s with
  | nil => exact ⟨[], .ok rows, s, rfl, .done⟩
  | cons load loads ih =>
    rw [List.forall_mem_cons] at hscopes
    exact loads_cons hscopes.1 hattached (fun rows s => ih hscopes.2 rows s) rows s

/-! ## Fetching -/

/-- A greatest depth is not below the one it starts with. -/
theorem le_foldl_max {α : Type} (depthOf : α → Nat) (xs : List α) (depth : Nat) :
    depth ≤ xs.foldl (fun depth x => max depth (depthOf x)) depth := by
  induction xs generalizing depth with
  | nil => exact Nat.le_refl depth
  | cons x xs ih => exact Nat.le_trans (Nat.le_max_left depth (depthOf x)) (ih _)

/-- Relations to load are loaded at some depth. -/
theorem Query.loadDepth_pos {q : Query} (hloads : q.eagerLoads ≠ []) : 0 < q.loadDepth := by
  obtain ⟨⟨name, link, scope⟩, loads, heq⟩ := List.exists_cons_of_ne_nil hloads
  have hfirst : 0 < relationDepth ⟨link, scope⟩ := Nat.succ_pos (stepsDepth scope)
  unfold loadDepth
  rw [heq, List.foldl_cons, Nat.zero_max]
  exact Nat.lt_of_lt_of_le hfirst
    (le_foldl_max (fun load : String × Relation => relationDepth load.2) _ _)

/-- A fetch runs the query, and then its relations. -/
theorem Query.fetch_eq (q : Query) : ∃ depth, q.fetch = q.fetchBase >>= fun rows =>
    q.eagerLoads.foldlM (fun rows load => load.2.load (fetchWithin depth) q.connection load.1 rows)
      rows := by
  by_cases hloads : q.eagerLoads = []
  · refine ⟨0, ?_⟩
    rw [fetch_of_no_loads hloads, hloads]
    exact (bind_pure q.fetchBase).symm
  · obtain ⟨depth, hdepth⟩ := Nat.exists_eq_succ_of_ne_zero (Nat.ne_of_gt (loadDepth_pos hloads))
    refine ⟨depth, ?_⟩
    unfold fetch
    rw [hdepth]
    rfl

/-- With an executor, a fetch is the statement of the query, and behind it the trace of its
relations. -/
theorem Query.fetch_loads {q : Query}
    (hscopes : ∀ load ∈ q.eagerLoads, load.2.LoadsNothing q.connection)
    (hattached : q.connection.attached = true) (s : Session) :
    ∃ sent result s', q.fetch s = (result, s') ∧
      s.Sends (q.statement :: sent) result s' ∧
      (∀ why, s.answer = .error why → sent = [] ∧ result = .error why) ∧
      (∀ rows, s.answer = .ok rows →
        Loads q.connection (s.sending q.sql q.values) q.eagerLoads rows sent result s') ∧
      sent.length ≤ statementsFor q.eagerLoads := by
  obtain ⟨depth, hfetch⟩ := q.fetch_eq
  have hbase : q.fetchBase s = (s.answer, s.sending q.sql q.values) :=
    Connection.query_attached hattached q.sql q.values s
  -- if the statement of the query fails, no relation is loaded
  cases hanswer : s.answer with
  | error why =>
    rw [hanswer] at hbase
    refine ⟨[], .error why, _, ?_, .one q ?_, ?_, fun rows hrows => ?_, Nat.zero_le _⟩
    · rw [hfetch]
      exact bind_apply_error hbase
    · intro other hother
      rw [← hother, hanswer]
    · intro other hother
      exact ⟨rfl, hother⟩
    · cases hrows
  | ok rows =>
    rw [hanswer] at hbase
    obtain ⟨sent, result, s', hrun, hloads⟩ :=
      loads_foldlM hscopes hattached depth rows (s.sending q.sql q.values)
    have hfirst : s.Sends [q.statement] (.ok rows) (s.sending q.sql q.values) := by
      refine .one q fun why hwhy => ?_
      rw [← hwhy, hanswer]
    refine ⟨sent, result, s', ?_, hfirst.trans hloads.sends, fun why hwhy => ?_,
      fun others hothers => ?_, hloads.length_le⟩
    · rw [hfetch]
      exact (bind_apply_ok hbase).trans hrun
    · cases hwhy
    · obtain rfl := Except.ok.inj hothers
      exact hloads

/-- Registrations on a query of any kind, and a fetch after them, with an executor. The relations to
load are those whose last registration was not taken back, in the order in which they came to stand.
The statement of the query is sent first. If it is answered, then the relations are loaded in their
order: a relation whose key no row has sends nothing, and one whose keys are there sends its
queries, one for a direct link and two for one through a pivot table, each restricted to the keys of
the rows as they are by then. These are bound as they are if they have no parts. So there are at
most two statements for each relation, however many rows there are. If a statement fails, then it
was the last, and its failure is the result. -/
theorem relations_load_in_batches {q : Query} (hnames : (q.eagerLoads.map Prod.fst).Nodup)
    (hattached : q.connection.attached = true) (events : List Registration)
    (hscopes : ∀ name n r, Registration.standing name (q.history events) = some (n, r) →
      r.LoadsNothing q.connection) :
    ∃ q', runSteps (events.map Registration.step) q = .ok q' ∧
      Registered (q.history events) q'.eagerLoads ∧
      (∀ s, ∃ sent result s', q'.fetch s = (result, s') ∧ s.Sends (q.statement :: sent) result s' ∧
        (∀ why, s.answer = .error why → sent = [] ∧ result = .error why) ∧
        (∀ rows, s.answer = .ok rows →
          Loads q.connection (s.sending q.sql q.values) q'.eagerLoads rows sent result s') ∧
        sent.length ≤ statementsFor q'.eagerLoads) ∧
      statementsFor q'.eagerLoads ≤ 2 * q'.eagerLoads.length ∧
      ∀ (p : Query) (column : String) (keys : List Value), (∀ key ∈ keys, key.isScalar = true) →
        (p.keyedBy column keys).bindings = p.bindings.extend .wheres keys := by
  have hregistered := Query.registered_history hnames events
  have hloadsNothing : ∀ load ∈ (q.registering events).eagerLoads,
      load.2.LoadsNothing q.connection := by
    intro load hload
    obtain ⟨n, hstanding⟩ := (hregistered.mem load.1 load.2).mp hload
    exact hscopes load.1 n load.2 hstanding
  -- registrations do not change what is asked for
  have hstatement : (q.registering events).statement = q.statement :=
    congrArg (fun sql => Sent.query sql q.values) (q.sql_registering events)
  refine ⟨_, q.runSteps_registrations events, hregistered, fun s => ?_, statementsFor_le _,
    fun p column keys hkeys => p.bindings_keyedBy column hkeys⟩
  have hfetch := Query.fetch_loads (q := q.registering events) hloadsNothing hattached s
  rw [hstatement, q.sql_registering events] at hfetch
  exact hfetch

/-- Posts are registered and taken back; then roles, and posts once more. -/
def postsAfterRoles : List Registration :=
  [.loading "posts" publishedPosts, .notLoading "posts",
    .loading "roles" ⟨.belongsToMany activeRoles, []⟩, .loading "posts" publishedPosts]

/-- Posts are loaded last, since they were taken back in between; three statements at most for any
number of users. -/
theorem relations_load_in_batches_posts :
    ∃ q', runSteps (postsAfterRoles.map Registration.step)
      (.table { attached := true } "users") = .ok q' ∧
      q'.eagerLoads.map Prod.fst = ["roles", "posts"] ∧
      ∃ sent result s', q'.fetch { rows := [.ok twoUsers] } = (result, s') ∧
        s'.sent = (Query.table { attached := true } "users").statement :: sent ∧
          sent.length ≤ 3 := by
  have hscopes : ∀ name n r, Registration.standing name
      ((Query.table { attached := true } "users").history postsAfterRoles) = some (n, r) →
        r.LoadsNothing { attached := true } := by
    intro name n r hstanding
    have hregistered := Query.registered_history
      (q := Query.table { attached := true } "users") List.nodup_nil postsAfterRoles
    have hmem : (name, r) ∈
        [("roles", Relation.mk (.belongsToMany activeRoles) []), ("posts", publishedPosts)] :=
      (hregistered.mem name r).mpr ⟨n, hstanding⟩
    simp only [List.mem_cons, Prod.mk.injEq, List.not_mem_nil, or_false] at hmem
    rcases hmem with ⟨-, rfl⟩ | ⟨-, rfl⟩
    · rintro related hrelated
      cases hrelated
      rfl
    · rintro related hrelated
      cases hrelated
      rfl
  obtain ⟨q', hrun, -, hfetch, -⟩ := relations_load_in_batches
    (q := Query.table { attached := true } "users") List.nodup_nil rfl postsAfterRoles hscopes
  obtain ⟨sent, result, s', hresult, hsends, -, -, hlength⟩ := hfetch { rows := [.ok twoUsers] }
  obtain rfl := Except.ok.inj hrun
  exact ⟨_, hrun, rfl, sent, result, s', hresult, hsends.sent, hlength⟩

end QueryBuilder
