import QueryBuilder.Proofs.PivotLinks

/-!
# Batches

The related rows of all parents are asked for at once. A relation comes down to one query, or to two
if a pivot table stands between, and each of them is restricted to the keys of the parents.

Keys are compared by their text. The restriction therefore names each text once, by the first key
that is written so, and rows without a key are passed over (§4.4). Without any key the restriction
would be an empty list: then the relation sends nothing.

- `FirstKeys`: the keys of rows, one for each text of a key. `firstKeys_parentKeys`: these are the
  keys that are looked up.
- `Query.keyedBy`: a query restricted to keys.
- `Relation.batches`: the queries of a relation before they are restricted.
- `Session.ask`: selects sent one after another, up to one that fails.
- `Relation.load_apply`: what loading a relation sends, and what it hands out.
-/

namespace QueryBuilder

/-! ## Keys -/

/-- The keys of rows in a field: one for each text of a key, in the order in which the texts are
first seen, and each the value of the first row with its text. -/
structure FirstKeys (field : String) (rows : List Record) (keys : List Value) : Prop where
  texts : keys.map Value.key? = ((rows.filterMap (rowKey? field)).eraseDups).map some
  first : ∀ key ∈ keys, ∃ row,
    rows.find? (fun row => rowKey? field row == key.key?) = some row ∧ row.get? field = some key

/-- The key of a row, as `distinctKeys` comes upon it. -/
theorem distinctKeys_cons (field : String) (seen : List String) (row : Record)
    (rows : List Record) :
    (∃ v k, row.get? field = some v ∧ v.key? = some k ∧ rowKey? field row = some k ∧ k ∉ seen ∧
      distinctKeys field seen (row :: rows) = v :: distinctKeys field (k :: seen) rows) ∨
    ((∀ k, rowKey? field row = some k → k ∈ seen) ∧
      distinctKeys field seen (row :: rows) = distinctKeys field seen rows) := by
  unfold rowKey?
  cases hv : row.get? field with
  | none =>
    refine .inr ⟨by simp, ?_⟩
    rw [distinctKeys, hv]
  | some v =>
    cases hk : v.key? with
    | none =>
      refine .inr ⟨fun k hk' => ?_, ?_⟩
      · rw [Option.bind_some, hk] at hk'
        cases hk'
      · rw [distinctKeys, hv]
        simp only [hk]
    | some k =>
      by_cases hseen : k ∈ seen
      · refine .inr ⟨fun k' hk' => ?_, ?_⟩
        · rw [Option.bind_some, hk] at hk'
          exact Option.some.inj hk' ▸ hseen
        · rw [distinctKeys, hv]
          simp only [hk]
          rw [if_pos (List.contains_iff_mem.mpr hseen)]
      · refine .inl ⟨v, k, rfl, hk, by rw [Option.bind_some, hk], hseen, ?_⟩
        rw [distinctKeys, hv]
        simp only [hk]
        rw [if_neg (by simpa using hseen)]

/-- The texts of the keys that are not seen yet. -/
theorem texts_distinctKeys (field : String) (seen : List String) (rows : List Record) :
    (distinctKeys field seen rows).map Value.key? =
      (((rows.filterMap (rowKey? field)).filter (· ∉ seen)).eraseDups).map some := by
  -- on the rows, for every list of texts seen: a new key is seen by the rows behind it
  induction rows generalizing seen with
  | nil => rfl
  | cons row rows ih =>
    rcases distinctKeys_cons field seen row rows with
      ⟨v, k, -, hk, hrow, hnew, hkeys⟩ | ⟨hseen, hkeys⟩
    · have hrest : ((rows.filterMap (rowKey? field)).filter (· ∉ seen)).filter (fun j => !j == k) =
          (rows.filterMap (rowKey? field)).filter (· ∉ k :: seen) := by
        rw [List.filter_filter]
        refine List.filter_congr fun j _ => ?_
        by_cases hj : j = k <;> simp [hj]
      rw [hkeys, List.map_cons, hk, ih, List.filterMap_cons_some hrow,
        List.filter_cons_of_pos (by simpa using hnew), List.eraseDups_cons, List.map_cons, hrest]
    · rw [hkeys, ih]
      cases hrow : rowKey? field row with
      | none => rw [List.filterMap_cons_none hrow]
      | some k =>
        rw [List.filterMap_cons_some hrow, List.filter_cons_of_neg (by simpa using hseen k hrow)]

/-- Each key has a text that is not seen yet, and is the value of the first row with this text. -/
theorem first_distinctKeys (field : String) (seen : List String) (rows : List Record) :
    ∀ key ∈ distinctKeys field seen rows, ∃ k, key.key? = some k ∧ k ∉ seen ∧ ∃ row,
      rows.find? (fun row => rowKey? field row == some k) = some row ∧
        row.get? field = some key := by
  -- as before; a key from the rows behind has another text than the first row
  induction rows generalizing seen with
  | nil => exact fun key hkey => absurd hkey List.not_mem_nil
  | cons row rows ih =>
    intro key hkey
    rcases distinctKeys_cons field seen row rows with
      ⟨v, k, hv, hk, hrow, hnew, hkeys⟩ | ⟨hseen, hkeys⟩
    · rw [hkeys, List.mem_cons] at hkey
      rcases hkey with rfl | hkey
      · refine ⟨k, hk, hnew, row, ?_, hv⟩
        rw [List.find?_cons_of_pos (by simp [hrow])]
      · obtain ⟨j, hj, hother, found, hfound, hvalue⟩ := ih (k :: seen) key hkey
        rw [List.mem_cons, not_or] at hother
        refine ⟨j, hj, hother.2, found, ?_, hvalue⟩
        rw [List.find?_cons_of_neg (by simpa [hrow] using Ne.symm hother.1)]
        exact hfound
    · rw [hkeys] at hkey
      obtain ⟨j, hj, hother, found, hfound, hvalue⟩ := ih seen key hkey
      refine ⟨j, hj, hother, found, ?_, hvalue⟩
      have hne : rowKey? field row ≠ some j := fun hrow => hother (hseen j hrow)
      rw [List.find?_cons_of_neg (by simpa using hne)]
      exact hfound

/-- The keys that are asked for are the first ones with their texts. -/
theorem firstKeys_parentKeys (field : String) (rows : List Record) :
    FirstKeys field rows (parentKeys field rows) where
  texts := by
    unfold parentKeys
    have hnone : ∀ ks : List String, ks.filter (· ∉ ([] : List String)) = ks :=
      fun ks => List.filter_eq_self.mpr fun k _ => by simp
    rw [texts_distinctKeys, hnone]
  first key hkey := by
    obtain ⟨k, hk, -, hrow⟩ := first_distinctKeys field [] rows key hkey
    rw [hk]
    exact hrow

/-! ## Queries for keys -/

/-- The query restricted to rows whose column holds one of some keys; each key is bound behind one
placeholder. -/
def Query.keyedBy (q : Query) (column : String) (keys : List Value) : Query :=
  (q.bind .wheres (keys.map Value.scalar)).addWhere .and
    (.isIn false (.name column) (keys.map Operand.value))

/-- A key without parts is bound as it is. -/
theorem scalar_of_isScalar {v : Value} (h : v.isScalar = true) : v.scalar = v := by
  cases v with
  | list items => cases h
  | record fields => cases h
  | _ => rfl

/-- Keys without parts are what the restricted query binds behind its conditions. -/
theorem Query.bindings_keyedBy (q : Query) (column : String) {keys : List Value}
    (hkeys : ∀ key ∈ keys, key.isScalar = true) :
    (q.keyedBy column keys).bindings = q.bindings.extend .wheres keys := by
  have hscalars : keys.map Value.scalar = keys :=
    (List.map_congr_left fun key hkey => scalar_of_isScalar (hkeys key hkey)).trans keys.map_id
  show q.bindings.extend .wheres (keys.map Value.scalar) = _
  rw [hscalars]

/-- The query for keys restricts what it is given, and cannot fail. -/
theorem keyedQuery_eq (related : Query) (field : String) (keys : List Value) :
    keyedQuery related field keys = .ok (related.keyedBy field keys) := by
  have hscalars : (keys.map Operand.value).flatMap Operand.scalars = keys.map Value.scalar :=
    (List.flatMap_map ..).trans List.map_eq_flatMap.symm
  unfold Query.keyedBy
  rw [← hscalars]
  rfl

namespace ManyToMany

/-- The query for all related rows, each with the key of its parent. -/
def allRelated (m : ManyToMany) (related : Query) : Except Error Query := do
  let q := related.addSelect
    [.name (m.qualifiedForeignKey ++ " as " ++ pivotIdField), .name (m.table ++ ".*")]
  return m.addOrders true (← m.addConditions true (m.joinPivot q))

/-- The query for all pivot rows. -/
def allPivots (m : ManyToMany) (c : Connection) : Except Error Query := do
  return m.addOrders false (← m.addConditions false (Query.table c m.pivotTable))

/-- The query for the related rows of some keys restricts that for all of them. -/
theorem relatedQuery_eq (m : ManyToMany) (keys : List Value) (related : Query) :
    m.relatedQuery keys related =
      (m.allRelated related).map fun q => q.keyedBy m.qualifiedForeignKey keys := by
  unfold relatedQuery allRelated
  cases hconditions : m.addConditions true (m.joinPivot (related.addSelect
      [.name (m.qualifiedForeignKey ++ " as " ++ pivotIdField), .name (m.table ++ ".*")])) with
  | error why =>
    simp only [hconditions]
    rfl
  | ok q =>
    simp only [hconditions]
    exact keyedQuery_eq (m.addOrders true q) m.qualifiedForeignKey keys

/-- So does the query for pivot rows. -/
theorem pivotQuery_eq (m : ManyToMany) (keys : List Value) (c : Connection) :
    m.pivotQuery keys c = (m.allPivots c).map fun q => q.keyedBy m.foreignPivotKey keys := by
  unfold pivotQuery allPivots
  cases hconditions : m.addConditions false (Query.table c m.pivotTable) with
  | error why => rfl
  | ok q => exact keyedQuery_eq (m.addOrders false q) m.foreignPivotKey keys

end ManyToMany

/-- The queries of a relation, each with the column in which the keys of the parents are looked
up. -/
def Relation.batches (r : Relation) (c : Connection) : Except Error (List (Query × String)) := do
  let related ← runRelation r c
  match r.link with
  | .hasOne _ foreignKey _ => return [(related, foreignKey)]
  | .hasMany _ foreignKey _ => return [(related, foreignKey)]
  | .belongsTo _ _ ownerKey => return [(related, ownerKey)]
  | .belongsToMany m =>
    return [(← m.allRelated related, m.qualifiedForeignKey), (← m.allPivots c, m.foreignPivotKey)]

/-- The queries of a relation for some keys. -/
def keyedBatches (batches : List (Query × String)) (keys : List Value) : List Query :=
  batches.map fun batch => batch.1.keyedBy batch.2 keys

/-- How many statements a link takes. -/
def Link.statements : Link → Nat
  | belongsToMany _ => 2
  | _ => 1

/-! ## Sending -/

/-- Selects sent one after another, up to one that fails; the answers to all of them, or why one
failed. -/
def Session.ask (s : Session) : List Query → Except Error (List (List Record)) × Session
  | [] => (.ok [], s)
  | q :: rest =>
    match s.answer with
    | .error why => (.error why, s.sending q.sql q.values)
    | .ok rows =>
      let asked := (s.sending q.sql q.values).ask rest
      (asked.1.map fun more => rows :: more, asked.2)

/-- A query that loads no relations is asked for first, and what follows asks for the others. -/
theorem fetchWithin_ask {α : Type} {q : Query} (hloads : q.eagerLoads = [])
    (hattached : q.connection.attached = true) (depth : Nat) {rest : List Query}
    {f : List Record → Run α} {result : List (List Record) → α}
    (hrest : ∀ rows s, f rows s =
      ((s.ask rest).1.map fun more => result (rows :: more), (s.ask rest).2)) (s : Session) :
    (Query.fetchWithin depth q >>= f) s =
      ((s.ask (q :: rest)).1.map result, (s.ask (q :: rest)).2) := by
  have hfetch := Query.fetchWithin_apply hloads hattached depth s
  unfold Session.ask
  -- a failure ends the asking; rows are kept, and the rest is asked for behind them
  cases hanswer : s.answer with
  | error why =>
    rw [hanswer] at hfetch
    exact bind_apply_error hfetch
  | ok rows =>
    rw [hanswer] at hfetch
    rw [bind_apply_ok hfetch, hrest]
    dsimp only
    cases ((s.sending q.sql q.values).ask rest).1 <;> rfl

namespace Relation

/-- The scope of a relation registers no relations of its own. -/
def LoadsNothing (r : Relation) (c : Connection) : Prop :=
  ∀ related, runRelation r c = .ok related → related.eagerLoads = []

/-- The parents with what the answers hold for them: the rows, and the pivot rows behind them. -/
def handOut (r : Relation) (c : Connection) (name : String) (parents : List Record)
    (answers : List (List Record)) : List Record :=
  match r.link with
  | .belongsToMany m =>
    m.attach name c.config.pivotKey parents (answers.getD 0 []) (answers.getD 1 [])
  | link => parents.map fun parent => parent.set name (link.relatedValue (answers.getD 0 []) parent)

variable {r : Relation} {c : Connection}

/-- A relation has one query, or two if it goes through a pivot table. -/
theorem length_batches {batches : List (Query × String)} (h : r.batches c = .ok batches) :
    batches.length = r.link.statements := by
  obtain ⟨link, scope⟩ := r
  obtain ⟨related, -, h⟩ := bind_eq_ok.mp h
  cases link with
  | belongsToMany m =>
    obtain ⟨all, -, h⟩ := bind_eq_ok.mp h
    obtain ⟨pivots, -, h⟩ := bind_eq_ok.mp h
    exact Except.ok.inj h ▸ rfl
  | _ => exact Except.ok.inj h ▸ rfl

/-! ## Direct links -/

variable {related : Query} {parents : List Record} {s : Session}

/-- A direct link has a single query, and each parent is handed its related rows. -/
theorem load_direct_eq (fetch : Query → Run (List Record)) (name : String)
    (hdirect : r.link.IsDirect) (hrun : runRelation r c = .ok related)
    (hkeys : parentKeys r.link.parentKey parents ≠ []) :
    ∃ field, r.batches c = .ok [(related, field)] ∧
      r.load fetch c name parents =
        (Run.ofExcept (keyedQuery related field (parentKeys r.link.parentKey parents)) >>=
          fun batch => fetch batch >>= fun rows =>
            pure (parents.map fun parent =>
              parent.set name (r.link.relatedValue rows parent))) := by
  have hsome : (parentKeys r.link.parentKey parents).isEmpty = false := by
    rw [List.isEmpty_eq_false_iff]
    exact hkeys
  obtain ⟨link, scope⟩ := r
  unfold batches Relation.load
  simp only [hsome, hrun]
  cases link with
  | hasOne table foreignKey localKey =>
    refine ⟨foreignKey, rfl, ?_⟩
    simp only [attach_eq]
    rfl
  | hasMany table foreignKey localKey =>
    refine ⟨foreignKey, rfl, ?_⟩
    simp only [attach_eq]
    rfl
  | belongsTo table foreignKey ownerKey =>
    refine ⟨ownerKey, rfl, ?_⟩
    simp only [attach_eq]
    rfl
  | belongsToMany m => exact hdirect.elim

/-- Loading a direct link asks its one query, and hands out the answer. -/
theorem load_direct_apply (hdirect : r.link.IsDirect) (hrun : runRelation r c = .ok related)
    (hloads : related.eagerLoads = []) (hattached : c.attached = true) (depth : Nat) (name : String)
    (hkeys : parentKeys r.link.parentKey parents ≠ []) :
    ∃ field, r.batches c = .ok [(related, field)] ∧
      let asked := s.ask [related.keyedBy field (parentKeys r.link.parentKey parents)]
      r.load (Query.fetchWithin depth) c name parents s =
        (asked.1.map (r.handOut c name parents), asked.2) := by
  obtain ⟨field, hbatches, hload⟩ :=
    load_direct_eq (Query.fetchWithin depth) name hdirect hrun hkeys
  have hrelated : related.connection.attached = true := by
    rw [connection_of_runRelation hrun]
    exact hattached
  have hhandOut : ∀ rows, r.handOut c name parents [rows] =
      parents.map fun parent => parent.set name (r.link.relatedValue rows parent) := by
    intro rows
    unfold handOut
    split
    · next hlink =>
      rw [hlink] at hdirect
      exact hdirect.elim
    · rfl
  refine ⟨field, hbatches, ?_⟩
  rw [hload, keyedQuery_eq]
  refine fetchWithin_ask (q := related.keyedBy field _) hloads hrelated depth (fun rows s => ?_) s
  rw [← hhandOut]
  rfl

/-! ## Links through a pivot table -/

/-- The load of a link through a pivot table, with the queries that it is made of. -/
theorem load_pivoted_eq (fetch : Query → Run (List Record)) (name : String) {m : ManyToMany}
    (hlink : r.link = .belongsToMany m) (hrun : runRelation r c = .ok related)
    (hkeys : parentKeys r.link.parentKey parents ≠ []) :
    r.load fetch c name parents =
      (Run.ofExcept (m.relatedQuery (parentKeys r.link.parentKey parents) related) >>= fun batch =>
        fetch batch >>= fun rows =>
          Run.ofExcept (m.pivotQuery (parentKeys r.link.parentKey parents) c) >>= fun pivotBatch =>
            fetch pivotBatch >>= fun pivots =>
              pure (m.attach name c.config.pivotKey parents rows pivots)) := by
  have hsome : (parentKeys r.link.parentKey parents).isEmpty = false := by
    rw [List.isEmpty_eq_false_iff]
    exact hkeys
  rw [hlink] at hsome
  unfold Relation.load
  simp only [hlink, hsome, hrun]
  rfl

/-- Where the query for the related rows can be built, that for the pivot rows can be built too: the
dialect knows the operators of the same conditions. -/
theorem allPivots_ok {m : ManyToMany} {all : Query} (hrun : runRelation r c = .ok related)
    (hall : m.allRelated related = .ok all) :
    related.FetchesLike all ∧ ∃ pivots, m.allPivots c = .ok pivots ∧
      (Query.table c m.pivotTable).FetchesLike pivots := by
  have hdialect : related.dialect = c.dialect :=
    congrArg Connection.dialect (connection_of_runRelation hrun)
  -- an operator that the dialect does not know would have stopped the query for the related rows
  have haccepted : m.Accepted c.dialect := by
    refine Classical.byContradiction fun hunaccepted => ?_
    obtain ⟨operator, herror⟩ := m.relatedQuery_error (hdialect ▸ hunaccepted) []
    rw [m.relatedQuery_eq, hall] at herror
    cases herror
  obtain ⟨batch, hbatch, hlike⟩ := m.relatedQuery_ok (hdialect ▸ haccepted) []
  obtain ⟨pivotBatch, hpivotBatch, hpivotLike⟩ := m.pivotQuery_ok haccepted []
  rw [m.relatedQuery_eq, hall] at hbatch
  rw [m.pivotQuery_eq] at hpivotBatch
  obtain rfl := Except.ok.inj hbatch
  refine ⟨⟨hlike.connection, hlike.eagerLoads⟩, ?_⟩
  cases hpivots : m.allPivots c with
  | error why =>
    rw [hpivots] at hpivotBatch
    cases hpivotBatch
  | ok pivots =>
    rw [hpivots] at hpivotBatch
    obtain rfl := Except.ok.inj hpivotBatch
    exact ⟨pivots, rfl, hpivotLike.connection, hpivotLike.eagerLoads⟩

/-- Loading through a pivot table asks both queries in turn, and hands out the answers. -/
theorem load_pivoted_apply {m : ManyToMany} (hlink : r.link = .belongsToMany m)
    (hrun : runRelation r c = .ok related) (hloads : related.eagerLoads = [])
    (hattached : c.attached = true) (depth : Nat) (name : String)
    (hkeys : parentKeys r.link.parentKey parents ≠ []) {all : Query}
    (hall : m.allRelated related = .ok all) :
    ∃ pivots, r.batches c = .ok [(all, m.qualifiedForeignKey), (pivots, m.foreignPivotKey)] ∧
      let asked := s.ask [
        all.keyedBy m.qualifiedForeignKey (parentKeys r.link.parentKey parents),
        pivots.keyedBy m.foreignPivotKey (parentKeys r.link.parentKey parents)]
      r.load (Query.fetchWithin depth) c name parents s =
        (asked.1.map (r.handOut c name parents), asked.2) := by
  obtain ⟨hlike, pivots, hpivots, hpivotLike⟩ := allPivots_ok hrun hall
  have hbatches : r.batches c = .ok [(all, m.qualifiedForeignKey),
      (pivots, m.foreignPivotKey)] := by
    unfold batches
    rw [hrun, hlink]
    show (m.allRelated related).bind (fun all => (m.allPivots c).bind _) = _
    rw [hall, hpivots]
    rfl
  have hhandOut : ∀ rows more, r.handOut c name parents [rows, more] =
      m.attach name c.config.pivotKey parents rows more := by
    intro rows more
    unfold handOut
    rw [hlink]
    rfl
  have hrelated : all.connection.attached = true := by
    rw [hlike.connection, connection_of_runRelation hrun]
    exact hattached
  have hpivotTable : pivots.connection.attached = true := by
    rw [hpivotLike.connection]
    exact hattached
  refine ⟨pivots, hbatches, ?_⟩
  rw [load_pivoted_eq _ name hlink hrun hkeys, m.relatedQuery_eq, m.pivotQuery_eq, hall, hpivots]
  -- the second query is part of what follows the first
  refine fetchWithin_ask (q := all.keyedBy m.qualifiedForeignKey _) (hlike.eagerLoads.trans hloads)
    hrelated depth (fun rows s => ?_) s
  refine fetchWithin_ask (q := pivots.keyedBy m.foreignPivotKey _) hpivotLike.eagerLoads hpivotTable
    depth (fun more s => ?_) s
  rw [← hhandOut]
  rfl

/-- What loading a relation comes to where a parent has a key: its queries are restricted to the
keys of the parents, and their answers are handed out. -/
theorem load_apply (hscope : r.LoadsNothing c) (hattached : c.attached = true) (depth : Nat)
    (name : String) (hkeys : parentKeys r.link.parentKey parents ≠ []) :
    r.load (Query.fetchWithin depth) c name parents s =
      match r.batches c with
      | .error why => (.error why, s)
      | .ok batches =>
        let asked := s.ask (keyedBatches batches (parentKeys r.link.parentKey parents))
        (asked.1.map (r.handOut c name parents), asked.2) := by
  -- a scope that fails, a direct link, and a pivot table whose conditions may be refused
  cases hrun : runRelation r c with
  | error why =>
    have hbatches : r.batches c = .error why := by
      unfold batches
      rw [hrun]
      rfl
    have hsome : (parentKeys r.link.parentKey parents).isEmpty = false := by
      rw [List.isEmpty_eq_false_iff]
      exact hkeys
    unfold Relation.load
    simp only [hsome, hrun, hbatches]
    rfl
  | ok related =>
    have hloads := hscope related hrun
    by_cases hdirect : r.link.IsDirect
    · obtain ⟨field, hbatches, hload⟩ :=
        load_direct_apply hdirect hrun hloads hattached depth name hkeys (s := s)
      rw [hload, hbatches]
      rfl
    · obtain ⟨m, hlink⟩ : ∃ m, r.link = .belongsToMany m := by
        cases hlink : r.link with
        | belongsToMany m => exact ⟨m, rfl⟩
        | _ =>
          rw [hlink] at hdirect
          exact absurd trivial hdirect
      cases hall : m.allRelated related with
      | error why =>
        have hbatches : r.batches c = .error why := by
          unfold batches
          rw [hrun, hlink]
          show (m.allRelated related).bind _ = _
          rw [hall]
          rfl
        rw [load_pivoted_eq _ name hlink hrun hkeys, m.relatedQuery_eq, hall, hbatches]
        rfl
      | ok all =>
        obtain ⟨pivots, hbatches, hload⟩ :=
          load_pivoted_apply hlink hrun hloads hattached depth name hkeys hall (s := s)
        rw [hload, hbatches]
        rfl

end Relation

end QueryBuilder
