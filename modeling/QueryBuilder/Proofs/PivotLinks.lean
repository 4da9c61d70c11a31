import QueryBuilder.Proofs.DirectLinks

/-!
# Loading related rows through a pivot table

Two statements fetch the related rows and the pivot rows, each by itself, and two indexes bring them
together. The result is that of comparing each parent with each related row and both with each pivot
row (`load_pivoted`), whatever the two answers are.

A related row says in one more column whose it is, and that column is taken off before a parent is
handed the row (§4.4). Its pivot row is looked up by both keys. Among several with the same two keys
the first counts, and where there is none its place holds null.

- `Record.Drops`: one record is another without a single field.
- `ManyToMany.linking`: the pivot rows that link a related row to a parent.
- `ManyToMany.HandedOut`: a related row as a parent is handed it.
- `Query.FetchesLike`: two queries are fetched on the same connection and load the same relations.
- `ManyToMany.Accepted`: the dialect knows the operators of the conditions on the pivot table, so
  that both queries are built. Otherwise nothing is sent (`load_unaccepted`).
-/

namespace QueryBuilder

/-! ## Records -/

namespace Record

/-- A record has no value for a name exactly if no field has it. -/
theorem get?_eq_none {r : Record} {name : String} :
    get? r name = none ↔ name ∉ r.map Prod.fst := by
  unfold get?
  rw [Option.map_eq_none_iff, List.find?_eq_none, List.mem_map]
  constructor
  · rintro h ⟨field, hfield, hname⟩
    exact h field hfield (beq_iff_eq.mpr hname)
  · intro h field hfield hname
    exact h ⟨field, hfield, beq_iff_eq.mp hname⟩

theorem get?_cons (key other : String) (v : Value) (rest : Record) :
    get? ((key, v) :: rest) other = if key = other then some v else get? rest other := by
  unfold get?
  by_cases h : key = other <;> simp [h]

/-- Erasing a field leaves the values of all others. -/
theorem get?_erase_of_ne {name other : String} (hne : other ≠ name) (r : Record) :
    get? (erase r name) other = get? r other := by
  induction r with
  | nil => rfl
  | cons field rest ih =>
    obtain ⟨key, v⟩ := field
    by_cases hkey : key = name
    · have hother : key ≠ other := fun h => hne (h.symm.trans hkey)
      rw [erase, if_pos hkey, get?_cons, if_neg hother]
    · rw [erase, if_neg hkey, get?_cons, get?_cons, ih]

/-- Erasing a field erases one occurrence of its name. -/
theorem names_erase (r : Record) (name : String) :
    (erase r name).map Prod.fst = (r.map Prod.fst).erase name := by
  induction r with
  | nil => rfl
  | cons field rest ih =>
    obtain ⟨key, v⟩ := field
    by_cases hkey : key = name
    · simp [erase, hkey]
    · rw [erase, if_neg hkey, List.map_cons, ih, List.map_cons,
        List.erase_cons_tail (by simpa using hkey)]

/-- `after` is `before` without the field `name`; the names of a row are distinct. -/
structure Drops (name : String) (before after : Record) : Prop where
  gone : (before.map Prod.fst).Nodup → get? after name = none
  others : ∀ other, other ≠ name → get? after other = get? before other
  names : after.map Prod.fst = (before.map Prod.fst).erase name

theorem drops_erase (r : Record) (name : String) : Drops name r (erase r name) where
  -- only the first occurrence is erased, so a name that stands twice would be found again
  gone hdistinct := by
    rw [get?_eq_none, names_erase]
    exact hdistinct.not_mem_erase
  others other hne := get?_erase_of_ne hne r
  names := names_erase r name

end Record

/-- The key of a row does not depend on other fields. -/
theorem rowKey?_erase {field name : String} (hne : field ≠ name) (row : Record) :
    rowKey? field (row.erase name) = rowKey? field row := by
  unfold rowKey?
  rw [Record.get?_erase_of_ne hne]

theorem firstOrNull_eq (rows : List Record) :
    firstOrNull rows = match rows.head? with
      | some row => .record row
      | none => .null := by
  cases rows <;> rfl

/-! ## Pivot rows -/

namespace ManyToMany

variable {m : ManyToMany}

/-- The pivot rows that hold the keys of a parent and of a related row; none if either has no
key. -/
def linking (m : ManyToMany) (pivots : List Record) (parent row : Record) : List Record :=
  pivots.filter fun pivot =>
    (rowKey? m.localKey parent).isSome && (rowKey? m.relatedKey row).isSome &&
      rowKey? m.foreignPivotKey pivot == rowKey? m.localKey parent &&
        rowKey? m.relatedPivotKey pivot == rowKey? m.relatedKey row

/-- Among the pairs of keys, the first with the keys asked for is that of the first such row. -/
theorem find?_pairs (m : ManyToMany) (pivots : List Record) (parent child : String) :
    ((m.pairs pivots).find? fun entry => entry.1 == (parent, child)).map Prod.snd =
      pivots.find? fun pivot => rowKey? m.foreignPivotKey pivot == some parent &&
        rowKey? m.relatedPivotKey pivot == some child := by
  -- a pivot row that lacks one of its keys is in neither list
  induction pivots with
  | nil => rfl
  | cons pivot rest ih =>
    rw [List.find?_cons]
    unfold pairs at ih ⊢
    rw [List.filterMap_cons]
    cases hparent : rowKey? m.foreignPivotKey pivot with
    | none => simpa [hparent] using ih
    | some foreign =>
      cases hchild : rowKey? m.relatedPivotKey pivot with
      | none => simpa using ih
      | some other =>
        simp only [List.find?_cons]
        by_cases hsame : foreign = parent ∧ other = child
        · obtain ⟨rfl, rfl⟩ := hsame
          simp
        · have hpair : ((foreign, other) == (parent, child)) = false := by simpa using hsame
          have hkeys : (some foreign == some parent && some other == some child) = false := by
            simpa using hsame
          rw [hpair, hkeys]
          exact ih

/-- The index of pairs finds what comparing finds. -/
theorem pivotOf_pairs {parent : Record} {k : String} (hk : rowKey? m.localKey parent = some k)
    (pivots : List Record) (row : Record) :
    m.pivotOf (m.pairs pivots) k row = firstOrNull (m.linking pivots parent row) := by
  unfold pivotOf linking
  rw [hk]
  cases hchild : rowKey? m.relatedKey row with
  -- a related row without a key is linked by no pivot row
  | none =>
    have hnone : (pivots.filter fun _ => false) = [] := by simp
    simp only [Option.isSome_none, Bool.and_false, Bool.false_and, hnone]
    rfl
  | some child =>
    simp only [Option.isSome_some, Bool.true_and]
    rw [firstOrNull_eq, List.head?_filter, ← find?_pairs]
    cases (m.pairs pivots).find? fun entry => entry.1 == (k, child) <;> rfl

/-- A related row as a parent is handed it: without the key by which it was found, and with its
first pivot row or null. -/
structure HandedOut (m : ManyToMany) (pivotKey : String) (pivots : List Record)
    (parent row item : Record) : Prop where
  pivot : item.get? pivotKey = some (firstOrNull (m.linking pivots parent row))
  pivotId : (row.map Prod.fst).Nodup → item.get? pivotIdField = none
  others : ∀ other, other ≠ pivotKey → other ≠ pivotIdField → item.get? other = row.get? other
  names : item.map Prod.fst =
    if pivotKey ∈ (row.map Prod.fst).erase pivotIdField then (row.map Prod.fst).erase pivotIdField
    else (row.map Prod.fst).erase pivotIdField ++ [pivotKey]

/-- What is made of a related row is what `HandedOut` says. -/
theorem handedOut_item {pivotKey k : String} {parent : Record}
    (hrelated : m.relatedKey ≠ pivotIdField) (hpivot : pivotKey ≠ pivotIdField)
    (hk : rowKey? m.localKey parent = some k) (pivots : List Record) (row : Record) :
    m.HandedOut pivotKey pivots parent row (m.item pivotKey (m.pairs pivots) k row) := by
  have hdrops := Record.drops_erase row pivotIdField
  have hsets := Record.sets_set (row.erase pivotIdField) pivotKey
    (m.pivotOf (m.pairs pivots) k (row.erase pivotIdField))
  -- the pivot row is looked up after the erasure, which leaves the key of the related row
  have hlinking : m.linking pivots parent (row.erase pivotIdField) =
      m.linking pivots parent row := by
    unfold linking
    rw [rowKey?_erase hrelated]
  constructor
  case pivot =>
    rw [← hlinking, ← pivotOf_pairs hk]
    exact hsets.field
  case pivotId =>
    intro hdistinct
    exact (hsets.others _ hpivot.symm).trans (hdrops.gone hdistinct)
  case others =>
    intro other hkey hid
    exact (hsets.others other hkey).trans (hdrops.others other hid)
  case names =>
    have hnames := hsets.names
    rw [hdrops.names] at hnames
    exact hnames

/-- A pivot row stands under the parent and at the related row whose keys it holds. -/
theorem keys_of_linking {pivots : List Record} {parent row pivot : Record}
    (h : firstOrNull (m.linking pivots parent row) = .record pivot) :
    pivot ∈ pivots ∧
      (∃ k, rowKey? m.localKey parent = some k ∧ rowKey? m.foreignPivotKey pivot = some k) ∧
      ∃ k, rowKey? m.relatedKey row = some k ∧ rowKey? m.relatedPivotKey pivot = some k := by
  cases hrows : m.linking pivots parent row with
  | nil =>
    rw [hrows] at h
    cases h
  -- the first of the linking rows passes the filter, which tests both keys
  | cons first rest =>
    rw [hrows] at h
    obtain rfl : first = pivot := Value.record.inj h
    have hmem : first ∈ m.linking pivots parent row := hrows ▸ List.mem_cons_self
    unfold linking at hmem
    simp only [List.mem_filter, Bool.and_eq_true, Option.isSome_iff_exists, beq_iff_eq] at hmem
    obtain ⟨hpivot, ⟨⟨⟨k, hk⟩, ⟨j, hj⟩⟩, hforeign⟩, hrelated⟩ := hmem
    exact ⟨hpivot, ⟨k, hk, hforeign.trans hk⟩, ⟨j, hj, hrelated.trans hj⟩⟩

/-- What a parent is handed for a related row. -/
def itemOf (m : ManyToMany) (pivotKey : String) (pivots : List Record) (parent row : Record) :
    Record :=
  m.item pivotKey (m.pairs pivots) ((rowKey? m.localKey parent).getD "") row

/-- Attaching gives each parent what its related rows are made into. A parent without a key has
none. -/
theorem attach_eq (m : ManyToMany) (name pivotKey : String) (parents related pivots : List Record) :
    m.attach name pivotKey parents related pivots =
      parents.map fun parent => parent.set name (allRows
        ((relatedTo m.localKey pivotIdField related parent).map
          (m.itemOf pivotKey pivots parent))) := by
  unfold attach
  refine List.map_congr_left fun parent _ => ?_
  have hmatching := matching_of m.localKey pivotIdField related parent
  unfold Index.matching at hmatching
  unfold itemOf
  rw [← hmatching]
  cases rowKey? m.localKey parent <;> rfl

/-- The parents, each with the related rows of its key as it is handed them. A pivot row stands only
where its two keys put it. -/
structure Loads (m : ManyToMany) (name pivotKey : String) (parents related pivots : List Record)
    (item : Record → Record → Record) (loaded : List Record) : Prop where
  rows : LoadedAs name
    (fun parent => allRows ((relatedTo m.localKey pivotIdField related parent).map (item parent)))
    parents loaded
  items : ∀ parent, ∀ row ∈ relatedTo m.localKey pivotIdField related parent,
    m.HandedOut pivotKey pivots parent row (item parent row)
  places : ∀ parent, ∀ row ∈ relatedTo m.localKey pivotIdField related parent, ∀ pivot,
    (item parent row).get? pivotKey = some (.record pivot) →
      pivot ∈ pivots ∧
        (∃ k, rowKey? m.localKey parent = some k ∧ rowKey? m.foreignPivotKey pivot = some k) ∧
        ∃ k, rowKey? m.relatedKey row = some k ∧ rowKey? m.relatedPivotKey pivot = some k

/-- A parent to which a row is related has a key. -/
theorem key_of_mem_relatedTo {parentField relatedField : String} {related : List Record}
    {parent row : Record} (h : row ∈ relatedTo parentField relatedField related parent) :
    ∃ k, rowKey? parentField parent = some k := by
  unfold relatedTo at h
  simp only [List.mem_filter, Bool.and_eq_true, Option.isSome_iff_exists] at h
  exact h.2.1

/-- What the indexes hand out is what comparing gives. -/
theorem loads_attach (name : String) {pivotKey : String} (hrelated : m.relatedKey ≠ pivotIdField)
    (hpivot : pivotKey ≠ pivotIdField) (parents related pivots : List Record) :
    m.Loads name pivotKey parents related pivots (m.itemOf pivotKey pivots)
      (m.attach name pivotKey parents related pivots) := by
  have hitems : ∀ parent, ∀ row ∈ relatedTo m.localKey pivotIdField related parent,
      m.HandedOut pivotKey pivots parent row (m.itemOf pivotKey pivots parent row) := by
    intro parent row hrow
    obtain ⟨k, hk⟩ := key_of_mem_relatedTo hrow
    unfold itemOf
    rw [hk]
    exact handedOut_item hrelated hpivot hk pivots row
  constructor
  case rows =>
    rw [attach_eq]
    exact loadedAs_map name _ parents
  case items => exact hitems
  case places =>
    intro parent row hrow pivot hcarries
    have hfirst := (hitems parent row hrow).pivot
    rw [hcarries] at hfirst
    exact keys_of_linking (Option.some.inj hfirst).symm

end ManyToMany

/-! ## The two queries -/

/-- Two queries are run on one connection and load the same relations. -/
structure Query.FetchesLike (p q : Query) : Prop where
  connection : q.connection = p.connection
  eagerLoads : q.eagerLoads = p.eagerLoads

namespace Query.FetchesLike

variable {p q q' : Query}

theorem trans (h : FetchesLike p q) (h' : FetchesLike q q') : FetchesLike p q' where
  connection := h'.connection.trans h.connection
  eagerLoads := h'.eagerLoads.trans h.eagerLoads

theorem orderBy (q : Query) (column : Column) (direction : Direction) :
    FetchesLike q (q.orderBy column direction) := by
  unfold Query.orderBy Query.addSortKey Query.updateTail
  split <;> exact ⟨rfl, rfl⟩

end Query.FetchesLike

/-- The dialect knows the operator of a condition on the pivot table. -/
def PivotCondition.Accepted (d : Dialect) : PivotCondition → Prop
  | compare _ operator _ => d.knows (Text.lower (Text.trim operator)) = true
  | _ => True

namespace ManyToMany

variable {m : ManyToMany} {q related : Query} {c : Connection}

/-- The dialect knows the operators of all conditions on the pivot table. -/
def Accepted (m : ManyToMany) (d : Dialect) : Prop :=
  ∀ condition ∈ m.conditions, condition.Accepted d

/-- A condition whose operator is known is added, and the query is fetched as before. -/
theorem addCondition_ok {condition : PivotCondition} (h : condition.Accepted q.dialect)
    (qualified : Bool) :
    ∃ q', m.addCondition qualified q condition = .ok q' ∧ q.FetchesLike q' := by
  cases condition with
  | compare column operator value =>
    cases hnull : value.isNull with
    | true =>
      exact ⟨_, Query.compareColumn_null h hnull .and (.name (m.pivotColumn qualified column)), rfl,
        rfl⟩
    | false =>
      exact ⟨_, Query.compareColumn_operand h hnull .and (.name (m.pivotColumn qualified column)),
        rfl, rfl⟩
  | isIn column values negated => exact ⟨_, rfl, rfl, rfl⟩
  | between column low high negated => exact ⟨_, rfl, rfl, rfl⟩
  | isNull column negated => exact ⟨_, rfl, rfl, rfl⟩

/-- Conditions whose operators are known are added one after the other. -/
theorem addConditions_ok (h : m.Accepted q.dialect) (qualified : Bool) :
    ∃ q', m.addConditions qualified q = .ok q' ∧ q.FetchesLike q' := by
  unfold addConditions
  unfold Accepted at h
  -- the query grows, so the induction is on the conditions for every query of the dialect
  generalize m.conditions = conditions at h
  induction conditions generalizing q with
  | nil => exact ⟨q, rfl, rfl, rfl⟩
  | cons condition rest ih =>
    obtain ⟨next, hnext, hlike⟩ := addCondition_ok (h condition List.mem_cons_self) qualified
    -- the conditions to come are judged by the dialect of the query that has grown
    have hdialect : next.dialect = q.dialect := congrArg Connection.dialect hlike.connection
    obtain ⟨q', hq', hrest⟩ := ih (q := next) fun other hother =>
      hdialect ▸ h other (List.mem_cons_of_mem _ hother)
    refine ⟨q', ?_, hlike.trans hrest⟩
    rw [List.foldlM_cons, hnext]
    exact hq'

/-- A condition with an unknown operator is reported with the operator as it was read. -/
theorem addCondition_error {condition : PivotCondition} (h : ¬ condition.Accepted q.dialect)
    (qualified : Bool) :
    ∃ operator, m.addCondition qualified q condition =
      .error (.misuse (.illegalOperator operator)) := by
  cases condition with
  | compare column operator value =>
    have hchecked : q.checkedOperator operator =
        .error (.misuse (.illegalOperator (Text.lower (Text.trim operator)))) := by
      unfold Query.checkedOperator
      exact if_neg h
    show ∃ unknown, q.compareColumn .and (.name (m.pivotColumn qualified column)) (some operator)
      (.operand value) = .error (.misuse (.illegalOperator unknown))
    unfold Query.compareColumn
    simp only [Option.isNone_some, Bool.false_and, Option.getD_some, hchecked]
    exact ⟨_, rfl⟩
  -- the other conditions have no operator, and are accepted by every dialect
  | isIn column values negated => exact absurd trivial h
  | between column low high negated => exact absurd trivial h
  | isNull column negated => exact absurd trivial h

/-- The first condition whose operator is not known decides. -/
theorem addConditions_error (h : ¬ m.Accepted q.dialect) (qualified : Bool) :
    ∃ operator, m.addConditions qualified q = .error (.misuse (.illegalOperator operator)) := by
  unfold addConditions
  unfold Accepted at h
  generalize m.conditions = conditions at h
  induction conditions generalizing q with
  | nil => exact absurd (by simp) h
  | cons condition rest ih =>
    rw [List.foldlM_cons]
    by_cases hcondition : condition.Accepted q.dialect
    · obtain ⟨next, hnext, hlike⟩ := addCondition_ok (m := m) hcondition qualified
      have hdialect : next.dialect = q.dialect := congrArg Connection.dialect hlike.connection
      rw [List.forall_mem_cons, not_and] at h
      rw [hnext]
      exact ih (hdialect ▸ h hcondition)
    · obtain ⟨operator, herror⟩ := addCondition_error (m := m) hcondition qualified
      rw [herror]
      exact ⟨operator, rfl⟩

/-- The orderings by pivot columns keep the connection and the relations. -/
theorem fetchesLike_addOrders (qualified : Bool) (q : Query) :
    q.FetchesLike (m.addOrders qualified q) := by
  unfold addOrders
  generalize m.orders = orders
  induction orders generalizing q with
  | nil => exact ⟨rfl, rfl⟩
  | cons order rest ih =>
    obtain ⟨column, direction⟩ := order
    exact (Query.FetchesLike.orderBy q _ direction).trans (ih _)

/-- The query for the related rows is built where the operators are known. -/
theorem relatedQuery_ok (h : m.Accepted related.dialect) (keys : List Value) :
    ∃ batch, m.relatedQuery keys related = .ok batch ∧ related.FetchesLike batch := by
  have hjoin : related.FetchesLike (m.joinPivot (related.addSelect
      [.name (m.qualifiedForeignKey ++ " as " ++ pivotIdField), .name (m.table ++ ".*")])) :=
    ⟨rfl, rfl⟩
  obtain ⟨q, hq, hlike⟩ := addConditions_ok (m := m) (q := m.joinPivot (related.addSelect
    [.name (m.qualifiedForeignKey ++ " as " ++ pivotIdField), .name (m.table ++ ".*")])) h true
  have horders := fetchesLike_addOrders (m := m) true q
  unfold relatedQuery
  simp only [hq]
  exact ⟨_, rfl, (hjoin.trans hlike).trans (horders.trans ⟨rfl, rfl⟩)⟩

theorem relatedQuery_error (h : ¬ m.Accepted related.dialect) (keys : List Value) :
    ∃ operator, m.relatedQuery keys related = .error (.misuse (.illegalOperator operator)) := by
  obtain ⟨operator, herror⟩ := addConditions_error (m := m) (q := m.joinPivot (related.addSelect
    [.name (m.qualifiedForeignKey ++ " as " ++ pivotIdField), .name (m.table ++ ".*")])) h true
  unfold relatedQuery
  simp only [herror]
  exact ⟨operator, rfl⟩

/-- The query for the pivot rows is built where the operators are known. -/
theorem pivotQuery_ok (h : m.Accepted c.dialect) (keys : List Value) :
    ∃ batch, m.pivotQuery keys c = .ok batch ∧
      (Query.table c m.pivotTable).FetchesLike batch := by
  obtain ⟨q, hq, hlike⟩ := addConditions_ok (m := m) (q := Query.table c m.pivotTable) h false
  have horders := fetchesLike_addOrders (m := m) false q
  unfold pivotQuery
  simp only [hq]
  exact ⟨_, rfl, hlike.trans (horders.trans ⟨rfl, rfl⟩)⟩

end ManyToMany

/-! ## Loading -/

variable {r : Relation} {m : ManyToMany} {c : Connection} {related : Query}
  {parents rows pivots : List Record} {s : Session}

/-- Both queries are one statement each, and their answers are handed out. -/
theorem fetch_attach_pivoted (haccepted : m.Accepted c.dialect)
    (hconnection : related.connection = c) (hloads : related.eagerLoads = [])
    (hattached : c.attached = true) (hrows : s.answer = .ok rows)
    (hpivots : s.secondAnswer = .ok pivots) (name : String) (parents : List Record)
    (keys : List Value) (depth : Nat) :
    ∃ sql vs sql' vs',
      (Run.ofExcept (m.relatedQuery keys related) >>= fun batch =>
        Query.fetchWithin depth batch >>= fun rows =>
          Run.ofExcept (m.pivotQuery keys c) >>= fun pivotBatch =>
            Query.fetchWithin depth pivotBatch >>= fun pivots =>
              pure (m.attach name c.config.pivotKey parents rows pivots) : Run _) s =
        (.ok (m.attach name c.config.pivotKey parents rows pivots),
          (s.sending sql vs).sending sql' vs') := by
  have hdialect : related.dialect = c.dialect := congrArg Connection.dialect hconnection
  obtain ⟨batch, hbatch, hlike⟩ := ManyToMany.relatedQuery_ok (hdialect ▸ haccepted) keys
  obtain ⟨pivotBatch, hpivotBatch, hpivotLike⟩ := ManyToMany.pivotQuery_ok haccepted keys
  have hfetch := Query.fetchWithin_apply (hlike.eagerLoads.trans hloads)
    (by rw [hlike.connection, hconnection, hattached]) depth s
  have hpivotFetch := Query.fetchWithin_apply hpivotLike.eagerLoads
    (by rw [hpivotLike.connection]; exact hattached) depth (s.sending batch.sql batch.values)
  rw [hrows] at hfetch
  rw [Session.answer_sending, hpivots] at hpivotFetch
  refine ⟨batch.sql, batch.values, pivotBatch.sql, pivotBatch.values, ?_⟩
  rw [hbatch, hpivotBatch]
  -- the second query starts in the session in which the first has ended
  refine (bind_apply_ok hfetch).trans ?_
  exact bind_apply_ok hpivotFetch

/-- A condition on the pivot table with an operator that the dialect does not know fails before
anything is sent. -/
theorem load_unaccepted (name : String) (depth : Nat) (hlink : r.link = .belongsToMany m)
    (hkeys : parentKeys r.link.parentKey parents ≠ []) (hscope : runRelation r c = .ok related)
    (hunaccepted : ¬ m.Accepted c.dialect) :
    ∃ operator, r.load (Query.fetchWithin depth) c name parents s =
      (.error (.misuse (.illegalOperator operator)), s) := by
  have hdialect : related.dialect = c.dialect :=
    congrArg Connection.dialect (connection_of_runRelation hscope)
  have hsome : (parentKeys r.link.parentKey parents).isEmpty = false := by
    rw [List.isEmpty_eq_false_iff]
    exact hkeys
  rw [← hdialect] at hunaccepted
  rw [hlink] at hsome
  obtain ⟨operator, herror⟩ :=
    ManyToMany.relatedQuery_error hunaccepted (parentKeys (Link.belongsToMany m).parentKey parents)
  refine ⟨operator, ?_⟩
  unfold Relation.load
  simp only [hlink, hsome, hscope]
  show (Run.ofExcept (m.relatedQuery _ related) >>= _ : Run _) s = _
  rw [herror]
  rfl

/-- Loading a link through a pivot table whose scope succeeds and loads no relations itself:
whatever rows and pivot rows the two queries are answered with, each parent carries what comparing
gives it, and each related row the first pivot row that links the two. -/
theorem load_pivoted (name : String) (depth : Nat) (parents rows pivots : List Record) (s : Session)
    (hlink : r.link = .belongsToMany m) (hscope : runRelation r c = .ok related)
    (hloads : related.eagerLoads = []) (hattached : c.attached = true)
    (haccepted : m.Accepted c.dialect) (hrelated : m.relatedKey ≠ pivotIdField)
    (hpivot : c.config.pivotKey ≠ pivotIdField) (hrows : s.answer = .ok rows)
    (hpivots : s.secondAnswer = .ok pivots) :
    ∃ item loaded s', r.load (Query.fetchWithin depth) c name parents s = (.ok loaded, s') ∧
      m.Loads name c.config.pivotKey parents rows pivots item loaded ∧
      (s' = s ∨ ∃ sql vs sql' vs', s' = (s.sending sql vs).sending sql' vs') := by
  have hattach := ManyToMany.loads_attach name hrelated hpivot parents rows pivots
  refine ⟨m.itemOf c.config.pivotKey pivots, m.attach name c.config.pivotKey parents rows pivots,
    ?_⟩
  by_cases hkeys : parentKeys r.link.parentKey parents = []
  · -- nothing is sent, and what the answers would have been hands out nothing either
    have hnothing : (parents.map fun parent => parent.set name r.link.nothing) =
        m.attach name c.config.pivotKey parents rows pivots := by
      have hparentKey : r.link.parentKey = m.localKey := congrArg Link.parentKey hlink
      rw [ManyToMany.attach_eq]
      refine List.map_congr_left fun parent hparent => ?_
      have hnone : rowKey? m.localKey parent = none :=
        hparentKey ▸ parentKeys_eq_nil.mp hkeys parent hparent
      rw [relatedTo_of_none hnone, hlink]
      rfl
    rw [load_of_no_keys _ name hkeys, hnothing]
    exact ⟨s, rfl, hattach, .inl rfl⟩
  · have hsome : (parentKeys r.link.parentKey parents).isEmpty = false := by
      rw [List.isEmpty_eq_false_iff]
      exact hkeys
    obtain ⟨sql, vs, sql', vs', hrun⟩ := fetch_attach_pivoted haccepted
      (connection_of_runRelation hscope) hloads hattached hrows hpivots name parents
      (parentKeys r.link.parentKey parents) depth
    refine ⟨_, ?_, hattach, .inr ⟨sql, vs, sql', vs', rfl⟩⟩
    rw [hlink] at hsome hrun
    unfold Relation.load
    simp only [hlink, hsome, hscope]
    exact hrun

/-- The active roles of a user. -/
def activeRoles : ManyToMany :=
  { table := "roles", pivotTable := "role_user", foreignPivotKey := "user_id"
    relatedPivotKey := "role_id", conditions := [.compare "active" "=" (.value (.bool true))] }

/-- One role of two users. -/
def sharedRole : List Record :=
  [[("_pivot_id", .ofInt 1), ("id", .ofInt 10)], [("_pivot_id", .ofInt 2), ("id", .ofInt 10)]]

/-- The first user has the role twice; a pivot row for the second is missing. -/
def repeatedPivot : List Record :=
  [[("user_id", .text "1"), ("role_id", .ofInt 10), ("level", .text "a")],
    [("user_id", .text "1"), ("role_id", .ofInt 10), ("level", .text "b")]]

/-- The first user gets the role with the first of two pivot rows, the second with null. -/
theorem load_pivoted_roles :
    ∃ item loaded s',
      (Relation.mk (.belongsToMany activeRoles) []).load (Query.fetchWithin 0) { attached := true }
        "roles" [[("id", .ofInt 1)], [("id", .ofInt 2)]]
        { rows := [.ok sharedRole, .ok repeatedPivot] } = (.ok loaded, s') ∧
      loaded = [
        [("id", .ofInt 1), ("roles", .list [.record [("id", .ofInt 10), ("pivot_table",
          .record [("user_id", .text "1"), ("role_id", .ofInt 10), ("level", .text "a")])]])],
        [("id", .ofInt 2),
          ("roles", .list [.record [("id", .ofInt 10), ("pivot_table", .null)]])]] ∧
      activeRoles.Loads "roles" "pivot_table" [[("id", .ofInt 1)], [("id", .ofInt 2)]] sharedRole
        repeatedPivot item loaded := by
  have haccepted : activeRoles.Accepted .mysql := by
    intro condition hcondition
    obtain rfl := List.mem_singleton.mp hcondition
    exact rfl
  obtain ⟨item, loaded, s', hrun, hloads, _⟩ := load_pivoted
    (r := Relation.mk (.belongsToMany activeRoles) []) (c := { attached := true }) "roles" 0
    [[("id", .ofInt 1)], [("id", .ofInt 2)]] sharedRole repeatedPivot
    { rows := [.ok sharedRole, .ok repeatedPivot] } rfl rfl rfl rfl haccepted (by decide)
    (by decide) rfl rfl
  refine ⟨item, loaded, s', hrun, ?_, hloads⟩
  exact (Except.ok.inj (congrArg Prod.fst hrun)).symm

end QueryBuilder
