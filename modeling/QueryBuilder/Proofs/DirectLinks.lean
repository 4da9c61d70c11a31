import QueryBuilder.Proofs.Connections
import QueryBuilder.Proofs.Sessions

/-!
# Loading related rows of direct links

One statement fetches the related rows of all parents, and an index hands them out. The result is
that of comparing each parent with each related row (`load_direct`), for any rows in any order and
for keys of any kind.

- `Record.Sets`: one record is another with a single field given a value.
- `LoadedAs`: parents in their order, each with a single field given a value of its own.
- `relatedTo`: the related rows of a parent, found by comparing it with each of them.
- `Link.relatedValue`: what a parent carries under the name of a direct link.
-/

namespace QueryBuilder

/-! ## Records -/

namespace Record

/-- `after` is `before` with the field `name` set: in its place if there is one, otherwise at the
end. -/
structure Sets (name : String) (v : Value) (before after : Record) : Prop where
  field : get? after name = some v
  others : ∀ other, other ≠ name → get? after other = get? before other
  names : after.map Prod.fst =
    if name ∈ before.map Prod.fst then before.map Prod.fst else before.map Prod.fst ++ [name]

/-- Setting a field keeps the order of the names; a new one comes last. -/
theorem names_set (r : Record) (name : String) (v : Value) :
    (set r name v).map Prod.fst =
      if name ∈ r.map Prod.fst then r.map Prod.fst else r.map Prod.fst ++ [name] := by
  -- on the record: the field is found in front, or in the rest, or not at all
  induction r with
  | nil => rfl
  | cons field rest ih =>
    obtain ⟨key, old⟩ := field
    by_cases hkey : key = name
    · subst hkey
      simp [set]
    · have hne : name ≠ key := Ne.symm hkey
      rw [set, if_neg hkey, List.map_cons, ih]
      by_cases hmem : name ∈ rest.map Prod.fst
      · simp [hmem]
      · simp [hmem, hne]

theorem sets_set (r : Record) (name : String) (v : Value) : Sets name v r (set r name v) where
  field := by simp
  others other hne := by simp [hne]
  names := names_set r name v

end Record

/-- The parents in their places, each with the field `name` set to its value and nothing else
changed. -/
structure LoadedAs (name : String) (value : Record → Value) (parents loaded : List Record) :
    Prop where
  length : loaded.length = parents.length
  rows : ∀ i (hi : i < parents.length) (hi' : i < loaded.length),
    Record.Sets name (value parents[i]) parents[i] loaded[i]

theorem loadedAs_map (name : String) (value : Record → Value) (parents : List Record) :
    LoadedAs name value parents (parents.map fun parent => parent.set name (value parent)) where
  length := List.length_map _
  rows i hi hi' := by
    rw [List.getElem_map]
    exact Record.sets_set parents[i] name (value parents[i])

/-! ## Keys -/

/-- No key is to be fetched exactly if all keys of the rows have been seen. -/
theorem distinctKeys_eq_nil {field : String} {rows : List Record} {seen : List String} :
    distinctKeys field seen rows = [] ↔
      ∀ row ∈ rows, ∀ k, rowKey? field row = some k → k ∈ seen := by
  -- on the rows, for every list of keys seen: a row adds its key to that list
  induction rows generalizing seen with
  | nil => simp [distinctKeys]
  | cons row rest ih =>
    rw [List.forall_mem_cons]
    unfold distinctKeys rowKey?
    cases hv : row.get? field with
    | none => simp [ih, rowKey?]
    | some v =>
      cases hk : v.key? with
      | none => simp [hk, ih, rowKey?]
      | some k =>
        by_cases hseen : k ∈ seen
        · -- a key that is seen already adds nothing to what is asked for
          simp [hk, hseen, ih, rowKey?]
        · simp [hk, hseen]

/-- There is nothing to fetch exactly if no parent has a key. -/
theorem parentKeys_eq_nil {field : String} {rows : List Record} :
    parentKeys field rows = [] ↔ ∀ row ∈ rows, rowKey? field row = none := by
  unfold parentKeys
  rw [distinctKeys_eq_nil]
  simp [Option.eq_none_iff_forall_not_mem]

/-! ## Handing out -/

/-- The related rows whose key is that of the parent; none if the parent has no key. -/
def relatedTo (parentField relatedField : String) (related : List Record) (parent : Record) :
    List Record :=
  related.filter fun row =>
    (rowKey? parentField parent).isSome && rowKey? relatedField row == rowKey? parentField parent

/-- A parent without a key has no related rows. -/
theorem relatedTo_of_none {parentField : String} {parent : Record}
    (h : rowKey? parentField parent = none) (relatedField : String) (related : List Record) :
    relatedTo parentField relatedField related parent = [] := by
  unfold relatedTo
  rw [h]
  simp

/-- The index finds what comparing finds. -/
theorem matching_of (parentField relatedField : String) (related : List Record) (parent : Record) :
    (Index.of relatedField related).matching parentField parent =
      relatedTo parentField relatedField related parent := by
  unfold Index.matching
  split
  · next k hk =>
    rw [Index.find_of]
    unfold relatedTo
    simp [hk]
  · next hnone => rw [relatedTo_of_none hnone]

namespace Link

/-- One of the two tables holds the key of the other. -/
def IsDirect : Link → Prop
  | belongsToMany _ => False
  | _ => True

/-- The value of a parent under the name of a direct link: the first of its related rows or null, or
all of them. -/
def relatedValue (l : Link) (related : List Record) (parent : Record) : Value :=
  match l with
  | hasOne _ foreignKey localKey => firstOrNull (relatedTo localKey foreignKey related parent)
  | hasMany _ foreignKey localKey => allRows (relatedTo localKey foreignKey related parent)
  | belongsTo _ foreignKey ownerKey => firstOrNull (relatedTo foreignKey ownerKey related parent)
  | belongsToMany _ => .null

/-- Under the name of the relation a parent without a key carries null, or an empty list. -/
theorem relatedValue_of_none {l : Link} (hdirect : l.IsDirect) {parent : Record}
    (h : rowKey? l.parentKey parent = none) (related : List Record) :
    l.relatedValue related parent = l.nothing := by
  cases l with
  | hasOne table foreignKey localKey =>
    have hnone := relatedTo_of_none h foreignKey related
    show firstOrNull (relatedTo localKey foreignKey related parent) = .null
    rw [show relatedTo localKey foreignKey related parent = [] from hnone]
    rfl
  | hasMany table foreignKey localKey =>
    have hnone := relatedTo_of_none h foreignKey related
    show allRows (relatedTo localKey foreignKey related parent) = .list []
    rw [show relatedTo localKey foreignKey related parent = [] from hnone]
    rfl
  | belongsTo table foreignKey ownerKey =>
    have hnone := relatedTo_of_none h ownerKey related
    show firstOrNull (relatedTo foreignKey ownerKey related parent) = .null
    rw [show relatedTo foreignKey ownerKey related parent = [] from hnone]
    rfl
  | belongsToMany m => exact hdirect.elim

end Link

/-- Handing out by an index gives each parent what comparing gives it. -/
theorem attach_eq (name parentField relatedField : String) (singular : Bool)
    (parents related : List Record) :
    attach name parentField relatedField singular parents related =
      parents.map fun parent => parent.set name
        (if singular then firstOrNull (relatedTo parentField relatedField related parent)
        else allRows (relatedTo parentField relatedField related parent)) := by
  unfold attach
  simp only [matching_of]

/-! ## Loading -/

variable {r : Relation} {c : Connection} {related : Query} {parents rows : List Record}
  {s : Session}

/-- Without a key among the parents nothing is sent. -/
theorem load_of_no_keys (fetch : Query → Run (List Record)) (name : String)
    (hkeys : parentKeys r.link.parentKey parents = []) :
    r.load fetch c name parents s =
      (.ok (parents.map fun parent => parent.set name r.link.nothing), s) := by
  unfold Relation.load
  rw [hkeys]
  rfl

/-- The batch query is one statement, and its answer is handed out. -/
theorem fetch_attach (hloads : related.eagerLoads = [])
    (hattached : related.connection.attached = true) (hanswer : s.answer = .ok rows)
    (name : String) (parents : List Record) (parentField relatedField : String) (singular : Bool)
    (keys : List Value) (depth : Nat) :
    ∃ sql vs,
      (Run.ofExcept (keyedQuery related relatedField keys) >>= fun batch =>
        Query.fetchWithin depth batch >>= fun rows =>
          pure (attach name parentField relatedField singular parents rows) : Run _) s =
        (.ok (attach name parentField relatedField singular parents rows), s.sending sql vs) := by
  obtain ⟨batch, hbatch, hbatchLoads, hconnection⟩ : ∃ batch,
      keyedQuery related relatedField keys = .ok batch ∧ batch.eagerLoads = related.eagerLoads ∧
        batch.connection = related.connection := ⟨_, rfl, rfl, rfl⟩
  have hfetch := Query.fetchWithin_apply (hbatchLoads.trans hloads)
    ((congrArg Connection.attached hconnection).trans hattached) depth s
  rw [hanswer] at hfetch
  rw [hbatch]
  exact ⟨batch.sql, batch.values, bind_apply_ok hfetch⟩

/-- The rows of the batch query are handed out; it is the only statement. -/
theorem load_of_keys (name : String) (depth : Nat) (hdirect : r.link.IsDirect)
    (hkeys : parentKeys r.link.parentKey parents ≠ []) (hscope : runRelation r c = .ok related)
    (hloads : related.eagerLoads = []) (hattached : c.attached = true)
    (hanswer : s.answer = .ok rows) :
    ∃ sql vs, r.load (Query.fetchWithin depth) c name parents s =
      (.ok (parents.map fun parent => parent.set name (r.link.relatedValue rows parent)),
        s.sending sql vs) := by
  have hrelated : related.connection.attached = true := by
    rw [connection_of_runRelation hscope]
    exact hattached
  have hsome : (parentKeys r.link.parentKey parents).isEmpty = false := by
    rw [List.isEmpty_eq_false_iff]
    exact hkeys
  have hfetch := fetch_attach hloads hrelated hanswer name parents
  unfold Relation.load
  simp only [hsome, hscope]
  -- the three direct links differ in whose key is sought where, and in one or all
  cases hlink : r.link with
  | hasOne table foreignKey localKey =>
    obtain ⟨sql, vs, hrun⟩ := hfetch localKey foreignKey true (parentKeys localKey parents) depth
    rw [attach_eq] at hrun
    exact ⟨sql, vs, hrun⟩
  | hasMany table foreignKey localKey =>
    obtain ⟨sql, vs, hrun⟩ := hfetch localKey foreignKey false (parentKeys localKey parents) depth
    rw [attach_eq] at hrun
    exact ⟨sql, vs, hrun⟩
  | belongsTo table foreignKey ownerKey =>
    obtain ⟨sql, vs, hrun⟩ := hfetch foreignKey ownerKey true (parentKeys foreignKey parents) depth
    rw [attach_eq] at hrun
    exact ⟨sql, vs, hrun⟩
  | belongsToMany m =>
    rw [hlink] at hdirect
    exact hdirect.elim

/-- Loading a direct link whose scope succeeds and loads no relations itself: whatever rows the
batch query is answered with, each parent carries what comparing it with every row gives, and a
parent without a key carries nothing. At most one statement is sent, and none if no parent has a
key, in which case no answer is asked for. -/
theorem load_direct (name : String) (depth : Nat) (parents : List Record) (s : Session)
    (hdirect : r.link.IsDirect) (hscope : runRelation r c = .ok related)
    (hloads : related.eagerLoads = []) (hattached : c.attached = true) :
    (∀ rows, s.answer = .ok rows →
      ∃ loaded s', r.load (Query.fetchWithin depth) c name parents s = (.ok loaded, s') ∧
        LoadedAs name (r.link.relatedValue rows) parents loaded ∧
        (∀ parent ∈ parents, rowKey? r.link.parentKey parent = none →
          r.link.relatedValue rows parent = r.link.nothing) ∧
        (s' = s ∨ ∃ sql vs, s' = s.sending sql vs)) ∧
      ((∀ parent ∈ parents, rowKey? r.link.parentKey parent = none) →
        ∃ loaded, r.load (Query.fetchWithin depth) c name parents s = (.ok loaded, s) ∧
          LoadedAs name (fun _ => r.link.nothing) parents loaded) := by
  constructor
  · intro rows hanswer
    have hnone : ∀ parent ∈ parents, rowKey? r.link.parentKey parent = none →
        r.link.relatedValue rows parent = r.link.nothing :=
      fun parent _ hkey => Link.relatedValue_of_none hdirect hkey rows
    by_cases hkeys : parentKeys r.link.parentKey parents = []
    · -- nothing is sent, and what the answer would have been hands out nothing either
      have hnothing : (parents.map fun parent => parent.set name r.link.nothing) =
          parents.map fun parent => parent.set name (r.link.relatedValue rows parent) := by
        refine List.map_congr_left fun parent hparent => ?_
        rw [hnone parent hparent (parentKeys_eq_nil.mp hkeys parent hparent)]
      rw [load_of_no_keys _ name hkeys, hnothing]
      exact ⟨_, s, rfl, loadedAs_map name _ parents, hnone, .inl rfl⟩
    · obtain ⟨sql, vs, hrun⟩ :=
        load_of_keys name depth hdirect hkeys hscope hloads hattached hanswer
      exact ⟨_, _, hrun, loadedAs_map name _ parents, hnone, .inr ⟨sql, vs, rfl⟩⟩
  · intro hkeys
    rw [load_of_no_keys _ name (parentKeys_eq_nil.mpr hkeys)]
    exact ⟨_, rfl, loadedAs_map name _ parents⟩

/-- Users with their published posts: the second user has no key, and the first one's is a text. -/
def publishedPosts : Relation :=
  ⟨.hasMany "posts" "user_id" "id", [.whereRaw .and "published" []]⟩

/-- The name of the relation is that of a column that is there already. -/
def twoUsers : List Record :=
  [[("posts", .null), ("id", .text "1")], [("id", .null)]]

/-- Posts whose keys are numbers. -/
def twoPosts : List Record :=
  [[("user_id", .ofInt 1)], [("user_id", .ofInt 2)]]

/-- A number and a text are one key, and the parent without a key carries an empty list. -/
theorem load_direct_posts :
    ∃ loaded s',
      publishedPosts.load (Query.fetchWithin 0) { attached := true } "posts" twoUsers
        { rows := [.ok twoPosts] } = (.ok loaded, s') ∧
      loaded.length = 2 ∧
      loaded.head? = some [("posts", .list [.record [("user_id", .ofInt 1)]]), ("id", .text "1")] ∧
      LoadedAs "posts" (publishedPosts.link.relatedValue twoPosts) twoUsers loaded := by
  have hscope : runRelation publishedPosts { attached := true } =
      .ok ((Query.table { attached := true } "posts").whereRaw .and "published" []) := rfl
  have hdirect : publishedPosts.link.IsDirect := trivial
  have hload := load_direct "posts" 0 twoUsers { rows := [.ok twoPosts] } hdirect hscope rfl rfl
  obtain ⟨loaded, s', hrun, hloaded, _⟩ := hload.1 twoPosts rfl
  have hresult : (publishedPosts.load (Query.fetchWithin 0) { attached := true } "posts" twoUsers
      { rows := [.ok twoPosts] }).1 = .ok [[("posts", .list [.record [("user_id", .ofInt 1)]]),
        ("id", .text "1")], [("id", .null), ("posts", .list [])]] := rfl
  rw [hrun] at hresult
  refine ⟨loaded, s', hrun, hloaded.length, ?_, hloaded⟩
  rw [Except.ok.inj hresult]
  rfl

end QueryBuilder
