import QueryBuilder.Proofs.PivotLinks
import QueryBuilder.Proofs.Precedence

/-!
# Related rows and the row around them

A query for related rows stands inside another and is tied to that one's current row by a comparison
of two columns. The comparison comes last, behind the conditions of the relation's scope and those
on the pivot table, and it names the query around it by the name of that one's source.

- `Link.correlation`: the comparison. `Link.Correlates` says what else correlating adds to a query.
- `restrictedTo_correlation_iff`: the related rows are restricted to the current row exactly for a
  scope in which no condition but the first is tied with an `or`.
- `Query.names`, `resolve`: the names that a query introduces, and which of nested queries a name
  stands for. `resolve_outer_iff` says for which relations the name of the query around is not
  captured.
-/

namespace QueryBuilder

/-! ## Conditions -/

/-- The column of the related rows, or of their pivot rows, that holds what the parent's key is
compared with. -/
def Link.tiedColumn : Link → String
  | hasOne table foreignKey _ => table ++ "." ++ foreignKey
  | hasMany table foreignKey _ => table ++ "." ++ foreignKey
  | belongsTo table _ ownerKey => table ++ "." ++ ownerKey
  | belongsToMany m => m.pivotTable ++ "." ++ m.foreignPivotKey

/-- The condition that a related row belongs to the current row of the query around it, whose
columns are qualified by `outer`. -/
def Link.correlation (l : Link) (outer : String) : Predicate :=
  .compareColumns (.name l.tiedColumn) "=" (.name (outer ++ "." ++ l.parentKey))

/-- The dialect knows the operators of all conditions on the pivot table, if there is one. -/
def Link.Accepted (l : Link) (d : Dialect) : Prop :=
  match l with
  | .belongsToMany m => m.Accepted d
  | _ => True

/-- What a relation joins to the query for related rows. -/
def Link.pivotSources : Link → List Source
  | .belongsToMany m => [.table m.pivotTable]
  | _ => []

/-! ## Names -/

mutual

/-- The names under which a join makes columns available. -/
def Join.names : Join → List String
  | ⟨_, source, _, joins⟩ => source.qualifier :: joinNames joins

/-- The names under which joins make columns available. -/
def joinNames : List Join → List String
  | [] => []
  | j :: rest => j.names ++ joinNames rest

end

theorem joinNames_append (js ks : List Join) :
    joinNames (js ++ ks) = joinNames js ++ joinNames ks := by
  induction js with
  | nil => rfl
  | cons j js ih => rw [List.cons_append, joinNames, joinNames, ih, List.append_assoc]

/-- The names under which a query makes columns available: of its source and of its joins. -/
def Query.names (q : Query) : List String :=
  (q.source.map Source.qualifier).toList ++ joinNames q.joins

/-- A query with further conditions, each of them tied with `and`. -/
structure Query.Narrows (q q' : Query) : Prop where
  wheres : ∃ added, q'.wheres = q.wheres ++ added ∧ ∀ c ∈ added, c.connector = .and
  names : q'.names = q.names

/-- A condition tied with `and` narrows a query. -/
theorem Query.narrows_addWhere (q : Query) (p : Predicate) : q.Narrows (q.addWhere .and p) where
  wheres := ⟨[⟨.and, p⟩], rfl, by simp⟩
  names := rfl

theorem Query.narrows_bind (q : Query) (vs : List Value) (p : Predicate) :
    q.Narrows ((q.bind .wheres vs).addWhere .and p) where
  wheres := ⟨[⟨.and, p⟩], rfl, by simp⟩
  names := rfl

/-- A query that is narrowed twice is narrowed by the conditions of both. -/
theorem Query.Narrows.trans {q q' q'' : Query} (h : q.Narrows q') (h' : q'.Narrows q'') :
    q.Narrows q'' where
  wheres := by
    obtain ⟨added, hadded, hand⟩ := h.wheres
    obtain ⟨added', hadded', hand'⟩ := h'.wheres
    refine ⟨added ++ added', by rw [hadded', hadded, List.append_assoc], fun c hc => ?_⟩
    rcases List.mem_append.mp hc with hc | hc
    · exact hand c hc
    · exact hand' c hc
  names := h'.names.trans h.names

namespace ManyToMany

variable {m : ManyToMany} {q q' : Query}

/-- A condition on the pivot table narrows the query, whatever its sort: it is always tied with
`and`. -/
theorem narrows_addCondition {qualified : Bool} {condition : PivotCondition}
    (h : m.addCondition qualified q condition = .ok q') : q.Narrows q' := by
  -- a comparison alone can fail, so only its success has to be taken apart
  cases condition with
  | compare column operator value =>
    obtain ⟨known, _, hcompared⟩ := bind_eq_ok.mp h
    by_cases hnull : value.isNull = true
    · -- a null value asks for null and binds nothing
      exact Except.ok.inj ((if_pos hnull).symm.trans hcompared) ▸ q.narrows_addWhere _
    · exact Except.ok.inj ((if_neg hnull).symm.trans hcompared) ▸ q.narrows_bind _ _
  | isIn column values negated => exact Except.ok.inj h ▸ q.narrows_bind _ _
  | between column low high negated => exact Except.ok.inj h ▸ q.narrows_bind _ _
  | isNull column negated => exact Except.ok.inj h ▸ q.narrows_addWhere _

theorem narrows_addConditions {qualified : Bool} (h : m.addConditions qualified q = .ok q') :
    q.Narrows q' := by
  have hstart : q.Narrows q := ⟨⟨[], by simp, by simp⟩, rfl⟩
  exact foldlM_keeps (fun _ _ _ _ hb hb' => hb.trans (narrows_addCondition hb')) hstart h

/-- Joining the pivot table adds its name behind all others. -/
theorem names_joinPivot (m : ManyToMany) (q : Query) :
    (m.joinPivot q).names = q.names ++ [(Source.table m.pivotTable).qualifier] := by
  -- the condition of the join adds no name, so its tree is left open
  show (q.source.map Source.qualifier).toList ++ joinNames (q.joins ++ [_]) = _
  rw [joinNames_append, ← List.append_assoc]
  rfl

end ManyToMany

/-! ## Correlating -/

namespace Link

/-- What correlating makes of a query for related rows: the conditions on the pivot table and the
one that ties the rows stand behind those that were there, and the pivot table is one more name. -/
structure Correlates (l : Link) (outer : String) (related p : Query) : Prop where
  wheres : ∃ pivots, p.wheres = related.wheres ++ pivots ++ [⟨.and, l.correlation outer⟩] ∧
    ∀ c ∈ pivots, c.connector = .and
  names : p.names = related.names ++ l.pivotSources.map Source.qualifier

variable {l : Link} {related p : Query}

/-- Every dialect knows equality, so that a comparison of two columns by it cannot fail. -/
theorem compareColumns_equals (q : Query) (first second : Column) :
    q.compareColumns .and first "=" second =
      .ok (q.addWhere .and (.compareColumns first "=" second)) := by
  unfold Query.compareColumns
  rw [show q.checkedOperator "=" = .ok "=" from Query.checkedOperator_ok (knows_equals q.dialect)]
  rfl

/-- Without a pivot table there is no condition between those of the scope and the comparison. -/
theorem correlates_direct (outer : String) (hpivots : l.pivotSources = []) :
    l.Correlates outer related (related.addWhere .and (l.correlation outer)) where
  wheres := ⟨[], by rw [List.append_nil]; rfl, by simp⟩
  names := by
    rw [hpivots, List.map_nil, List.append_nil]
    rfl

/-- Correlating fails at most at a condition on the pivot table whose operator is not known. -/
theorem correlate_ok (h : l.Accepted related.dialect) (outer : String) :
    ∃ p, l.correlate outer related = .ok p ∧ l.Correlates outer related p := by
  cases l with
  | hasOne table foreignKey localKey =>
    exact ⟨_, compareColumns_equals _ _ _, correlates_direct outer rfl⟩
  | hasMany table foreignKey localKey =>
    exact ⟨_, compareColumns_equals _ _ _, correlates_direct outer rfl⟩
  | belongsTo table foreignKey ownerKey =>
    exact ⟨_, compareColumns_equals _ _ _, correlates_direct outer rfl⟩
  | belongsToMany m =>
    obtain ⟨q, hq, -⟩ := m.addConditions_ok (q := m.joinPivot related) h true
    have hnarrows := ManyToMany.narrows_addConditions hq
    obtain ⟨pivots, hpivots, hand⟩ := hnarrows.wheres
    refine ⟨_, bind_eq_ok.mpr ⟨q, hq, compareColumns_equals q _ _⟩, ⟨pivots, ?_, hand⟩, ?_⟩
    · show q.wheres ++ _ = _
      rw [hpivots]
      rfl
    · show q.names = _
      rw [hnarrows.names, m.names_joinPivot]
      rfl

/-- A condition on the pivot table with an operator that the dialect does not know is reported. -/
theorem correlate_error (h : ¬ l.Accepted related.dialect) (outer : String) :
    ∃ operator, l.correlate outer related = .error (.misuse (.illegalOperator operator)) := by
  -- only a link through a pivot table has conditions that can be unknown
  cases l with
  | belongsToMany m =>
    obtain ⟨operator, hoperator⟩ := m.addConditions_error (q := m.joinPivot related) h true
    refine ⟨operator, ?_⟩
    show (m.addConditions true (m.joinPivot related) >>= _) = _
    rw [hoperator]
    rfl
  | _ => exact absurd trivial h

/-- Whenever correlating succeeds, it has done no more than `Link.Correlates` says. -/
theorem correlates_of_correlate {outer : String} (h : l.correlate outer related = .ok p) :
    l.Correlates outer related p := by
  by_cases haccepted : l.Accepted related.dialect
  · obtain ⟨p', hp', hcorrelates⟩ := correlate_ok haccepted outer
    rw [h] at hp'
    exact Except.ok.inj hp' ▸ hcorrelates
  · obtain ⟨operator, herror⟩ := correlate_error haccepted outer
    rw [h] at herror
    exact nomatch herror

end Link

/-- Whatever the scope of a relation has made of the query for its rows, and whatever query stands
around: correlating fails at most at an unknown operator, and every row that satisfies the
conditions is related to the current row exactly if no condition of the scope but the first is tied
with an `or`. -/
theorem restrictedTo_correlation_iff (l : Link) (q related : Query) :
    (¬ l.Accepted related.dialect → ∃ operator,
      l.correlate q.qualifier related = .error (.misuse (.illegalOperator operator))) ∧
    (l.Accepted related.dialect → ∃ p pivots, l.correlate q.qualifier related = .ok p ∧
      p.wheres = related.wheres ++ pivots ++ [⟨.and, l.correlation q.qualifier⟩] ∧
      (∀ c ∈ pivots, c.connector = .and) ∧
      (RestrictedTo p.wheres (l.correlation q.qualifier) ↔ Conjoined related.wheres)) := by
  refine ⟨fun h => Link.correlate_error h _, fun h => ?_⟩
  obtain ⟨p, hp, hcorrelates⟩ := Link.correlate_ok h q.qualifier
  obtain ⟨pivots, hwheres, hpivots⟩ := hcorrelates.wheres
  refine ⟨p, pivots, hp, hwheres, hpivots, ?_⟩
  -- all behind the scope is tied with `and`, so the scope alone decides
  rw [hwheres, restrictedTo_iff]
  exact conjoined_append hpivots

/-- Posts that are both published and pinned. -/
def pinnedPosts : Relation :=
  ⟨.hasMany "posts" "user_id" "id",
    [.whereRaw .and "published" [], .whereRaw .and "pinned" []]⟩

/-- Posts of which one of two things holds. -/
def visiblePosts : Relation :=
  ⟨.hasMany "posts" "user_id" "id", [.whereRaw .and "published" [], .whereRaw .or "pinned" []]⟩

/-- A scope whose conditions are tied with `and` leaves each user the posts of that user. -/
theorem restrictedTo_correlation_pinned :
    ∃ related p, runRelation pinnedPosts {} = .ok related ∧
      pinnedPosts.link.correlate "users" related = .ok p ∧
      RestrictedTo p.wheres (pinnedPosts.link.correlation "users") := by
  obtain ⟨related, hscope⟩ : ∃ related, runRelation pinnedPosts {} = .ok related := ⟨_, rfl⟩
  have hconjoined : Conjoined related.wheres := by
    cases hscope
    intro c hc
    rw [List.mem_singleton.mp hc]
    rfl
  obtain ⟨p, _, hp, _, _, hrestricted⟩ :=
    (restrictedTo_correlation_iff pinnedPosts.link (.table {} "users") related).2 trivial
  exact ⟨related, p, hscope, hp, hrestricted.mpr hconjoined⟩

/-- The published posts of all users count for each of them: the `or` of the scope leaves the
comparison with the current user to the second condition alone. -/
theorem unrestricted_correlation_visible :
    ∃ related p, runRelation visiblePosts {} = .ok related ∧
      visiblePosts.link.correlate "users" related = .ok p ∧
      conditionsText .mysql p.wheres =
        "published or pinned and \x60posts\x60.\x60user_id\x60 = \x60users\x60.\x60id\x60" ∧
      ¬ RestrictedTo p.wheres (visiblePosts.link.correlation "users") := by
  refine ⟨_, _, rfl, rfl, by decide +kernel, fun hrestricted => ?_⟩
  have hconjoined := restrictedTo_iff.mp hrestricted
  -- the second condition of the scope is tied with an `or`
  have hor := hconjoined ⟨.or, .raw "pinned"⟩ List.mem_cons_self
  exact Bool.noConfusion hor

/-! ## Resolution -/

/-- Which of nested queries a name stands for, the innermost first: the nearest that introduces
it. -/
def resolve (scopes : List (List String)) (name : String) : Option Nat :=
  scopes.findIdx? fun names => names.contains name

/-- A name that the innermost query introduces stands for that query. -/
theorem resolve_inner {inner : List String} {name : String} (outer : List (List String))
    (h : name ∈ inner) : resolve (inner :: outer) name = some 0 := by
  unfold resolve
  rw [List.findIdx?_cons, if_pos (List.contains_iff_mem.mpr h)]

/-- A name that only the query around introduces stands for that one. -/
theorem resolve_outer {inner outer : List String} {name : String} (hinner : name ∉ inner)
    (houter : name ∈ outer) : resolve [inner, outer] name = some 1 := by
  unfold resolve
  have hinner' : ¬ inner.contains name = true := fun h => hinner (List.contains_iff_mem.mp h)
  rw [List.findIdx?_cons, if_neg hinner', List.findIdx?_cons,
    if_pos (List.contains_iff_mem.mpr houter)]
  rfl

/-- A query with a source introduces the name of its source. -/
theorem Query.qualifier_mem_names {q : Query} {source : Source} (h : q.source = some source) :
    q.qualifier ∈ q.names := by
  unfold qualifier names
  rw [h]
  exact List.mem_append_left _ List.mem_cons_self

/-- The name of the query around stands in the last condition of the query for related rows. There
it stands for the query around exactly if neither that query's own source and joins nor the pivot
table have the name; otherwise it stands for the related rows themselves, which it always does if
both read from the same source. -/
theorem resolve_outer_iff {l : Link} {q related p : Query} {source : Source}
    (hsource : q.source = some source) (hp : l.correlate q.qualifier related = .ok p) :
    (∃ others, p.wheres = others ++ [⟨.and, .compareColumns (.name l.tiedColumn) "="
      (.name (q.qualifier ++ "." ++ l.parentKey))⟩]) ∧
    (resolve [p.names, q.names] q.qualifier = some 1 ↔
      q.qualifier ∉ related.names ∧ ∀ pivot ∈ l.pivotSources, q.qualifier ≠ pivot.qualifier) ∧
    (resolve [p.names, q.names] q.qualifier = some 0 ↔
      q.qualifier ∈ related.names ∨ ∃ pivot ∈ l.pivotSources, q.qualifier = pivot.qualifier) ∧
    (related.source = q.source → resolve [p.names, q.names] q.qualifier = some 0) := by
  have hcorrelates := Link.correlates_of_correlate hp
  obtain ⟨pivots, hwheres, -⟩ := hcorrelates.wheres
  -- the names of the related query once the pivot table is joined
  have hmem : q.qualifier ∈ p.names ↔
      q.qualifier ∈ related.names ∨ ∃ pivot ∈ l.pivotSources, q.qualifier = pivot.qualifier := by
    rw [hcorrelates.names, List.mem_append, List.mem_map]
    simp only [eq_comm]
  have houter := Query.qualifier_mem_names hsource
  -- the query around has the name in any case, so only the inner one decides
  have hcaptured : resolve [p.names, q.names] q.qualifier = some 0 ↔ q.qualifier ∈ p.names := by
    refine ⟨fun hzero => ?_, resolve_inner _⟩
    by_cases hinner : q.qualifier ∈ p.names
    · exact hinner
    · rw [resolve_outer hinner houter] at hzero
      exact absurd hzero (by decide)
  refine ⟨⟨_, hwheres⟩, ?_, hcaptured.trans hmem, fun hsame => ?_⟩
  · have hfree : resolve [p.names, q.names] q.qualifier = some 1 ↔ q.qualifier ∉ p.names := by
      refine ⟨fun hone hinner => ?_, fun hinner => resolve_outer hinner houter⟩
      rw [resolve_inner _ hinner] at hone
      exact absurd hone (by decide)
    rw [hfree, hmem, not_or]
    simp only [not_exists, not_and, ne_eq]
  · have hrelated : q.qualifier = related.qualifier := by
      unfold Query.qualifier
      rw [hsame]
    refine hcaptured.mpr (hmem.mpr (.inl ?_))
    rw [hrelated]
    exact Query.qualifier_mem_names (hsame.trans hsource)

/-- A tree of categories. -/
def subcategories : Link :=
  .hasMany "categories" "parent_id" "id"

/-- Under an alias the parent keeps its own name. -/
theorem resolve_outer_aliased :
    ∃ p, subcategories.correlate "parents" (.table {} "categories") = .ok p ∧
      resolve [p.names, ["parents"]] "parents" = some 1 := by
  obtain ⟨p, hp⟩ : ∃ p, subcategories.correlate "parents" (.table {} "categories") = .ok p :=
    ⟨_, rfl⟩
  refine ⟨p, hp, ?_⟩
  have hresolve := resolve_outer_iff (q := .fromAs (.on {}) "categories" "parents") rfl hp
  exact hresolve.2.1.mpr ⟨by decide, by decide⟩

/-- A category is asked for children and is compared with itself. -/
theorem captured_subcategories :
    ∃ p, subcategories.correlate "categories" (.table {} "categories") = .ok p ∧
      conditionsText .mysql p.wheres =
        "\x60categories\x60.\x60parent_id\x60 = \x60categories\x60.\x60id\x60" ∧
      (Query.table {} "categories").qualifier = "categories" ∧
      resolve [p.names, (Query.table {} "categories").names] "categories" = some 0 :=
  ⟨_, rfl, by decide +kernel, by decide +kernel, by decide +kernel⟩

end QueryBuilder
