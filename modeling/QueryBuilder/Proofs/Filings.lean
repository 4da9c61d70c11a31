import QueryBuilder.Proofs.StatementText

/-!
# What the clauses of a query have received

The values that a query binds are filed clause by clause: added, appended, put in place of what was
there, removed, or taken over from the values of another query. Adding spreads a list by one level
only, and flattening spreads whatever is left, so the scalars of a clause are those of the values it
was given, however deep they lie, back to the last time it was emptied or replaced.

- `Value.parts`, `Value.leaves_eq`: the scalars inside a value, one level at a time.
- `Filing`: one change of the filed values. The values that a merge takes over have a history of
  their own.
- `received`: what a clause was given since it was last reset, read off the history.
- `Filing.scalars_file`, `scalars_fileAll`: what one change and a whole history leave in a clause.
- `Bindings.merge_assoc`, `Bindings.merge_empty`, `Bindings.empty_merge`: merging is a monoid.
- `clauses_hold_what_they_received`: what flattening yields after any history.
-/

namespace QueryBuilder

/-! ## One level of a value -/

namespace Value

/-- The values directly inside a value: the items of a list, the values of a record's fields. -/
def parts : Value → List Value
  | .list items => items
  | .record fields => fields.map Prod.snd
  | _ => []

/-- The leaves of fields are those of their values, the names left aside. -/
theorem leavesOfFields_eq_flatMap (fields : List (String × Value)) :
    leavesOfFields fields = (fields.map Prod.snd).flatMap leaves := by
  induction fields with
  | nil => rfl
  | cons field rest ih => rw [leavesOfFields, List.map_cons, List.flatMap_cons, ih]

/-- A value without parts is its own only leaf; the leaves of another are those of its parts, left
to right. -/
theorem leaves_eq (v : Value) : v.leaves = if v.isScalar then [v] else v.parts.flatMap leaves := by
  cases v with
  | list items => exact leavesOfItems_eq_flatMap items
  | record fields => exact leavesOfFields_eq_flatMap fields
  | _ => exact leaves_of_isScalar rfl

/-- Leaves are spread no further. -/
theorem leaves_flatMap_leaves (vs : List Value) :
    (vs.flatMap leaves).flatMap leaves = vs.flatMap leaves := by
  refine flatMap_leaves_of_spread fun w hw => ?_
  obtain ⟨v, -, hw⟩ := List.mem_flatMap.mp hw
  exact leaves_of_mem_leaves v w hw

end Value

/-! ## Scalars of a clause -/

namespace Bindings

/-- The scalars inside the values of a clause. -/
def scalars (b : Bindings) (c : Clause) : List Value :=
  (b.get c).flatMap Value.leaves

@[simp] theorem scalars_empty (c : Clause) : ({} : Bindings).scalars c = [] := by
  cases c <;> rfl

/-- Setting one clause gives it the scalars of the new values, and leaves the others. -/
@[simp] theorem scalars_set (b : Bindings) (c d : Clause) (vs : List Value) :
    (b.set d vs).scalars c = if d = c then vs.flatMap Value.leaves else b.scalars c := by
  unfold scalars
  rw [get_set]
  by_cases h : d = c
  · rw [if_pos h, if_pos h.symm]
  · rw [if_neg h, if_neg (Ne.symm h)]

@[simp] theorem scalars_clear (b : Bindings) (c d : Clause) :
    (b.clear d).scalars c = if d = c then [] else b.scalars c :=
  scalars_set b c d []

/-- Values that are appended to a clause append their scalars. -/
@[simp] theorem scalars_extend (b : Bindings) (c d : Clause) (vs : List Value) :
    (b.extend d vs).scalars c =
      b.scalars c ++ if d = c then vs.flatMap Value.leaves else [] := by
  unfold extend
  rw [scalars_set]
  split
  next h => rw [h, List.flatMap_append]; rfl
  next => rw [List.append_nil]

/-- Adding spreads a list into its items; its scalars are the same. -/
@[simp] theorem scalars_add (b : Bindings) (c d : Clause) (v : Value) :
    (b.add d v).scalars c = b.scalars c ++ if d = c then v.leaves else [] := by
  cases v with
  | list items =>
    rw [Value.leaves, Value.leavesOfItems_eq_flatMap]
    exact scalars_extend b c d items
  | _ =>
    refine (scalars_extend b c d [_]).trans ?_
    rw [List.flatMap_singleton]

@[simp] theorem scalars_merge (b other : Bindings) (c : Clause) :
    (b.merge other).scalars c = b.scalars c ++ other.scalars c := by
  unfold scalars
  rw [get_merge, List.flatMap_append]

/-- Flattening lists the scalars of the clauses that are not left out, in the order of the
statement. -/
theorem flattenExcept_eq (b : Bindings) (excluded : List Clause) :
    b.flattenExcept excluded = (Clause.all.filter (· ∉ excluded)).flatMap b.scalars := by
  unfold flattenExcept scalars
  simp only [List.contains_eq_mem, decide_not]

/-- Whatever flattening yields is a scalar. -/
theorem isScalar_of_mem_flattenExcept {b : Bindings} {excluded : List Clause} {v : Value}
    (hv : v ∈ b.flattenExcept excluded) : v.isScalar = true := by
  obtain ⟨c, -, hv⟩ := List.mem_flatMap.mp hv
  obtain ⟨w, -, hv⟩ := List.mem_flatMap.mp hv
  exact Value.isScalar_of_mem_leaves w v hv

/-- What a clause holds may be flattened beforehand. -/
theorem scalars_set_scalars (b : Bindings) (c d : Clause) :
    (b.set d (b.scalars d)).scalars c = b.scalars c := by
  rw [scalars_set]
  split
  next h => rw [h]; exact Value.leaves_flatMap_leaves _
  next => rfl

/-- Leaving clauses out is the same as emptying them first. -/
theorem flattenExcept_eq_flatten_clear (b : Bindings) (excluded : List Clause) :
    b.flattenExcept excluded = (excluded.foldl clear b).flatten := by
  have hcleared : (excluded.foldl clear b).scalars =
      fun c => if c ∈ excluded then [] else b.scalars c := by
    funext c
    unfold scalars
    rw [get_foldl_clear]
    split <;> rfl
  -- a clause that is filtered out contributes what an empty one does
  have hfilter : ∀ cs : List Clause,
      (cs.filter (· ∉ excluded)).flatMap b.scalars =
        cs.flatMap fun c => if c ∈ excluded then [] else b.scalars c := by
    intro cs
    induction cs with
    | nil => rfl
    | cons c cs ih =>
      rw [List.flatMap_cons]
      by_cases hc : c ∈ excluded
      · rw [List.filter_cons_of_neg (by simpa using hc), if_pos hc, ih]
        rfl
      · rw [List.filter_cons_of_pos (by simpa using hc), if_neg hc, List.flatMap_cons, ih]
  have hnone : Clause.all.filter (· ∉ ([] : List Clause)) = Clause.all := rfl
  unfold flatten
  rw [flattenExcept_eq, flattenExcept_eq, hcleared, hfilter, hnone]

/-! ## Merging -/

theorem merge_assoc (a b c : Bindings) : (a.merge b).merge c = a.merge (b.merge c) := by
  refine ext_get fun clause => ?_
  simp only [get_merge, List.append_assoc]

theorem merge_empty (b : Bindings) : b.merge {} = b := by
  refine ext_get fun clause => ?_
  rw [get_merge]
  cases clause <;> exact List.append_nil _

theorem empty_merge (b : Bindings) : merge {} b = b := by
  refine ext_get fun clause => ?_
  rw [get_merge]
  cases clause <;> rfl

end Bindings

/-! ## Histories -/

/-- One change of the values of a query. A merge takes over what a history of its own has filed. -/
inductive Filing where
  | add (c : Clause) (v : Value)
  | extend (c : Clause) (vs : List Value)
  | set (c : Clause) (vs : List Value)
  | clear (c : Clause)
  | merge (other : List Filing)

mutual

/-- Makes a change. -/
def Filing.file : Filing → Bindings → Bindings
  | .add c v, b => b.add c v
  | .extend c vs, b => b.extend c vs
  | .set c vs, b => b.set c vs
  | .clear c, b => b.clear c
  | .merge other, b => b.merge (fileAll other {})

/-- Makes changes one after another. -/
def fileAll : List Filing → Bindings → Bindings
  | [], b => b
  | f :: rest, b => fileAll rest (f.file b)

end

/-- The change does away with what a clause held. -/
def Filing.resets (c : Clause) : Filing → Bool
  | .set d _ => d = c
  | .clear d => d = c
  | _ => false

mutual

/-- The values that a change gives to a clause, as they are handed over. -/
def Filing.given (c : Clause) : Filing → List Value
  | .add d v => if d = c then [v] else []
  | .extend d vs => if d = c then vs else []
  | .set d vs => if d = c then vs else []
  | .clear _ => []
  | .merge other => received c other

/-- The values that a clause has been given since it was last reset. -/
def received (c : Clause) : List Filing → List Value
  | [] => []
  | f :: rest =>
    if rest.any (Filing.resets c) then received c rest else f.given c ++ received c rest

end

mutual

/-- A change leaves the scalars of a clause, unless it resets it, and appends those of what it gives
to it. -/
theorem Filing.scalars_file (c : Clause) (b : Bindings) : ∀ f : Filing,
    (f.file b).scalars c = (if f.resets c then [] else b.scalars c) ++
      (f.given c).flatMap Value.leaves
  | .add d v => by
    rw [Filing.file, Bindings.scalars_add, Filing.given]
    split <;> simp [Filing.resets]
  | .extend d vs => by
    rw [Filing.file, Bindings.scalars_extend, Filing.given]
    split <;> simp [Filing.resets]
  | .set d vs => by
    rw [Filing.file, Bindings.scalars_set, Filing.given]
    split <;> simp [Filing.resets, *]
  | .clear d => by
    rw [Filing.file, Bindings.scalars_clear, Filing.given]
    split <;> simp [Filing.resets, *]
  | .merge other => by
    -- the history of what is taken over starts from nothing
    rw [Filing.file, Bindings.scalars_merge, Filing.given, scalars_fileAll c {} other,
      Bindings.scalars_empty, ite_self]
    rfl

/-- After a history the clause holds the scalars of what it received, behind those that it held
before unless the history resets it. -/
theorem scalars_fileAll (c : Clause) (b : Bindings) : ∀ fs : List Filing,
    (fileAll fs b).scalars c =
      (if fs.any (Filing.resets c) then [] else b.scalars c) ++ (received c fs).flatMap Value.leaves
  | [] => (List.append_nil _).symm
  | f :: rest => by
    rw [fileAll, scalars_fileAll c (f.file b) rest, received, List.any_cons]
    cases hrest : rest.any (Filing.resets c) with
    | true => rw [Bool.or_true]; rfl
    | false =>
      rw [Filing.scalars_file c b f, Bool.or_false, if_neg Bool.false_ne_true,
        if_neg Bool.false_ne_true, List.flatMap_append, List.append_assoc]

end

/-- Whatever has been filed, flattening yields the scalars inside the values that each clause that
is not left out was given since it was last reset, the clauses in the order of a statement. The
values are scalars, hence flattened already, and leaving clauses out is the same as emptying them
first. Values merge clause by clause, those taken over behind the own ones, in a monoid whose unit
binds nothing. -/
theorem clauses_hold_what_they_received (filings : List Filing) (excluded : List Clause) :
    let filed := fileAll filings {}
    (filed.flattenExcept excluded =
        (Clause.all.filter (· ∉ excluded)).flatMap fun c =>
          (received c filings).flatMap Value.leaves) ∧
      Clause.all.map Clause.name =
        ["select", "from", "join", "where", "groupBy", "having", "order", "union", "unionOrder"] ∧
      (∀ v : Value, v.leaves = if v.isScalar then [v] else v.parts.flatMap Value.leaves) ∧
      (∀ v ∈ filed.flattenExcept excluded, v.isScalar = true) ∧
      ((filed.flattenExcept excluded).flatMap Value.leaves = filed.flattenExcept excluded ∧
        ∀ c, (filed.set c (filed.scalars c)).flattenExcept excluded =
          filed.flattenExcept excluded) ∧
      filed.flattenExcept excluded = (excluded.foldl Bindings.clear filed).flatten ∧
      filed.merge {} = filed ∧ Bindings.merge {} filed = filed ∧
      ∀ other third : Bindings,
        (filed.merge other).merge third = filed.merge (other.merge third) ∧
          ∀ c, (filed.merge other).scalars c = filed.scalars c ++ other.scalars c := by
  intro filed
  -- the history starts from nothing, so resetting at its beginning makes no difference
  have hfiled : filed.scalars = fun c => (received c filings).flatMap Value.leaves := by
    funext c
    rw [scalars_fileAll c {} filings, Bindings.scalars_empty, ite_self]
    rfl
  have hleaf : ∀ v ∈ filed.flattenExcept excluded, v.isScalar = true :=
    fun v => Bindings.isScalar_of_mem_flattenExcept
  refine ⟨?_, rfl, Value.leaves_eq, hleaf, ⟨?_, fun c => ?_⟩,
    filed.flattenExcept_eq_flatten_clear excluded, filed.merge_empty, filed.empty_merge,
      fun other third => ⟨filed.merge_assoc other third, fun c => ?_⟩⟩
  · rw [Bindings.flattenExcept_eq, hfiled]
  · exact flatMap_leaves_of_spread fun v hv => Value.leaves_of_isScalar (hleaf v hv)
  · have hscalars : (filed.set c (filed.scalars c)).scalars = filed.scalars :=
      funext fun d => filed.scalars_set_scalars d c
    rw [Bindings.flattenExcept_eq, Bindings.flattenExcept_eq, hscalars]
  · exact filed.scalars_merge other c

/-- What was replaced is gone, and what is taken over stands behind what replaced it. -/
example :
    (fileAll [.add .wheres (.list [.ofInt 1, .list [.ofInt 2]]), .add .joins (.text "j"),
      .set .wheres [.ofInt 3], .merge
        [.clear .joins, .add .wheres (.record [("a", .list [.ofInt 4, .ofInt 5])])]] {}).flatten =
      [.text "j", .ofInt 3, .ofInt 4, .ofInt 5] := rfl

end QueryBuilder
