import QueryBuilder.Proofs.Operations

/-!
# The operators that a query stores

An operator stands unquoted in the statement. It is checked where a comparison is made, except in a
comparison of two columns that a join is made on: that one is stored as it is given.

- `Query.operators`: the operators of all comparisons in a query, and in the queries inside it.
- `StoredOperator.Allowed`: an operator that the dialect knows, or one that was given to a join.
- `Query.Sound`: a query on the dialect stores none but these. The inner query of a join is judged
  as a join.
- `Query.Sound.compare` and so on: every operation keeps this.
-/

namespace QueryBuilder

/-- An operator of a comparison, and whether a join is made on a comparison of two columns by it. -/
structure StoredOperator where
  text : String
  joined : Bool
  deriving DecidableEq, Repr

/-! ## Stored operators -/

mutual

/-- The operators of all comparisons in a query. -/
def Query.operators : Query → List StoredOperator
  | { connection := _, aggregate := _, columns := _, distinct := _, source := _, joins, wheres,
      groups := _, havings, tail := _, unions, unionTail := _, eagerLoads := _, bindings := _ } =>
    conditionOperators false wheres ++ conditionOperators false havings ++ joinOperators joins ++
      unionOperators unions

/-- The operators of conditions, which may be those of a join. -/
def conditionOperators (joined : Bool) : List Condition → List StoredOperator
  | [] => []
  | ⟨_, predicate⟩ :: rest => predicateOperators joined predicate ++ conditionOperators joined rest

/-- The operators of a predicate. -/
def predicateOperators (joined : Bool) : Predicate → List StoredOperator
  | .compare _ operator _ => [⟨operator, false⟩]
  | .compareColumns _ operator _ => [⟨operator, joined⟩]
  | .datePart _ _ operator _ => [⟨operator, false⟩]
  | .group conditions => conditionOperators joined conditions
  | .compareQuery _ operator query => ⟨operator, false⟩ :: Query.operators query
  | .exists _ query => Query.operators query
  | _ => []

/-- The operators of joins, those of the joins inside them included. -/
def joinOperators : List Join → List StoredOperator
  | [] => []
  | ⟨_, _, conditions, joins⟩ :: rest =>
    conditionOperators true conditions ++ joinOperators joins ++ joinOperators rest

/-- The operators of the further queries of a union. -/
def unionOperators : List Union → List StoredOperator
  | [] => []
  | ⟨_, query⟩ :: rest => Query.operators query ++ unionOperators rest

end

/-- The operators of a query, clause by clause. Columns, groupings, orderings and the source hold
none. -/
theorem Query.operators_eq (q : Query) :
    q.operators = conditionOperators false q.wheres ++ conditionOperators false q.havings ++
      joinOperators q.joins ++ unionOperators q.unions := by
  cases q
  rw [operators]

/-- Conditions added behind add their operators behind. -/
theorem conditionOperators_append (joined : Bool) (as bs : List Condition) :
    conditionOperators joined (as ++ bs) = conditionOperators joined as ++
      conditionOperators joined bs := by
  induction as with
  | nil => rfl
  | cons a as ih =>
    obtain ⟨connector, predicate⟩ := a
    rw [List.cons_append, conditionOperators, conditionOperators, ih, List.append_assoc]

/-- Joins added behind add their operators behind. -/
theorem joinOperators_append (as bs : List Join) :
    joinOperators (as ++ bs) = joinOperators as ++ joinOperators bs := by
  induction as with
  | nil => rfl
  | cons a as ih =>
    obtain ⟨kind, source, conditions, joins⟩ := a
    rw [List.cons_append, joinOperators, joinOperators, ih]
    simp only [List.append_assoc]

/-- Further queries of a union add their operators behind. -/
theorem unionOperators_append (as bs : List Union) :
    unionOperators (as ++ bs) = unionOperators as ++ unionOperators bs := by
  induction as with
  | nil => rfl
  | cons a as ih =>
    obtain ⟨all, query⟩ := a
    rw [List.cons_append, unionOperators, unionOperators, ih, List.append_assoc]

/-! ## Allowed operators -/

section Sound

variable (d : Dialect) (given : String → Prop)

/-- The dialect knows the operator, letter for letter. In a join it was given so, or it is the sign
of equality. -/
def StoredOperator.Allowed (o : StoredOperator) : Prop :=
  if o.joined then o.text = "=" ∨ given o.text else d.knows o.text = true

/-- All operators are allowed. -/
def AllAllowed (os : List StoredOperator) : Prop :=
  ∀ o ∈ os, o.Allowed d given

/-- A query on the dialect that stores no operators but allowed ones. Its conditions may be those of
a join. -/
structure Query.SoundAs (joined : Bool) (q : Query) : Prop where
  dialect : q.dialect = d
  wheres : AllAllowed d given (conditionOperators joined q.wheres)
  havings : AllAllowed d given (conditionOperators false q.havings)
  joins : AllAllowed d given (joinOperators q.joins)
  unions : AllAllowed d given (unionOperators q.unions)

/-- A query on the dialect that stores no operators but allowed ones. -/
abbrev Query.Sound (q : Query) : Prop :=
  q.SoundAs d given false

/-- What a sub-query stands for is sound; a closure makes sound queries of sound ones. -/
def Subquery.Sound : Subquery → Prop
  | .query sub => sub.Sound d given
  | .closure build => ∀ start sub, start.Sound d given → build start = .ok sub → sub.Sound d given
  | .sql _ => True

/-- A sub-query to compare with is sound. -/
def Comparand.Sound : Comparand → Prop
  | .operand _ => True
  | .query s => s.Sound d given

/-- A sub-query to be compared is sound. -/
def Subject.Sound : Subject → Prop
  | .column _ => True
  | .query s => s.Sound d given

end Sound

variable {d : Dialect} {given : String → Prop} {joined : Bool}

theorem allAllowed_append {as bs : List StoredOperator} :
    AllAllowed d given (as ++ bs) ↔ AllAllowed d given as ∧ AllAllowed d given bs :=
  List.forall_mem_append

theorem allAllowed_nil : AllAllowed d given [] :=
  nofun

/-- Outside a join, an operator is allowed if the dialect knows it. -/
theorem allowed_of_knows {operator : String} (h : d.knows operator = true) :
    (⟨operator, false⟩ : StoredOperator).Allowed d given :=
  h

namespace Query

variable {q q' : Query}

/-- A sound query, as a statement about the list of its operators. -/
theorem sound_iff : q.Sound d given ↔ q.dialect = d ∧ AllAllowed d given q.operators := by
  rw [operators_eq]
  -- the list is cut at its clauses, the fields of the structure
  simp only [allAllowed_append, and_assoc]
  exact ⟨fun h => ⟨h.dialect, h.wheres, h.havings, h.joins, h.unions⟩,
    fun ⟨hd, hw, hh, hj, hu⟩ => ⟨hd, hw, hh, hj, hu⟩⟩

/-- An operator that is checked is known, whatever blanks and capitals it is given with. -/
theorem SoundAs.knows (hq : q.SoundAs d given joined) {operator o : String}
    (h : q.checkedOperator operator = .ok o) : d.knows o = true :=
  hq.dialect ▸ knows_of_checkedOperator h

/-! ## Parts -/

namespace SoundAs

theorem on {c : Connection} (hc : c.dialect = d) (source : Option Source) :
    ({ Query.on c with source } : Query).SoundAs d given joined :=
  ⟨hc, allAllowed_nil, allAllowed_nil, allAllowed_nil, allAllowed_nil⟩

/-- The query that a closure is handed, whether its conditions become those of a join or not. -/
theorem fresh (hq : q.SoundAs d given joined) {mode : Bool} : q.fresh.SoundAs d given mode :=
  on hq.dialect none

/-- The query that a group is built on. -/
theorem freshOnSource (hq : q.SoundAs d given joined) {mode : Bool} :
    q.freshOnSource.SoundAs d given mode :=
  on hq.dialect q.source

/-- Neither columns nor values, orderings and windows hold comparisons. -/
theorem edit (hq : q.SoundAs d given joined) (hconnection : q'.connection = q.connection)
    (hwheres : q'.wheres = q.wheres) (hhavings : q'.havings = q.havings)
    (hjoins : q'.joins = q.joins) (hunions : q'.unions = q.unions) : q'.SoundAs d given joined :=
  ⟨(congrArg Connection.dialect hconnection).trans hq.dialect, hwheres ▸ hq.wheres,
    hhavings ▸ hq.havings, hjoins ▸ hq.joins, hunions ▸ hq.unions⟩

theorem updateTail (hq : q.SoundAs d given joined) (f : Tail → Tail) :
    (q.updateTail f).SoundAs d given joined := by
  unfold Query.updateTail
  split <;> exact hq.edit rfl rfl rfl rfl rfl

theorem bind (hq : q.SoundAs d given joined) (c : Clause) (vs : List Value) :
    (q.bind c vs).SoundAs d given joined :=
  hq.edit rfl rfl rfl rfl rfl

/-- A query that loses a part loses the operators of that part. -/
theorem drop (hq : q.Sound d given) (part : Part) : (q.drop part).Sound d given := by
  obtain ⟨hdialect, hwheres, hhavings, hjoins, hunions⟩ := hq
  cases part with
  | wheres => exact ⟨hdialect, allAllowed_nil, hhavings, hjoins, hunions⟩
  | havings => exact ⟨hdialect, hwheres, allAllowed_nil, hjoins, hunions⟩
  | joins => exact ⟨hdialect, hwheres, hhavings, allAllowed_nil, hunions⟩
  | unions => exact ⟨hdialect, hwheres, hhavings, hjoins, allAllowed_nil⟩
  | _ => exact ⟨hdialect, hwheres, hhavings, hjoins, hunions⟩

/-- Parts are lost one after the other. -/
theorem without (hq : q.Sound d given) (parts : List Part) : (q.without parts).Sound d given := by
  unfold Query.without
  induction parts generalizing q with
  | nil => exact hq
  | cons part parts ih => exact ih (hq.drop part)

/-- A condition adds the operators of its predicate. -/
theorem addWhere (hq : q.SoundAs d given joined) (connector : Connector) {predicate : Predicate}
    (h : AllAllowed d given (predicateOperators joined predicate)) :
    (q.addWhere connector predicate).SoundAs d given joined where
  -- only the conditions change
  dialect := hq.dialect
  wheres := by
    show AllAllowed d given (conditionOperators joined (q.wheres ++ [⟨connector, predicate⟩]))
    rw [conditionOperators_append, allAllowed_append]
    exact ⟨hq.wheres, allAllowed_append.mpr ⟨h, allAllowed_nil⟩⟩
  havings := hq.havings
  joins := hq.joins
  unions := hq.unions

/-- A condition on groups adds the operators of its predicate, never those of a join. -/
theorem addHaving (hq : q.Sound d given) (connector : Connector) {predicate : Predicate}
    (h : AllAllowed d given (predicateOperators false predicate)) :
    (q.addHaving connector predicate).Sound d given where
  dialect := hq.dialect
  wheres := hq.wheres
  havings := by
    show AllAllowed d given (conditionOperators false (q.havings ++ [⟨connector, predicate⟩]))
    rw [conditionOperators_append, allAllowed_append]
    exact ⟨hq.havings, allAllowed_append.mpr ⟨h, allAllowed_nil⟩⟩
  joins := hq.joins
  unions := hq.unions

end SoundAs

end Query

/-! ## Conditions -/

/-- What a sub-query stands for is sound when it is built from a query on the dialect. -/
theorem Subquery.Sound.build {s : Subquery} {q sub : Query} (hs : s.Sound d given)
    (hq : q.SoundAs d given joined) (h : s.build q = .ok sub) : sub.Sound d given := by
  cases s with
  | query p => exact Except.ok.inj h ▸ hs
  | closure build => exact hs q.fresh sub hq.fresh h
  | sql text => exact nomatch h

/-- An element of a condition row, read as the left side of a condition. -/
theorem Comparand.Sound.subject {c : Comparand} {subject : Subject} (hc : c.Sound d given)
    (h : c.subject = .ok subject) : subject.Sound d given := by
  unfold Comparand.subject at h
  split at h
  · exact Except.ok.inj h ▸ trivial
  · exact Except.ok.inj h ▸ trivial
  · exact Except.ok.inj h ▸ hc
  · exact nomatch h

namespace Query.SoundAs

variable {q q' nested : Query} {connector : Connector} {value : Comparand}

/-- The heart of every comparison: a null is asked for without an operator, and every other
comparison has its operator checked, a sub-query on the right included. -/
theorem compareColumn (hq : q.SoundAs d given joined) (hvalue : value.Sound d given)
    {column : Column} {operator : Option String}
    (h : q.compareColumn connector column operator value = .ok q') : q'.SoundAs d given joined := by
  unfold Query.compareColumn at h
  split at h
  · -- neither operator nor value is given: a test for null, without an operator
    exact Except.ok.inj h ▸ hq.addWhere connector allAllowed_nil
  · obtain ⟨o, ho, h⟩ := bind_eq_ok.mp h
    have hknows := hq.knows ho
    cases value with
    | query s =>
      obtain ⟨sub, hsub, h⟩ := bind_eq_ok.mp h
      obtain ⟨-, hoperators⟩ := sound_iff.mp (hvalue.build hq hsub)
      exact Except.ok.inj h ▸ (hq.bind _ _).addWhere connector
        (List.forall_mem_cons.mpr ⟨allowed_of_knows hknows, hoperators⟩)
    | operand x =>
      simp only at h
      split at h
      · exact Except.ok.inj h ▸ hq.addWhere connector allAllowed_nil
      · exact Except.ok.inj h ▸ (hq.bind _ _).addWhere connector
          (List.forall_mem_cons.mpr ⟨allowed_of_knows hknows, allAllowed_nil⟩)

/-- The operators of a group are those of its conditions. -/
theorem addGroup (hq : q.SoundAs d given joined) (connector : Connector)
    (hnested : nested.SoundAs d given joined) :
    (q.addGroup connector nested).SoundAs d given joined := by
  unfold Query.addGroup
  split
  · exact hq
  · exact (hq.bind _ _).addWhere connector hnested.wheres

/-- A group that a closure makes is sound if the closure makes sound queries of sound ones. -/
theorem group (hq : q.Sound d given) {build : Query → Except Error Query}
    (hbuild : ∀ start sub, start.Sound d given → build start = .ok sub → sub.Sound d given)
    (h : q.group connector build = .ok q') : q'.Sound d given := by
  obtain ⟨nested, hnested, h⟩ := bind_eq_ok.mp h
  exact Except.ok.inj h ▸ hq.addGroup connector (hbuild _ nested hq.freshOnSource hnested)

/-- A comparison, whatever stands on its left. -/
theorem compare (hq : q.Sound d given) {subject : Subject} (hsubject : subject.Sound d given)
    (hvalue : value.Sound d given) {operator : Option String}
    (h : q.compare connector subject operator value = .ok q') : q'.Sound d given := by
  cases subject with
  | column c => exact hq.compareColumn hvalue h
  | query s =>
    unfold Query.compare at h
    simp only at h
    split at h
    · -- without operator and value the sub-query is a group of conditions
      cases s with
      | closure build => exact hq.group hsubject h
      | query nested => exact Except.ok.inj h ▸ hq.addGroup connector hsubject
      | sql text => exact nomatch h
    · -- the text of the sub-query stands for a column, and its operators are stored nowhere
      obtain ⟨⟨sql, vs⟩, _, h⟩ := bind_eq_ok.mp h
      exact (hq.bind _ _).compareColumn hvalue h

/-- An equality or another plain comparison of a named column, as the operations on keys make
it. -/
theorem whereIs (hq : q.SoundAs d given joined) (hvalue : value.Sound d given)
    {column operator : String} (h : q.whereIs column operator value = .ok q') :
    q'.SoundAs d given joined := by
  have hcompare : q.compareColumn .and (.name column) (some operator) value = .ok q' := h
  exact hq.compareColumn hvalue hcompare

/-- Two columns are compared by a checked operator. -/
theorem compareColumns (hq : q.Sound d given) {first second : Column} {operator : String}
    (h : q.compareColumns connector first operator second = .ok q') : q'.Sound d given := by
  obtain ⟨o, ho, h⟩ := bind_eq_ok.mp h
  exact Except.ok.inj h ▸ hq.addWhere connector
    (List.forall_mem_cons.mpr ⟨allowed_of_knows (hq.knows ho), allAllowed_nil⟩)

/-- No candidate is compared by an operator, and a sub-query goes in as a text. -/
theorem whereIn (hq : q.SoundAs d given joined) {negated : Bool} {column : Column}
    {candidates : Candidates} (h : q.whereIn connector negated column candidates = .ok q') :
    q'.SoundAs d given joined := by
  cases candidates with
  | operands os => exact Except.ok.inj h ▸ (hq.bind _ _).addWhere connector allAllowed_nil
  | query s =>
    obtain ⟨⟨sql, vs⟩, _, h⟩ := bind_eq_ok.mp h
    exact Except.ok.inj h ▸ (hq.bind _ _).addWhere connector allAllowed_nil

/-- The operator before a part of a date is checked like every other. -/
theorem whereDatePart (hq : q.Sound d given) {part : DatePart} {column : Column} {operator : String}
    {operand : Operand} (h : q.whereDatePart connector part column operator operand = .ok q') :
    q'.Sound d given := by
  obtain ⟨o, ho, h⟩ := bind_eq_ok.mp h
  exact Except.ok.inj h ▸ (hq.bind _ _).addWhere connector
    (List.forall_mem_cons.mpr ⟨allowed_of_knows (hq.knows ho), allAllowed_nil⟩)

/-- A sub-query kept as a tree brings its operators along. -/
theorem addExists (hq : q.Sound d given) (connector : Connector) (negated : Bool) {sub : Query}
    (hsub : sub.Sound d given) : (q.addExists connector negated sub).Sound d given :=
  (hq.bind _ _).addWhere connector (sound_iff.mp hsub).2

theorem whereExists (hq : q.Sound d given) {negated : Bool} {s : Subquery} (hs : s.Sound d given)
    (h : q.whereExists connector negated s = .ok q') : q'.Sound d given := by
  obtain ⟨sub, hsub, h⟩ := bind_eq_ok.mp h
  exact Except.ok.inj h ▸ hq.addExists connector negated (hs.build hq hsub)

/-- The operator of a condition on groups is checked. -/
theorem having (hq : q.Sound d given) {column : Column} {operator : String} {operand : Operand}
    (h : q.having connector column operator operand = .ok q') : q'.Sound d given := by
  obtain ⟨o, ho, h⟩ := bind_eq_ok.mp h
  exact Except.ok.inj h ▸ (hq.bind _ _).addHaving connector
    (List.forall_mem_cons.mpr ⟨allowed_of_knows (hq.knows ho), allAllowed_nil⟩)

/-! ## Rows and pairs -/

/-- A condition row, under whatever reading keeps queries sound. -/
theorem addRow (hq : q.Sound d given) {reading : RowReading}
    (hreading : ∀ {q q' : Query} {connector subject operator value}, q.Sound d given →
      subject.Sound d given → Comparand.Sound d given value →
        reading q connector subject operator value = .ok q' → q'.Sound d given)
    {row : List Comparand} (hrow : ∀ c ∈ row, c.Sound d given)
    (h : Query.addRow reading q row = .ok q') : q'.Sound d given := by
  unfold Query.addRow at h
  split at h
  · -- one element: a closure, taken as a group
    next build => exact hq.group (hrow (.query (.closure build)) (by simp)) h
  · exact nomatch h
  · -- two elements are compared by an equality
    next head value =>
    obtain ⟨subject, hsubject, h⟩ := bind_eq_ok.mp h
    exact hreading hq ((hrow head (by simp)).subject hsubject) (hrow value (by simp)) h
  · next head operator value =>
    obtain ⟨subject, hsubject, h⟩ := bind_eq_ok.mp h
    obtain ⟨text, _, h⟩ := bind_eq_ok.mp h
    exact hreading hq ((hrow head (by simp)).subject hsubject) (hrow value (by simp)) h
  · next head operator value connector =>
    obtain ⟨subject, hsubject, h⟩ := bind_eq_ok.mp h
    obtain ⟨text, _, h⟩ := bind_eq_ok.mp h
    obtain ⟨word, _, h⟩ := bind_eq_ok.mp h
    obtain ⟨read, _, h⟩ := bind_eq_ok.mp h
    exact hreading hq ((hrow head (by simp)).subject hsubject) (hrow value (by simp)) h
  · exact nomatch h

/-- Condition rows grow a group on the source of the query, row by row. -/
theorem addRows (hq : q.Sound d given) {reading : RowReading}
    (hreading : ∀ {q q' : Query} {connector subject operator value}, q.Sound d given →
      subject.Sound d given → Comparand.Sound d given value →
        reading q connector subject operator value = .ok q' → q'.Sound d given)
    {rows : List (List Comparand)} (hrows : ∀ row ∈ rows, ∀ c ∈ row, c.Sound d given)
    (h : q.addRows reading connector rows = .ok q') : q'.Sound d given := by
  obtain ⟨nested, hnested, h⟩ := bind_eq_ok.mp h
  -- the group starts sound, and every row keeps it so
  have hgrown : nested.Sound d given :=
    foldlM_keeps (fun _ row _ hrow hb hb' => addRow hb hreading (hrows row hrow) hb')
      hq.freshOnSource hnested
  exact Except.ok.inj h ▸ hq.addGroup connector hgrown

theorem whereRows (hq : q.Sound d given) {rows : List (List Comparand)}
    (hrows : ∀ row ∈ rows, ∀ c ∈ row, c.Sound d given) (h : q.whereRows connector rows = .ok q') :
    q'.Sound d given :=
  hq.addRows (fun hq hsubject hvalue h => hq.compare hsubject hvalue h) hrows h

/-- Rows of columns; a sub-query on the left is refused. -/
theorem whereColumnRows (hq : q.Sound d given) {rows : List (List Comparand)}
    (hrows : ∀ row ∈ rows, ∀ c ∈ row, c.Sound d given) (h : q.whereColumnRows rows = .ok q') :
    q'.Sound d given := by
  refine hq.addRows ?_ hrows h
  intro q q' connector subject operator value hq _ _ h
  cases subject with
  | column first =>
    obtain ⟨second, _, h⟩ := bind_eq_ok.mp h
    exact hq.compareColumns h
  | query s => exact nomatch h

/-- Pairs grow a group of equalities. -/
theorem wherePairs (hq : q.Sound d given) {pairs : List (String × Comparand)}
    (hpairs : ∀ pair ∈ pairs, pair.2.Sound d given) (h : q.wherePairs connector pairs = .ok q') :
    q'.Sound d given := by
  obtain ⟨nested, hnested, h⟩ := bind_eq_ok.mp h
  have hgrown : nested.Sound d given :=
    foldlM_keeps (fun _ pair _ hpair hb hb' => whereIs hb (hpairs pair hpair) hb')
      hq.freshOnSource hnested
  exact Except.ok.inj h ▸ hq.addGroup connector hgrown

/-! ## Orderings, windows and unions -/

theorem orderBy (hq : q.SoundAs d given joined) (column : Column) (direction : Direction) :
    (q.orderBy column direction).SoundAs d given joined := by
  unfold Query.orderBy Query.addSortKey
  exact hq.updateTail _

theorem limit (hq : q.SoundAs d given joined) (count : Nat) :
    (q.limit count).SoundAs d given joined := by
  unfold Query.limit
  exact hq.updateTail _

theorem offset (hq : q.SoundAs d given joined) (count : Nat) :
    (q.offset count).SoundAs d given joined := by
  unfold Query.offset
  exact hq.updateTail _

/-- A page by cursor: the bound on the column, if there is one, is the only condition it adds. -/
theorem cursorPage (hq : q.Sound d given) {size : Nat} {last : Option Value}
    {column operator : String} {direction : Direction}
    (h : q.cursorPage size last column operator direction = .ok q') : q'.Sound d given := by
  -- old orderings on the column go first, and they hold no operators
  have hwithout : (q.withoutOrdersBy column).Sound d given := hq.edit rfl rfl rfl rfl rfl
  cases last with
  | none => exact Except.ok.inj h ▸ (hwithout.orderBy _ direction).limit size
  | some v =>
    obtain ⟨bounded, hbounded, h⟩ := bind_eq_ok.mp h
    have hvalue : (Comparand.value v).Sound d given := trivial
    have hbound : bounded.Sound d given := hwithout.whereIs hvalue hbounded
    exact Except.ok.inj h ▸ (hbound.orderBy _ direction).limit size

/-- A further query brings its operators along. -/
theorem union (hq : q.Sound d given) {all : Bool} {s : Subquery} (hs : s.Sound d given)
    (h : q.union all s = .ok q') : q'.Sound d given := by
  obtain ⟨other, hother, h⟩ := bind_eq_ok.mp h
  obtain ⟨-, hoperators⟩ := sound_iff.mp (hs.build hq hother)
  refine Except.ok.inj h ▸ ⟨hq.dialect, hq.wheres, hq.havings, hq.joins, ?_⟩
  show AllAllowed d given (unionOperators (q.unions ++ [⟨all, other⟩]))
  rw [unionOperators_append, allAllowed_append]
  exact ⟨hq.unions, allAllowed_append.mpr ⟨hoperators, allAllowed_nil⟩⟩

end Query.SoundAs

/-! ## Joins -/

/-- The conditions of a join that is being built are those of a join. -/
def JoinDraft.Sound (d : Dialect) (given : String → Prop) (j : JoinDraft) : Prop :=
  j.inner.SoundAs d given true

namespace Query.SoundAs

variable {q q' : Query}

theorem draftJoin (hq : q.SoundAs d given joined) (kind : JoinKind) (source : Source) :
    (q.draftJoin kind source).Sound d given :=
  hq.fresh

/-- A finished join is judged as a join: its conditions and the joins inside it. -/
theorem addJoin (hq : q.SoundAs d given joined) {j : JoinDraft} (hj : j.Sound d given) :
    (q.addJoin j).SoundAs d given joined where
  -- only the joins change
  dialect := hq.dialect
  wheres := hq.wheres
  havings := hq.havings
  joins := by
    show AllAllowed d given (joinOperators
      (q.joins ++ [⟨j.kind, j.source, j.inner.wheres, j.inner.joins⟩]))
    rw [joinOperators_append, allAllowed_append]
    exact ⟨hq.joins, allAllowed_append.mpr ⟨allAllowed_append.mpr ⟨hj.wheres, hj.joins⟩,
      allAllowed_nil⟩⟩
  unions := hq.unions

end Query.SoundAs

namespace JoinDraft.Sound

variable {j j' : JoinDraft} {connector : Connector}

theorem on (hj : j.Sound d given) (connector : Connector) (first : String) {operator : String}
    (second : String) (hoperator : operator = "=" ∨ given operator) :
    (j.on connector first operator second).Sound d given :=
  hj.addWhere connector (List.forall_mem_cons.mpr ⟨hoperator, allAllowed_nil⟩)

/-- A group of conditions in a join is judged as part of the join. -/
theorem group (hj : j.Sound d given) {build : JoinDraft → Except Error JoinDraft}
    (hbuild : ∀ start nested, start.Sound d given → build start = .ok nested → nested.Sound d given)
    (h : j.group connector build = .ok j') : j'.Sound d given := by
  obtain ⟨nested, hnested, h⟩ := bind_eq_ok.mp h
  have hgroup : nested.Sound d given :=
    hbuild { j with inner := j.inner.fresh } nested hj.fresh hnested
  split at h
  · -- an empty group leaves no trace
    exact Except.ok.inj h ▸ hj
  · have hmerged : (j.inner.mergeBindings nested.inner).SoundAs d given true :=
      hj.edit rfl rfl rfl rfl rfl
    exact Except.ok.inj h ▸ hmerged.addWhere connector hgroup.wheres

/-- Compared with a value, a column of a join has its operator checked. -/
theorem compare (hj : j.Sound d given) {value : Comparand} (hvalue : value.Sound d given)
    {column operator : String} (h : j.compare connector column operator value = .ok j') :
    j'.Sound d given := by
  obtain ⟨inner, hinner, h⟩ := bind_eq_ok.mp h
  have hcompare : j.inner.compareColumn connector (.name column) (some operator) value =
      .ok inner := hinner
  exact Except.ok.inj h ▸ Query.SoundAs.compareColumn hj hvalue hcompare

theorem whereNull (hj : j.Sound d given) (negated : Bool) (column : String) :
    (j.whereNull negated column).Sound d given :=
  hj.addWhere .and allAllowed_nil

theorem whereIn (hj : j.Sound d given) {column : String} {candidates : Candidates}
    (h : j.whereIn column candidates = .ok j') : j'.Sound d given := by
  obtain ⟨inner, hinner, h⟩ := bind_eq_ok.mp h
  exact Except.ok.inj h ▸ Query.SoundAs.whereIn hj hinner

/-- A join inside a join, on two columns. -/
theorem join (hj : j.Sound d given) (source : Source) (first : String) {operator : String}
    (second : String) (hoperator : operator = "=" ∨ given operator) :
    (j.join source first operator second).Sound d given :=
  Query.SoundAs.addJoin hj ((Query.SoundAs.draftJoin hj .inner source).on .and first
    second hoperator)

end JoinDraft.Sound

namespace Query.SoundAs

variable {q q' : Query}

/-- The operator that a join is made on is stored as it is given. -/
theorem join (hq : q.Sound d given) (kind : JoinKind) (source : Source) (first : String)
    {operator : String} (second : String) (hoperator : operator = "=" ∨ given operator) :
    (q.join kind source first operator second).Sound d given :=
  hq.addJoin ((hq.draftJoin kind source).on .and first second hoperator)

/-- A sub-query is joined as a text; the operator that it is joined by is stored as it is
given. -/
theorem joinSub (hq : q.Sound d given) {s : Subquery} {label : String} {kind : JoinKind}
    {first operator second : String} (hoperator : operator = "=" ∨ given operator)
    (h : q.joinSub s label kind first operator second = .ok q') : q'.Sound d given := by
  obtain ⟨⟨sql, vs⟩, _, h⟩ := bind_eq_ok.mp h
  exact Except.ok.inj h ▸ (hq.bind .joins vs).join kind _ first second hoperator

/-- A join on a value has its operator checked. -/
theorem joinWhere (hq : q.Sound d given) {kind : JoinKind} {source : Source}
    {first operator : String} {value : Comparand} (hvalue : value.Sound d given)
    (h : q.joinWhere kind source first operator value = .ok q') : q'.Sound d given := by
  obtain ⟨j, hj, h⟩ := bind_eq_ok.mp h
  exact Except.ok.inj h ▸ hq.addJoin ((hq.draftJoin kind source).compare hvalue hj)

/-! ## Related rows -/

/-- A condition on pivot rows is a comparison with a value, or one without an operator. -/
theorem addCondition (hq : q.Sound d given) {m : ManyToMany} {qualified : Bool}
    {condition : PivotCondition} (h : m.addCondition qualified q condition = .ok q') :
    q'.Sound d given := by
  cases condition with
  | compare column operator value =>
    have hvalue : (Comparand.operand value).Sound d given := trivial
    exact hq.whereIs hvalue h
  | isIn column values negated =>
    have hcandidates : q.whereIn .and negated (.name (m.pivotColumn qualified column))
        (.operands values) = .ok q' := h
    exact hq.whereIn hcandidates
  | between column low high negated =>
    exact Except.ok.inj h ▸ (hq.bind _ _).addWhere .and allAllowed_nil
  | isNull column negated => exact Except.ok.inj h ▸ hq.addWhere .and allAllowed_nil

/-- Related rows are tied to a row of the outer query by a checked equality; the pivot table is
joined by the sign of equality. -/
theorem correlate (hq : q.Sound d given) {l : Link} {outer : String}
    (h : l.correlate outer q = .ok q') : q'.Sound d given := by
  cases l with
  | hasOne table foreignKey localKey => exact hq.compareColumns h
  | hasMany table foreignKey localKey => exact hq.compareColumns h
  | belongsTo table foreignKey ownerKey => exact hq.compareColumns h
  | belongsToMany m =>
    obtain ⟨restricted, hrestricted, h⟩ := bind_eq_ok.mp h
    -- the pivot table, joined by the sign of equality, then the conditions on its rows
    have hpaired : (m.joinPivot q).Sound d given := hq.join .inner _ _ _ (.inl rfl)
    have hgrown : restricted.Sound d given :=
      foldlM_keeps (fun _ _ _ _ hb hb' => addCondition hb hb') hpaired hrestricted
    exact hgrown.compareColumns h

theorem selectSub (hq : q.Sound d given) {s : Subquery} {label : String}
    (h : q.selectSub s label = .ok q') : q'.Sound d given := by
  obtain ⟨⟨sql, vs⟩, _, h⟩ := bind_eq_ok.mp h
  exact Except.ok.inj h ▸ hq.edit rfl rfl rfl rfl rfl

/-- An aggregate over related rows is a text among the columns. -/
theorem relationAggregate (hq : q.Sound d given) {name : String} {l : Link}
    {related : Except Error Query} {function column : String}
    (h : q.relationAggregate name l related function column = .ok q') : q'.Sound d given := by
  obtain ⟨rows, _, h⟩ := bind_eq_ok.mp h
  obtain ⟨sub, _, h⟩ := bind_eq_ok.mp h
  refine selectSub ?_ h
  split
  · exact hq.edit rfl rfl rfl rfl rfl
  · exact hq

/-- Related rows are asked for or counted; the operator of the count is checked, and the sub-query
is kept as a tree. -/
theorem has (hq : q.Sound d given) {connector : Connector} {l : Link} {related : Except Error Query}
    (hrelated : ∀ sub, related = .ok sub → sub.Sound d given) {operator : String} {count : Int}
    (h : q.has connector l related operator count = .ok q') : q'.Sound d given := by
  obtain ⟨o, _, h⟩ := bind_eq_ok.mp h
  obtain ⟨rows, hrows, h⟩ := bind_eq_ok.mp h
  obtain ⟨sub, hsub, h⟩ := bind_eq_ok.mp h
  have hcorrelated := (hrelated rows hrows).correlate hsub
  split at h
  · -- a count that only asks for rows, or for none
    next negated _ => exact Except.ok.inj h ▸ hq.addExists connector negated hcorrelated
  · have hcounted : (Subject.query (.query (sub.select [.raw "count(*)"]))).Sound d given :=
      hcorrelated.edit rfl rfl rfl rfl rfl
    have hvalue : (Comparand.value (.ofInt count)).Sound d given := trivial
    exact hq.compare hcounted hvalue h

/-- The complement has another operator and is otherwise the same condition. -/
theorem hasNot (hq : q.Sound d given) {l : Link} {related : Except Error Query}
    (hrelated : ∀ sub, related = .ok sub → sub.Sound d given) {operator : String} {count : Int}
    (h : q.hasNot l related operator count = .ok q') : q'.Sound d given := by
  obtain ⟨inverse, _, h⟩ := bind_eq_ok.mp h
  exact hq.has hrelated h

end Query.SoundAs

end QueryBuilder
