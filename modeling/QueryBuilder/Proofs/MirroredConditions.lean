import QueryBuilder.Proofs.Mirroring
import QueryBuilder.Query.Where

/-!
# Conditions on a query and on its mirror image

Every operation that adds a condition ends alike on a query and on its mirror image, if its
arguments are in relation: sub-queries are mirror images, closures make mirror images out of mirror
images, and raw texts are respelled.

- `Subquery.Mirrors`, `Comparand.Mirrors` and their kin: arguments in relation.
- `SharedOperator`: an operator that is not the one that a single dialect knows.
- `PortableRowTexts`: what is asked of the texts in a condition row, by their places.
- `Query.Mirrors.compare`, `Query.Mirrors.addRows` and so on: one lemma for each operation.
-/

namespace QueryBuilder

/-! ## Arguments -/

/-- Sub-queries of the same kind. Closures are in relation if they end alike on queries that are. -/
inductive Subquery.Mirrors (c : Connection) : Subquery → Subquery → Prop
  | query {q q' : Query} : q.Mirrors c q' → Mirrors c (.query q) (.query q')
  | closure {build build' : Query → Except Error Query} :
    (∀ start start', start.Mirrors c start' →
      EndsAlike (Query.Mirrors c) (build start) (build' start')) →
    Mirrors c (.closure build) (.closure build')
  | sql {s t : String} : Respelled s t → Mirrors c (.sql s) (.sql t)

/-- Right sides of a comparison: the same operand, or sub-queries in relation. -/
inductive Comparand.Mirrors (c : Connection) : Comparand → Comparand → Prop
  | operand {o : Operand} : o.Unmarked → Mirrors c (.operand o) (.operand o)
  | query {s s' : Subquery} : s.Mirrors c s' → Mirrors c (.query s) (.query s')

/-- Left sides of a comparison. -/
inductive Subject.Mirrors (c : Connection) : Subject → Subject → Prop
  | column {column column' : Column} : column.Mirrors column' →
    Mirrors c (.column column) (.column column')
  | query {s s' : Subquery} : s.Mirrors c s' → Mirrors c (.query s) (.query s')

/-- Candidates of an `in` condition. -/
inductive Candidates.Mirrors (c : Connection) : Candidates → Candidates → Prop
  | operands {os : List Operand} : (∀ o ∈ os, o.Unmarked) → Mirrors c (.operands os) (.operands os)
  | query {s s' : Subquery} : s.Mirrors c s' → Mirrors c (.query s) (.query s')

/-- The operator is not the one that a single dialect knows. -/
def SharedOperator (operator : String) : Prop :=
  Text.lower (Text.trim operator) ≠ "sounds like"

instance (operator : String) : Decidable (SharedOperator operator) :=
  inferInstanceAs (Decidable (_ ≠ _))

/-- The text that a comparand is, if it is one. -/
def Comparand.asText? : Comparand → Option String
  | operand (.value (.text s)) => some s
  | _ => none

/-- The texts in a condition row, by their places: a column comes first, an operator may follow, and
the value is a column too where two columns are compared. A row of another length is refused. -/
def PortableRowTexts (ofColumns : Bool) : List (Option String) → Prop
  | [head, value] => (∀ s ∈ head, Unmarked s) ∧ (ofColumns = true → ∀ s ∈ value, Unmarked s)
  | [head, operator, value] =>
    (∀ s ∈ head, Unmarked s) ∧ (∀ s ∈ operator, SharedOperator s) ∧
      (ofColumns = true → ∀ s ∈ value, Unmarked s)
  | [head, operator, value, _] =>
    (∀ s ∈ head, Unmarked s) ∧ (∀ s ∈ operator, SharedOperator s) ∧
      (ofColumns = true → ∀ s ∈ value, Unmarked s)
  | _ => True

/-- Condition rows with elements in relation. -/
structure RowMirrors (c : Connection) (ofColumns : Bool) (row row' : List Comparand) : Prop where
  elements : List.Forall₂ (Comparand.Mirrors c) row row'
  texts : PortableRowTexts ofColumns (row.map Comparand.asText?)

/-- A way to take condition rows ends alike on queries in relation. -/
def ReadingMirrors (c : Connection) (ofColumns : Bool) (reading : Query.RowReading) : Prop :=
  ∀ {q q' : Query}, q.Mirrors c q' → ∀ (connector : Connector) {subject subject' : Subject},
    subject.Mirrors c subject' → ∀ {operator : String}, SharedOperator operator →
      ∀ {value value' : Comparand}, value.Mirrors c value' →
        (ofColumns = true → ∀ s ∈ value.asText?, Unmarked s) →
          EndsAlike (Query.Mirrors c) (reading q connector subject operator value)
            (reading q' connector subject' operator value')

section Arguments

variable {c : Connection} {q q' : Query}

namespace Subquery.Mirrors

variable {s s' : Subquery}

/-- What sub-queries are built to are mirror images, or both fail. -/
theorem build (hs : s.Mirrors c s') (hq : q.Mirrors c q') :
    EndsAlike (Query.Mirrors c) (s.build q) (s'.build q') := by
  cases hs with
  | query hsub => exact .ok hsub
  | closure hbuild => exact hbuild _ _ hq.fresh
  | sql _ => exact .error rfl

/-- Sub-queries are written respelled and with the same values, each in the dialect of its own
query. -/
theorem text (hs : s.Mirrors c s') (hq : q.Mirrors c q') :
    EndsAlike (fun p p' => Respelled p.1 p'.1 ∧ p'.2 = p.2) (s.text q) (s'.text q') := by
  have htexts : ∀ sub sub' : Query, sub.Mirrors c sub' →
      EndsAlike (fun p p' => Respelled p.1 p'.1 ∧ p'.2 = p.2)
        (pure (sub.sql, sub.values)) (pure (sub'.sql, sub'.values)) :=
    fun sub sub' hsub => .ok ⟨hsub.sql, hsub.values⟩
  -- a closure runs before it is written, so it may fail; the others cannot
  cases hs with
  | query hsub => exact htexts _ _ hsub
  | closure hbuild => exact (hbuild _ _ hq.fresh).bind htexts
  | sql hsql => exact .ok ⟨hsql, rfl⟩

end Subquery.Mirrors

namespace Comparand.Mirrors

variable {v v' : Comparand}

theorem isNull (hv : v.Mirrors c v') : v'.isNull = v.isNull := by
  cases hv <;> rfl

/-- A text is read on both sides, and it is the same. -/
theorem text (hv : v.Mirrors c v') (part : String) :
    EndsAlike (fun s s' => s' = s ∧ v.asText? = some s) (v.text part) (v'.text part) := by
  have hrefused := @EndsAlike.shown _ _ (fun s s' => s' = s ∧ v.asText? = some s)
    (.rowPartNotText part) fun _ => rfl
  cases hv with
  | query _ => exact hrefused _ _
  | @operand o _ =>
    cases o with
    | raw sql => exact .error rfl
    | value w =>
      cases w with
      | text s => exact .ok ⟨rfl, rfl⟩
      | _ => exact .error rfl

/-- The first element of a condition row, read as the left side of a condition. A text is a column
name there. -/
theorem subject (hv : v.Mirrors c v') (hname : ∀ s ∈ v.asText?, Unmarked s) :
    EndsAlike (Subject.Mirrors c) v.subject v'.subject := by
  cases hv with
  | query hs => exact .ok (.query hs)
  | @operand o ho =>
    cases o with
    | raw sql => exact .ok (.column (.raw (.of_unmarked ho)))
    | value w =>
      cases w with
      | text s => exact .ok (.column (.name (.of_unmarked (hname s rfl))))
      | _ => exact .error rfl

/-- An element of a condition row, read as a column. -/
theorem column (hv : v.Mirrors c v') (hname : ∀ s ∈ v.asText?, Unmarked s) :
    EndsAlike Column.Mirrors v.column v'.column := by
  cases hv with
  -- both refuse, and each shows the statement of its own query
  | query _ => exact .shown (fun _ => rfl) _ _
  | @operand o ho =>
    cases o with
    | raw sql => exact .ok (.raw (.of_unmarked ho))
    | value w =>
      cases w with
      | text s => exact .ok (.name (.of_unmarked (hname s rfl)))
      | _ => exact .error rfl

end Comparand.Mirrors

theorem sharedOperator_equals : SharedOperator "=" := by
  decide

/-- The operators that all dialects know stay what they are when they are checked again. -/
theorem sharedOperator_of_mem {o : String} (h : o ∈ Dialect.sharedOperators) :
    SharedOperator o := by
  have htrimmed : ∀ o ∈ Dialect.sharedOperators, Text.trim o = o := by decide +kernel
  have hsmall : ∀ o ∈ Dialect.sharedOperators, o.toList.all Text.isSmallAscii = true := by decide
  unfold SharedOperator
  rw [htrimmed o h, Text.lower_of_isSmallAscii (List.all_eq_true.1 (hsmall o h))]
  rintro rfl
  exact absurd h (by decide)

/-- An operator that all dialects know is written alike. -/
theorem respelled_of_mem_sharedOperators {o : String} (h : o ∈ Dialect.sharedOperators) :
    Respelled o o := by
  have hknows : Dialect.plain.knows o = true := by simp [Dialect.knows, h]
  exact compositional_respelled.word (bare_of_knows hknows)

/-- Apart from the operator that is excluded, both dialects know those that all dialects know. -/
theorem knows_of_shared {operator : String} (h : SharedOperator operator) :
    Dialect.mysql.knows (Text.lower (Text.trim operator)) =
        Dialect.sharedOperators.contains (Text.lower (Text.trim operator)) ∧
      Dialect.sqlite.knows (Text.lower (Text.trim operator)) =
        Dialect.sharedOperators.contains (Text.lower (Text.trim operator)) := by
  have hown : Dialect.mysql.ownOperators.contains (Text.lower (Text.trim operator)) = false := by
    simpa [Dialect.ownOperators, SharedOperator] using h
  rw [Dialect.knows, Dialect.knows, hown]
  exact ⟨Bool.or_false _, Bool.or_false _⟩

end Arguments

/-! ## Single conditions -/

namespace Query.Mirrors

variable {c : Connection} {q q' : Query}

/-- Both dialects refuse the operator, or both take it and store the same text. -/
theorem checkedOperator (hq : q.Mirrors c q') {operator : String}
    (hoperator : SharedOperator operator) :
    EndsAlike (fun o o' => o' = o ∧ o ∈ Dialect.sharedOperators) (q.checkedOperator operator)
      (q'.checkedOperator operator) := by
  obtain ⟨hknows, hknows'⟩ := knows_of_shared hoperator
  unfold Query.checkedOperator
  simp only [hq.dialect, hq.dialect', hknows, hknows']
  split
  · next hmem => exact .ok ⟨rfl, List.contains_iff_mem.mp hmem⟩
  · exact .error rfl

/-- The heart of every comparison: a test for null, a comparison with an operand or one with a
sub-query. -/
theorem compareColumn (hq : q.Mirrors c q') (connector : Connector) {column column' : Column}
    (hcolumn : column.Mirrors column') {operator : Option String}
    (hoperator : ∀ o ∈ operator, SharedOperator o) {value value' : Comparand}
    (hvalue : value.Mirrors c value') :
    EndsAlike (Mirrors c) (q.compareColumn connector column operator value)
      (q'.compareColumn connector column' operator value') := by
  -- an operator that is left out is the sign of equality
  have hchecked : SharedOperator (operator.getD "=") := by
    cases operator with
    | none => exact sharedOperator_equals
    | some o => exact hoperator o rfl
  unfold Query.compareColumn
  rw [hvalue.isNull]
  split
  · exact .ok (hq.addWhere connector (compositional_respelled.isNull false hcolumn.text))
  · refine (hq.checkedOperator hchecked).bind ?_
    rintro _ o ⟨rfl, hmem⟩
    have ho := respelled_of_mem_sharedOperators hmem
    cases hvalue with
    | query hs =>
      refine (hs.build hq).bind fun sub sub' hsub => ?_
      rw [hsub.values]
      exact .ok (hq.condition connector sub.values
        (compositional_respelled.compareQuery hcolumn.text ho hsub.textIn))
    | @operand operand hoperand =>
      show EndsAlike (Mirrors c) (if operand.isNull then _ else _) (if operand.isNull then _ else _)
      split
      · exact .ok (hq.addWhere connector (compositional_respelled.isNull (o != "=") hcolumn.text))
      · exact .ok (hq.condition connector operand.scalars
          (compositional_respelled.compare hcolumn.text ho hoperand.sql))

/-- Groups with mirrored conditions, or none where there are no conditions. -/
theorem addGroup (hq : q.Mirrors c q') (connector : Connector) {nested nested' : Query}
    (hnested : nested.Mirrors c nested') :
    (q.addGroup connector nested).Mirrors c (q'.addGroup connector nested') := by
  unfold Query.addGroup
  rw [hnested.members.wheres_isEmpty, hnested.bindings]
  split
  · exact hq
  · exact hq.condition connector _ (compositional_respelled.group hnested.members.wheres)

/-- Groups that closures make. -/
theorem group (hq : q.Mirrors c q') (connector : Connector)
    {build build' : Query → Except Error Query}
    (hbuild : EndsAlike (Mirrors c) (build q.freshOnSource) (build' q'.freshOnSource)) :
    EndsAlike (Mirrors c) (q.group connector build) (q'.group connector build') :=
  hbuild.bind fun _ _ hnested => .ok (hq.addGroup connector hnested)

/-- A comparison, whatever stands on its left. -/
theorem compare (hq : q.Mirrors c q') (connector : Connector) {subject subject' : Subject}
    (hsubject : subject.Mirrors c subject') {operator : Option String}
    (hoperator : ∀ o ∈ operator, SharedOperator o) {value value' : Comparand}
    (hvalue : value.Mirrors c value') :
    EndsAlike (Mirrors c) (q.compare connector subject operator value)
      (q'.compare connector subject' operator value') := by
  cases hsubject with
  | column hcolumn => exact hq.compareColumn connector hcolumn hoperator hvalue
  | query hs =>
    unfold Query.compare
    simp only [hvalue.isNull]
    split
    · -- a group of conditions: a closure is handed a query with the source
      cases hs with
      | query hnested => exact .ok (hq.addGroup connector hnested)
      | closure hbuild => exact hq.group connector (hbuild _ _ hq.freshOnSource)
      | sql _ => exact .error rfl
    · -- the text of the sub-query is the column
      refine (hs.text hq).bind ?_
      rintro ⟨sql, vs⟩ ⟨sql', vs'⟩ ⟨hsql, rfl⟩
      exact (hq.bind .wheres vs').compareColumn connector (.raw hsql.parenthesized) hoperator hvalue

/-- A comparison with an operator. -/
theorem compareSome (hq : q.Mirrors c q') (connector : Connector) {subject subject' : Subject}
    (hsubject : subject.Mirrors c subject') {operator : String}
    (hoperator : SharedOperator operator) {value value' : Comparand}
    (hvalue : value.Mirrors c value') :
    EndsAlike (Mirrors c) (q.compare connector subject (some operator) value)
      (q'.compare connector subject' (some operator) value') := by
  refine hq.compare connector hsubject ?_ hvalue
  rintro _ ⟨⟩
  exact hoperator

/-- A comparison of a named column, as the operations on keys make it. -/
theorem whereIs (hq : q.Mirrors c q') {column operator : String} (hcolumn : Unmarked column)
    (hoperator : SharedOperator operator) {value value' : Comparand}
    (hvalue : value.Mirrors c value') :
    EndsAlike (Mirrors c) (q.whereIs column operator value) (q'.whereIs column operator value') :=
  hq.compareSome .and (.column (.name (.of_unmarked hcolumn))) hoperator hvalue

/-- A comparison of two columns. -/
theorem compareColumns (hq : q.Mirrors c q') (connector : Connector)
    {first first' second second' : Column} (hfirst : first.Mirrors first') {operator : String}
    (hoperator : SharedOperator operator) (hsecond : second.Mirrors second') :
    EndsAlike (Mirrors c) (q.compareColumns connector first operator second)
      (q'.compareColumns connector first' operator second') := by
  refine (hq.checkedOperator hoperator).bind ?_
  rintro _ o ⟨rfl, hmem⟩
  have ho := respelled_of_mem_sharedOperators hmem
  exact .ok (hq.addWhere connector
    (compositional_respelled.compareColumns hfirst.text ho hsecond.text))

theorem whereNull (hq : q.Mirrors c q') (connector : Connector) (negated : Bool) {column : Column}
    (hcolumn : column.Unmarked) :
    (q.whereNull connector negated column).Mirrors c (q'.whereNull connector negated column) :=
  hq.addWhere connector (compositional_respelled.isNull negated hcolumn.mirrors.text)

theorem whereRaw (hq : q.Mirrors c q') (connector : Connector) {sql : String} (hsql : Unmarked sql)
    (vs : List Value) : (q.whereRaw connector sql vs).Mirrors c (q'.whereRaw connector sql vs) :=
  hq.condition connector vs (Compositional.raw (.of_unmarked hsql))

/-- Candidates, or a sub-query in the place of the list. -/
theorem whereIn (hq : q.Mirrors c q') (connector : Connector) (negated : Bool) {column : Column}
    (hcolumn : column.Unmarked) {candidates candidates' : Candidates}
    (hcandidates : candidates.Mirrors c candidates') :
    EndsAlike (Mirrors c) (q.whereIn connector negated column candidates)
      (q'.whereIn connector negated column candidates') := by
  have hname := hcolumn.mirrors.text
  cases hcandidates with
  | operands hos =>
    exact .ok (hq.condition connector _
      (compositional_respelled.isIn negated hname (respelled_operands hos)))
  | query hs =>
    -- the sub-query is written in its own dialect and becomes the one member of the list
    refine (hs.text hq).bind ?_
    rintro ⟨sql, vs⟩ ⟨sql', vs'⟩ ⟨hsql, rfl⟩
    exact .ok (hq.condition connector vs'
      (compositional_respelled.isIn negated hname (.cons hsql .nil)))

/-- A range between two operands. -/
theorem whereBetween (hq : q.Mirrors c q') (connector : Connector) (negated : Bool)
    {column : Column} (hcolumn : column.Unmarked) {low high : Operand} (hlow : low.Unmarked)
    (hhigh : high.Unmarked) :
    (q.whereBetween connector negated column low high).Mirrors c
      (q'.whereBetween connector negated column low high) :=
  hq.condition connector (low.scalars ++ high.scalars)
    (compositional_respelled.between negated hcolumn.mirrors.text hlow.sql hhigh.sql)

theorem whereBetweenColumns (hq : q.Mirrors c q') (negated : Bool) {column low high : Column}
    (hcolumn : column.Unmarked) (hlow : low.Unmarked) (hhigh : high.Unmarked) :
    (q.whereBetweenColumns negated column low high).Mirrors c
      (q'.whereBetweenColumns negated column low high) :=
  hq.addWhere .and (compositional_respelled.betweenColumns negated hcolumn.mirrors.text
    hlow.mirrors.text hhigh.mirrors.text)

/-- A test for the rows of a query that has been built. -/
theorem addExists (hq : q.Mirrors c q') (connector : Connector) (negated : Bool) {sub sub' : Query}
    (hsub : sub.Mirrors c sub') :
    (q.addExists connector negated sub).Mirrors c (q'.addExists connector negated sub') := by
  unfold Query.addExists
  rw [hsub.values]
  exact hq.condition connector sub.values (compositional_respelled.exists negated hsub.textIn)

/-- A test for the rows of a sub-query. -/
theorem whereExists (hq : q.Mirrors c q') (connector : Connector) (negated : Bool) {s s' : Subquery}
    (hs : s.Mirrors c s') :
    EndsAlike (Mirrors c) (q.whereExists connector negated s)
      (q'.whereExists connector negated s') :=
  (hs.build hq).bind fun _ _ hsub => .ok (hq.addExists connector negated hsub)

/-! ### Conditions on groups -/

/-- A comparison on groups. -/
theorem having (hq : q.Mirrors c q') (connector : Connector) {column : Column}
    (hcolumn : column.Unmarked) {operator : String} (hoperator : SharedOperator operator)
    {value : Operand} (hvalue : value.Unmarked) :
    EndsAlike (Mirrors c) (q.having connector column operator value)
      (q'.having connector column operator value) := by
  refine (hq.checkedOperator hoperator).bind ?_
  rintro _ o ⟨rfl, hmem⟩
  have ho := respelled_of_mem_sharedOperators hmem
  exact .ok (hq.havingCondition connector value.scalars
    (compositional_respelled.compare hcolumn.mirrors.text ho hvalue.sql))

theorem havingRaw (hq : q.Mirrors c q') (connector : Connector) {sql : String} (hsql : Unmarked sql)
    (vs : List Value) : (q.havingRaw connector sql vs).Mirrors c (q'.havingRaw connector sql vs) :=
  hq.havingCondition connector vs (Compositional.raw (.of_unmarked hsql))

theorem havingNull (hq : q.Mirrors c q') (negated : Bool) {column : Column}
    (hcolumn : column.Unmarked) :
    (q.havingNull negated column).Mirrors c (q'.havingNull negated column) := by
  have hcondition := hq.havingCondition .and []
    (compositional_respelled.isNull negated hcolumn.mirrors.text)
  rwa [bind_nil, bind_nil] at hcondition

/-- A range on groups. -/
theorem havingBetween (hq : q.Mirrors c q') {column : Column} (hcolumn : column.Unmarked)
    {low high : Operand} (hlow : low.Unmarked) (hhigh : high.Unmarked) :
    (q.havingBetween column low high).Mirrors c (q'.havingBetween column low high) :=
  hq.havingCondition .and (low.scalars ++ high.scalars)
    (compositional_respelled.between false hcolumn.mirrors.text hlow.sql hhigh.sql)

/-! ## Rows and pairs -/

theorem compareRow : ReadingMirrors c false compareRow := by
  intro q q' hq connector subject subject' hsubject operator hoperator value value' hvalue _
  exact hq.compareSome connector hsubject hoperator hvalue

/-- Rows read as comparisons of columns. Where another column should stand and does not, both
refuse. -/
theorem compareColumnRow : ReadingMirrors c true compareColumnRow := by
  intro q q' hq connector subject subject' hsubject operator hoperator value value' hvalue hname
  cases hsubject with
  | query _ => exact .error rfl
  | column hfirst =>
    refine (hvalue.column (hname rfl)).bind fun second second' hsecond => ?_
    exact hq.compareColumns connector hfirst hoperator hsecond

/-- A row of one element has to be a closure, which builds a group. -/
theorem addRow_single (hq : q.Mirrors c q') (reading : RowReading) {v v' : Comparand}
    (hv : v.Mirrors c v') :
    EndsAlike (Mirrors c) (Query.addRow reading q [v]) (Query.addRow reading q' [v']) := by
  have hrefused := @EndsAlike.shown _ _ (Mirrors c) .rowNotGroup fun _ => rfl
  cases hv with
  | operand _ =>
    simp only [Query.addRow]
    exact hrefused _ _
  | query hs =>
    cases hs with
    | closure hbuild => exact hq.group .and (hbuild _ _ hq.freshOnSource)
    | query _ =>
      simp only [Query.addRow]
      exact hrefused _ _
    | sql _ =>
      simp only [Query.addRow]
      exact hrefused _ _

/-- A condition row. Rows of one to four elements are read, other lengths are refused on both
sides. -/
theorem addRow {ofColumns : Bool} {reading : RowReading}
    (hreading : ReadingMirrors c ofColumns reading) (hq : q.Mirrors c q')
    {row row' : List Comparand} (hrow : RowMirrors c ofColumns row row') :
    EndsAlike (Mirrors c) (Query.addRow reading q row) (Query.addRow reading q' row') := by
  obtain ⟨helements, htexts⟩ := hrow
  -- one case for each length
  cases helements with
  | nil => exact .error rfl
  | cons hhead helements => cases helements with
    | nil => exact addRow_single hq reading hhead
    | cons hsecond helements => cases helements with
      | nil =>
        obtain ⟨hname, hcolumn⟩ := htexts
        simp only [Query.addRow]
        refine (hhead.subject hname).bind fun subject subject' hsubject => ?_
        exact hreading hq .and hsubject sharedOperator_equals hsecond hcolumn
      | cons hthird helements => cases helements with
        | nil =>
          obtain ⟨hname, hshared, hcolumn⟩ := htexts
          simp only [Query.addRow]
          refine (hhead.subject hname).bind fun subject subject' hsubject => ?_
          refine (hsecond.text "operator").bind ?_
          rintro _ operator ⟨rfl, htext⟩
          exact hreading hq .and hsubject (hshared operator htext) hthird hcolumn
        | cons hfourth helements => cases helements with
          | nil =>
            obtain ⟨hname, hshared, hcolumn⟩ := htexts
            simp only [Query.addRow]
            refine (hhead.subject hname).bind fun subject subject' hsubject => ?_
            refine (hsecond.text "operator").bind ?_
            rintro _ operator ⟨rfl, htext⟩
            refine (hfourth.text "boolean").bind ?_
            rintro _ word ⟨rfl, -⟩
            refine (EndsAlike.same (Connector.read word)).bind ?_
            rintro _ connector ⟨rfl, -⟩
            exact hreading hq connector hsubject (hshared operator htext) hthird hcolumn
          | cons _ helements =>
            have hlength := helements.length_eq
            simp only [Query.addRow, List.length_cons, hlength]
            exact .error rfl

/-- Rows grow groups on the sources of both queries. -/
theorem addRows {ofColumns : Bool} {reading : RowReading}
    (hreading : ReadingMirrors c ofColumns reading) (hq : q.Mirrors c q') (connector : Connector)
    {rows rows' : List (List Comparand)}
    (hrows : List.Forall₂ (RowMirrors c ofColumns) rows rows') :
    EndsAlike (Mirrors c) (q.addRows reading connector rows)
      (q'.addRows reading connector rows') := by
  have hstep : ∀ nested nested' row row', nested.Mirrors c nested' →
      RowMirrors c ofColumns row row' →
      EndsAlike (Mirrors c) (Query.addRow reading nested row) (Query.addRow reading nested' row') :=
    fun _ _ _ _ hnested hrow => addRow hreading hnested hrow
  unfold Query.addRows
  refine (EndsAlike.foldlM hstep hrows hq.freshOnSource).bind fun _ _ hnested => ?_
  exact .ok (hq.addGroup connector hnested)

/-- Columns without quotation marks and values in relation. -/
theorem wherePairs (hq : q.Mirrors c q') (connector : Connector)
    {pairs pairs' : List (String × Comparand)}
    (hpairs : List.Forall₂ (fun p p' => p'.1 = p.1 ∧ Unmarked p.1 ∧
      p.2.Mirrors c p'.2) pairs pairs') :
    EndsAlike (Mirrors c) (q.wherePairs connector pairs) (q'.wherePairs connector pairs') := by
  unfold Query.wherePairs
  refine (EndsAlike.foldlM ?_ hpairs hq.freshOnSource).bind fun _ _ hnested =>
    .ok (hq.addGroup connector hnested)
  rintro nested nested' ⟨column, value⟩ ⟨_, value'⟩ hnested ⟨rfl, hcolumn, hvalue⟩
  exact hnested.whereIs hcolumn sharedOperator_equals hvalue

end Query.Mirrors

end QueryBuilder
