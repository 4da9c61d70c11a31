import QueryBuilder.Proofs.Admission
import QueryBuilder.Proofs.StatementText

/-!
# The edits that programs are made of

Whatever a step is called, what it does to a query is one of a few edits: a member is appended to a
clause and its values are filed under that clause. This module lists the edits, so that a property
of all programs is proved edit by edit and not step by step.

- `Written...`: what a program may write at a place of a statement, with the values that it binds
  there. A sub-query is written as its text or as a tree; either way a run has built it.
- `EditClosed r I`: the relation `I` holds between a query and itself, and goes on to hold under
  each edit. `I p q` is read as "a run that started on `p` has come to `q`".
-/

namespace QueryBuilder

section Written

variable (r : Rules) (I : Query → Query → Prop)

/-- A text that stands for a sub-query. -/
inductive WrittenSub : String → List Value → Prop
  | query {c : Connection} {sub : Query} : I (.on c) sub → WrittenSub sub.sql sub.values
  | raw {sql : String} : r.raw sql [] → WrittenSub sql []

/-- A column position. -/
inductive WrittenColumn : Column → List Value → Prop
  | name (s : String) : WrittenColumn (.name s) []
  | raw {sql : String} {vs : List Value} : r.raw sql vs → WrittenColumn (.raw sql) vs
  | sub {sql : String} {vs : List Value} :
    WrittenSub r I sql vs → WrittenColumn (.raw ("(" ++ sql ++ ")")) vs
  | labelled {sql : String} {vs : List Value} (d : Dialect) (label : String) :
    WrittenSub r I sql vs → WrittenColumn (.raw ("(" ++ sql ++ ") as " ++ d.quote label)) vs
  /-- A function over a column of a related table; null reads as zero. -/
  | call (d : Dialect) {function : String} (column : String) :
    r.raw function [] ∨ function = "count" →
      WrittenColumn (.raw (d.ifNull (function ++ "(" ++ d.quoteName column ++ ")") "0")) []
  | countAll : WrittenColumn (.raw "count(*)") []

/-- A source. -/
inductive WrittenSource : Source → List Value → Prop
  | table (s : String) : WrittenSource (.table s) []
  | raw {sql : String} {vs : List Value} : r.raw sql vs → WrittenSource (.raw sql) vs
  | labelled {sql : String} {vs : List Value} (d : Dialect) (label : String) :
    WrittenSub r I sql vs → WrittenSource (.raw ("(" ++ sql ++ ") as " ++ d.quoteName label)) vs

/-- An entry of an ordering. -/
inductive WrittenSortKey : SortKey → List Value → Prop
  | column {c : Column} {vs : List Value} (direction : Direction) :
    WrittenColumn r I c vs → WrittenSortKey (.column c direction) vs
  | raw {sql : String} {vs : List Value} : r.raw sql vs → WrittenSortKey (.raw sql) vs
  | random (d : Dialect) {seed : String} : r.raw seed [] → WrittenSortKey (.raw (d.random seed)) []

/-- A predicate. Its operator has been checked by the dialect `d`, except in a comparison that a
join is made on. -/
inductive WrittenPredicate (d : Dialect) : Predicate → List Value → Prop
  | compare {c : Column} {vs : List Value} {operator : String} {o : Operand} :
    WrittenColumn r I c vs → d.knows operator = true → r.AllowsOperand o →
      WrittenPredicate d (.compare c operator o) (vs ++ o.scalars)
  | compareColumns {first second : Column} {operator : String} :
    WrittenColumn r I first [] → d.knows operator = true → WrittenColumn r I second [] →
      WrittenPredicate d (.compareColumns first operator second) []
  | on (first : String) {operator : String} (second : String) :
    r.raw operator [] →
      WrittenPredicate d (.compareColumns (.name first) operator (.name second)) []
  | isNull (negated : Bool) {c : Column} {vs : List Value} :
    WrittenColumn r I c vs → WrittenPredicate d (.isNull negated c) vs
  | raw {sql : String} {vs : List Value} : r.raw sql vs → WrittenPredicate d (.raw sql) vs
  | isIn (negated : Bool) {c : Column} {os : List Operand} :
    WrittenColumn r I c [] → (∀ o ∈ os, r.AllowsOperand o) →
      WrittenPredicate d (.isIn negated c os) (os.flatMap Operand.scalars)
  | isInSub (negated : Bool) {c : Column} {sql : String} {vs : List Value} :
    WrittenColumn r I c [] → WrittenSub r I sql vs →
      WrittenPredicate d (.isIn negated c [.raw sql]) vs
  | between (negated : Bool) {c : Column} {low high : Operand} :
    WrittenColumn r I c [] → r.AllowsOperand low → r.AllowsOperand high →
      WrittenPredicate d (.between negated c low high) (low.scalars ++ high.scalars)
  | betweenColumns (negated : Bool) {c low high : Column} :
    WrittenColumn r I c [] → WrittenColumn r I low [] → WrittenColumn r I high [] →
      WrittenPredicate d (.betweenColumns negated c low high) []
  | datePart (part : DatePart) {c : Column} {operator : String} {o : Operand} :
    WrittenColumn r I c [] → d.knows operator = true → r.AllowsOperand o →
      WrittenPredicate d (.datePart part c operator o) o.scalars
  /-- The conditions of a query that was built on the source of the query around it, or on none. -/
  | group {c : Connection} (source : Option Source) {nested : Query} :
    I { Query.on c with source } nested →
      WrittenPredicate d (.group nested.wheres) (nested.bindings.get .wheres)
  | compareQuery {c : Column} {vs : List Value} {operator : String} {connection : Connection}
      {sub : Query} :
    WrittenColumn r I c vs → d.knows operator = true → I (.on connection) sub →
      WrittenPredicate d (.compareQuery c operator sub) (vs ++ sub.values)
  | exists (negated : Bool) {connection : Connection} {sub : Query} :
    I (.on connection) sub → WrittenPredicate d (.exists negated sub) sub.values

end Written

/-- A sub-query binds scalars only: a list in an operand has been spread where it was filed, and a
raw text binds nothing. -/
theorem WrittenSub.spread {r : Rules} {I : Query → Query → Prop} {sql : String} {vs : List Value}
    (h : WrittenSub r I sql vs) : ∀ v ∈ vs, v.leaves = [v] := by
  cases h with
  | @query c sub _ => exact sub.leaves_of_mem_values
  | raw _ => exact fun v hv => absurd hv List.not_mem_nil

/-- Nothing but values of conditions is filed in the query: the inner query of a join is of this
kind. -/
def Query.OnlyConditions (q : Query) : Prop :=
  ∀ c, c ≠ Clause.wheres → q.bindings.get c = []

/-- A relation between a query and what a run that keeps the rules makes of it. -/
structure EditClosed (r : Rules) (I : Query → Query → Prop) : Prop where
  refl (q : Query) : I q q
  select {p q : Query} {cs : List Column} :
    I p q → (∀ c ∈ cs, WrittenColumn r I c []) → I p (q.select cs)
  column {p q : Query} {c : Column} {vs : List Value} :
    I p q → WrittenColumn r I c vs → I p ((q.addSelect [c]).bind .columns vs)
  distinct {p q : Query} : I p q → I p q.onlyDistinct
  source {p q : Query} {s : Source} {vs : List Value} :
    I p q → WrittenSource r I s vs → r.AllowsReplacing q → I p ((q.fromSource s).bind .source vs)
  /-- What the source of a join binds has been spread into scalars. -/
  join {p q inner : Query} {c : Connection} {s : Source} {vs : List Value} (kind : JoinKind) :
    I p q → WrittenSource r I s vs → (∀ v ∈ vs, v.leaves = [v]) → I (.on c) inner →
      inner.OnlyConditions → I p ((q.bind .joins vs).addJoin ⟨kind, s, inner⟩)
  condition {p q : Query} {predicate : Predicate} {vs : List Value} (connector : Connector) :
    I p q → WrittenPredicate r I q.dialect predicate vs →
      I p ((q.bind .wheres vs).addWhere connector predicate)
  group {p q : Query} {c : Column} {vs : List Value} :
    I p q → WrittenColumn r I c vs → I p ((q.groupBy [c]).bind .groups vs)
  having {p q : Query} {predicate : Predicate} {vs : List Value} (connector : Connector) :
    I p q → WrittenPredicate r I q.dialect predicate vs →
      I p ((q.bind .havings vs).addHaving connector predicate)
  order {p q : Query} {key : SortKey} {vs : List Value} :
    I p q → WrittenSortKey r I key vs → I p ((q.addSortKey key).bind q.orderClause vs)
  reorder {p q : Query} : I p q → I p q.reorder
  withoutOrdersBy {p q : Query} (column : String) : I p q → I p (q.withoutOrdersBy column)
  limit {p q : Query} (count : Nat) : I p q → I p (q.limit count)
  offset {p q : Query} (count : Nat) : I p q → I p (q.offset count)
  union {p q sub : Query} {c : Connection} (all : Bool) :
    I p q → I (.on c) sub →
      I p { q.bind .unions sub.values with unions := q.unions ++ [⟨all, sub⟩] }
  loads {p q : Query} (eagerLoads : List (String × Relation)) : I p q → I p { q with eagerLoads }
  values {p q : Query} (bindings : Bindings) : r.apart → I p q → I p { q with bindings }
  drop {p q : Query} (part : Part) : r.apart → I p q → I p (q.drop part)
  fresh {p q : Query} : I p q → I p q.fresh

namespace Query

/-- Filing no values changes no bucket. Edits that bind nothing are instances of edits that
bind. -/
@[simp] theorem bind_nil (q : Query) (c : Clause) : q.bind c [] = q := by
  have hbindings : q.bindings.extend c [] = q.bindings := by
    refine Bindings.ext_get fun e => ?_
    rw [Bindings.get_extend]
    split <;> simp
  unfold bind
  -- a record is what it is with its own bindings put back
  rw [hbindings]
  cases q
  rfl

/-- Values filed under one clause in two goes are filed in one, those of the first in front. -/
theorem bind_bind (q : Query) (c : Clause) (vs ws : List Value) :
    (q.bind c vs).bind c ws = q.bind c (vs ++ ws) := by
  have hbindings : (q.bindings.extend c vs).extend c ws = q.bindings.extend c (vs ++ ws) := by
    refine Bindings.ext_get fun e => ?_
    simp only [Bindings.get_extend]
    split <;> simp
  unfold bind
  rw [hbindings]

/-- Orderings and windows bind nothing themselves; their values are filed apart. -/
theorem bindings_updateTail (q : Query) (f : Tail → Tail) :
    (q.updateTail f).bindings = q.bindings := by
  unfold updateTail
  split <;> rfl

/-- It does not matter whether an ordering or its values come first. -/
theorem addSortKey_bind (q : Query) (c : Clause) (vs : List Value) (key : SortKey) :
    (q.bind c vs).addSortKey key = (q.addSortKey key).bind c vs := by
  unfold addSortKey updateTail
  show (if q.isUnion then _ else _) = _
  split <;> rfl

@[simp] theorem addSelect_nil (q : Query) : q.addSelect [] = q := by
  unfold addSelect
  rw [List.append_nil]
  cases q
  rfl

/-- Columns may be added one by one. -/
theorem addSelect_cons (q : Query) (c : Column) (cs : List Column) :
    q.addSelect (c :: cs) = (q.addSelect [c]).addSelect cs := by
  unfold addSelect
  rw [List.append_cons]

@[simp] theorem groupBy_nil (q : Query) : q.groupBy [] = q := by
  unfold groupBy
  rw [List.append_nil]
  cases q
  rfl

/-- Groupings may be added one by one. -/
theorem groupBy_cons (q : Query) (c : Column) (cs : List Column) :
    q.groupBy (c :: cs) = (q.groupBy [c]).groupBy cs := by
  unfold groupBy
  rw [List.append_cons]

end Query

namespace EditClosed

variable {r : Rules} {I : Query → Query → Prop} {p q : Query}

/-- Columns without values, added together: an edit for each of them. -/
theorem columns (h : EditClosed r I) (hq : I p q) {cs : List Column}
    (hcs : ∀ c ∈ cs, WrittenColumn r I c []) : I p (q.addSelect cs) := by
  -- the query grows with the list, so the induction is over all queries
  induction cs generalizing q with
  | nil => rwa [Query.addSelect_nil]
  | cons c cs ih =>
    have hc := h.column hq (hcs c List.mem_cons_self)
    rw [Query.bind_nil] at hc
    rw [Query.addSelect_cons]
    exact ih hc fun e he => hcs e (List.mem_cons_of_mem c he)

/-- Groupings without values, added together: an edit for each of them. -/
theorem groups (h : EditClosed r I) (hq : I p q) {cs : List Column}
    (hcs : ∀ c ∈ cs, WrittenColumn r I c []) : I p (q.groupBy cs) := by
  induction cs generalizing q with
  | nil => rwa [Query.groupBy_nil]
  | cons c cs ih =>
    have hc := h.group hq (hcs c List.mem_cons_self)
    rw [Query.bind_nil] at hc
    rw [Query.groupBy_cons]
    exact ih hc fun e he => hcs e (List.mem_cons_of_mem c he)

/-- Parts are dropped one after the other. -/
theorem drops (h : EditClosed r I) (hapart : r.apart) (hq : I p q) (parts : List Part) :
    I p (q.without parts) := by
  unfold Query.without
  induction parts generalizing q with
  | nil => exact hq
  | cons part parts ih => exact ih (h.drop part hapart hq)

/-- An ordering by a column binds nothing. -/
theorem orderBy (h : EditClosed r I) (hq : I p q) {c : Column} (hc : WrittenColumn r I c [])
    (direction : Direction) : I p (q.orderBy c direction) := by
  have hkey := h.order hq (.column direction hc)
  rwa [Query.bind_nil] at hkey

/-- A source that binds nothing replaces the source. -/
theorem fromSource (h : EditClosed r I) (hq : I p q) {s : Source} (hs : WrittenSource r I s [])
    (hreplacing : r.AllowsReplacing q) : I p (q.fromSource s) := by
  have hsource := h.source hq hs hreplacing
  rwa [Query.bind_nil] at hsource

/-- A condition on groups that binds nothing. -/
theorem unboundHaving (h : EditClosed r I) (hq : I p q) (connector : Connector)
    {predicate : Predicate} (hpredicate : WrittenPredicate r I q.dialect predicate []) :
    I p (q.addHaving connector predicate) := by
  have hhaving := h.having connector hq hpredicate
  rwa [Query.bind_nil] at hhaving

end EditClosed

end QueryBuilder
