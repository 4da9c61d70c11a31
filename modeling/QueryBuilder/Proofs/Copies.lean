import QueryBuilder.Proofs.Alignment
import QueryBuilder.Proofs.Connections

/-!
# Copies that leave out parts

A copy of a query may leave out some of its parts, or the values of some of its clauses. Parts are
left out one by one; the result is that of leaving them all out at once, so neither their order nor
repetitions count. The statement of the copy is that of the query with the fragments of these parts
left out, and nothing else in it changes.

- `Query.leavingOut`: parts left out all at once. `Query.without_eq`: so does a copy.
- `Fragments`: the texts that a statement is put together from, under the parts that they belong to.
  `Query.sql_eq_statement`: the statement of a query is put together from its fragments.
- `Fragments.leavingOut`: the fragments without those of some parts. The star takes the place of
  columns.
- `Query.aggregate_of_runSteps`: programs put no aggregate in place.
- `copy_leaves_out_parts`: what a copy leaves out, and what stays.
-/

namespace QueryBuilder

/-! ## Parts left out at once -/

namespace Query

/-- The query without some parts. -/
def leavingOut (q : Query) (parts : List Part) : Query :=
  { q with
    aggregate := if .aggregate ∈ parts then none else q.aggregate
    columns := if .columns ∈ parts then [] else q.columns
    source := if .source ∈ parts then none else q.source
    joins := if .joins ∈ parts then [] else q.joins
    wheres := if .wheres ∈ parts then [] else q.wheres
    groups := if .groups ∈ parts then [] else q.groups
    havings := if .havings ∈ parts then [] else q.havings
    tail :=
      { orders := if .orders ∈ parts then [] else q.tail.orders
        limit := if .limit ∈ parts then none else q.tail.limit
        offset := if .offset ∈ parts then none else q.tail.offset }
    unions := if .unions ∈ parts then [] else q.unions
    unionTail :=
      { orders := if .unionOrders ∈ parts then [] else q.unionTail.orders
        limit := if .unionLimit ∈ parts then none else q.unionTail.limit
        offset := if .unionOffset ∈ parts then none else q.unionTail.offset }
    eagerLoads := if .eagerLoads ∈ parts then [] else q.eagerLoads }

/-- A part that is left out first may be left out with the others. -/
theorem leavingOut_drop (q : Query) (part : Part) (parts : List Part) :
    (q.drop part).leavingOut parts = q.leavingOut (part :: parts) := by
  cases part <;> simp [drop, leavingOut]

/-- Parts left out one after another are left out at once. -/
theorem without_eq (q : Query) (parts : List Part) : q.without parts = q.leavingOut parts := by
  unfold without
  -- on the parts, for every query: the next part is left out of what is left
  induction parts generalizing q with
  | nil =>
    cases q
    simp [leavingOut]
  | cons part parts ih => rw [List.foldl_cons, ih, leavingOut_drop]

/-- Only which parts are named counts, not in which order or how often. -/
theorem leavingOut_congr (q : Query) {parts others : List Part}
    (h : ∀ part, part ∈ others ↔ part ∈ parts) : q.leavingOut others = q.leavingOut parts := by
  simp only [leavingOut, h]

end Query

/-! ## Fragments -/

/-- The texts that a statement is put together from: the columns, the clauses behind them, the
further selects of a union, and what belongs to the whole union. -/
structure Fragments where
  columns : String
  clauses : List (Part × String)
  unions : List String
  tail : List (Part × String)

namespace Fragments

/-- The statement that the fragments make up. Without further selects nothing but the first is
written. -/
def statement (f : Fragments) : String :=
  let select := concatenate (f.columns :: f.clauses.map Prod.snd)
  if f.unions.isEmpty then select
  else Dialect.parenthesized select ++ " " ++ concatenate (f.unions ++ f.tail.map Prod.snd)

/-- The fragments without those of some parts; the star takes the place of the columns. -/
def leavingOut (f : Fragments) (parts : List Part) (star : String) : Fragments where
  columns := if .columns ∈ parts then star else f.columns
  clauses := f.clauses.filter fun fragment => fragment.1 ∉ parts
  unions := if .unions ∈ parts then [] else f.unions
  tail := f.tail.filter fun fragment => fragment.1 ∉ parts

/-- It makes no difference whether a fragment is left out or empty. -/
theorem concatenate_blank (front : List String) (parts : List Part)
    (fragments : List (Part × String)) :
    concatenate (front ++ fragments.map fun fragment =>
        if fragment.1 ∈ parts then "" else fragment.2) =
      concatenate (front ++
        (fragments.filter fun fragment => fragment.1 ∉ parts).map Prod.snd) := by
  -- joining passes over empty texts, so both sides filter the same list
  unfold concatenate
  rw [List.filter_append, List.filter_append]
  congr 2
  induction fragments with
  | nil => rfl
  | cons fragment fragments ih =>
    rw [List.map_cons, List.filter_cons]
    by_cases hout : fragment.1 ∈ parts
    · rw [List.filter_cons_of_neg (by simpa using hout), if_pos hout, ih]
      rfl
    · rw [List.filter_cons_of_pos (by simpa using hout), if_neg hout, ih, List.map_cons,
        List.filter_cons]

end Fragments

namespace Query

/-- The fragments of a query. -/
def fragments (q : Query) : Fragments where
  columns := q.dialect.columnsText q.distinct q.columns
  clauses :=
    [.source, .joins, .wheres, .groups, .havings, .orders, .limit, .offset].zip
      (q.clausesBehind q.tail)
  unions := unionTexts q.dialect q.unions
  tail :=
    [(.unionOrders, q.dialect.ordersText q.unionTail.orders),
      (.unionLimit, Dialect.limitText q.unionTail.limit),
      (.unionOffset, Dialect.offsetText q.unionTail.offset)]

/-- The selection of all columns. -/
def starText (q : Query) : String :=
  if q.distinct then "select distinct *" else "select *"

variable {q : Query}

/-- The statement of a query is put together from its fragments. -/
theorem sql_eq_statement (hplain : q.aggregate = none) : q.sql = q.fragments.statement := by
  rw [sql, textIn_eq_body (.inl hplain), body_eq, hplain, ← isEmpty_unionTexts q.dialect]
  rfl

/-- What is left out has an empty text. -/
theorem text_leftOut {α : Type} (text : α → String) {none : α} (hnone : text none = "") (p : Prop)
    [Decidable p] (x : α) : text (if p then none else x) = if p then "" else text x := by
  split
  · exact hnone
  · rfl

/-- Without columns a query selects the star, and keeps `distinct`. -/
theorem columns_leavingOut (q : Query) (parts : List Part) :
    (q.leavingOut parts).fragments.columns = (q.fragments.leavingOut parts q.starText).columns := by
  show q.dialect.columnsText q.distinct (if .columns ∈ parts then [] else q.columns) =
    if .columns ∈ parts then q.starText else q.dialect.columnsText q.distinct q.columns
  have hstar : q.dialect.columns [Column.star] = "*" := by cases q.dialect <;> rfl
  split
  · unfold starText Dialect.columnsText
    rw [if_pos List.isEmpty_nil, hstar]
    split <;> rfl
  · rfl

/-- The clauses that are left out have empty texts, and the others stay as they are. -/
theorem clauses_leavingOut (q : Query) (parts : List Part) :
    (q.leavingOut parts).fragments.clauses.map Prod.snd =
      q.fragments.clauses.map fun fragment => if fragment.1 ∈ parts then "" else fragment.2 := by
  have hwheres : keyword "where" (conditionsText q.dialect []) = "" := rfl
  have hhavings : keyword "having" (conditionsText q.dialect []) = "" := rfl
  simp only [fragments, clausesBehind, List.zip_cons_cons, List.zip_nil_right, List.map_cons,
    List.map_nil, List.cons.injEq, and_true]
  exact ⟨text_leftOut q.dialect.sourceText rfl _ _, text_leftOut (joinsText q.dialect) rfl _ _,
    text_leftOut (fun ws => keyword "where" (conditionsText q.dialect ws)) hwheres _ _,
    text_leftOut q.dialect.groupsText rfl _ _,
    text_leftOut (fun ws => keyword "having" (conditionsText q.dialect ws)) hhavings _ _,
    text_leftOut q.dialect.ordersText rfl _ _, text_leftOut Dialect.limitText rfl _ _,
    text_leftOut Dialect.offsetText rfl _ _⟩

/-- Further selects are left out all at once. -/
theorem unions_leavingOut (q : Query) (parts : List Part) :
    (q.leavingOut parts).fragments.unions = (q.fragments.leavingOut parts q.starText).unions := by
  show unionTexts q.dialect (if .unions ∈ parts then [] else q.unions) =
    if .unions ∈ parts then [] else _
  split <;> rfl

/-- The orderings and the window of a union are left out like clauses. -/
theorem tail_leavingOut (q : Query) (parts : List Part) :
    (q.leavingOut parts).fragments.tail.map Prod.snd =
      q.fragments.tail.map fun fragment => if fragment.1 ∈ parts then "" else fragment.2 := by
  simp only [fragments, List.map_cons, List.map_nil, List.cons.injEq, and_true]
  exact ⟨text_leftOut q.dialect.ordersText rfl _ _, text_leftOut Dialect.limitText rfl _ _,
    text_leftOut Dialect.offsetText rfl _ _⟩

/-- The fragments of the parts that are left out are missing from the statement, and nothing else
is. -/
theorem statement_leavingOut (q : Query) (parts : List Part) :
    (q.leavingOut parts).fragments.statement =
      (q.fragments.leavingOut parts q.starText).statement := by
  -- an empty fragment is as good as none, whatever stands in front of it
  have hselect : ∀ columns : String,
      concatenate (columns :: (q.leavingOut parts).fragments.clauses.map Prod.snd) =
        concatenate
          (columns :: (q.fragments.leavingOut parts q.starText).clauses.map Prod.snd) := by
    intro columns
    rw [clauses_leavingOut]
    exact Fragments.concatenate_blank [columns] parts q.fragments.clauses
  have htail : ∀ unions : List String,
      concatenate (unions ++ (q.leavingOut parts).fragments.tail.map Prod.snd) =
        concatenate (unions ++ (q.fragments.leavingOut parts q.starText).tail.map Prod.snd) := by
    intro unions
    rw [tail_leavingOut]
    exact Fragments.concatenate_blank unions parts q.fragments.tail
  unfold Fragments.statement
  rw [columns_leavingOut, unions_leavingOut, hselect, htail]

/-! ## What programs build -/

theorem aggregate_updateTail (f : Tail → Tail) : (q.updateTail f).aggregate = q.aggregate := by
  unfold updateTail
  split <;> rfl

theorem aggregate_drop (part : Part) (h : q.aggregate = none) : (q.drop part).aggregate = none := by
  cases part with
  | aggregate => rfl
  | _ => exact h

/-- No edit puts an aggregate in place. -/
theorem editClosed_plain (r : Rules) :
    EditClosed r fun p q => p.aggregate = none → q.aggregate = none where
  refl _ := id
  select hq _ := hq
  column hq _ := hq
  distinct hq := hq
  source hq _ _ := hq
  join _ hq _ _ _ _ := hq
  condition _ hq _ := hq
  group hq _ := hq
  having _ hq _ := hq
  order hq _ hp := (aggregate_updateTail _).trans (hq hp)
  reorder hq := hq
  withoutOrdersBy _ hq := hq
  limit _ hq hp := (aggregate_updateTail _).trans (hq hp)
  offset _ hq hp := (aggregate_updateTail _).trans (hq hp)
  union _ hq _ := hq
  loads _ hq := hq
  values _ _ hq := hq
  drop part _ hq hp := aggregate_drop part (hq hp)
  fresh _ _ := rfl

/-- No program puts an aggregate in place, however deep its steps are nested. -/
theorem aggregate_of_runSteps {steps : List Step} {q' : Query} (hplain : q.aggregate = none)
    (hrun : runSteps steps q = .ok q') : q'.aggregate = none :=
  (editClosed_plain .anything).stepsKeep steps id (Rules.allowsSteps_anything steps q) hrun hplain

/-! ## Values left out -/

/-- The values of the clauses named are gone, those of the others stay. -/
theorem get_withoutBindings (q : Query) (clauses : List Clause) (c : Clause) :
    (q.withoutBindings clauses).bindings.get c = if c ∈ clauses then [] else q.bindings.get c :=
  Bindings.get_foldl_clear clauses q.bindings c

end Query

/-- A copy of a query that a program has built, without some parts: its statement is put together
from the fragments that the query's own is put together from, those of the parts left out, and the
star in the place of columns that are left out. The values stay, and it only counts which parts are
named. A copy without the values of some clauses has the values of the others and the same
statement. -/
theorem copy_leaves_out_parts {c : Connection} {steps : List Step} {q : Query}
    (hrun : runSteps steps (.on c) = .ok q) (parts : List Part) (clauses : List Clause) :
    (q.sql = q.fragments.statement ∧
      (q.without parts).sql = (q.fragments.leavingOut parts q.starText).statement) ∧
      (q.without parts).bindings = q.bindings ∧
      (∀ others : List Part, (∀ part, part ∈ others ↔ part ∈ parts) →
        q.without others = q.without parts) ∧
      (∀ clause, (q.withoutBindings clauses).bindings.get clause =
        if clause ∈ clauses then [] else q.bindings.get clause) ∧
      (q.withoutBindings clauses).sql = q.sql := by
  have hplain : q.aggregate = none := Query.aggregate_of_runSteps rfl hrun
  -- leaving out an aggregate that is not there changes nothing
  have hcopy : (q.leavingOut parts).aggregate = none := by
    show (if Part.aggregate ∈ parts then none else q.aggregate) = none
    rw [hplain, ite_self]
  refine ⟨⟨Query.sql_eq_statement hplain, ?_⟩, ?_, ?_, q.get_withoutBindings clauses, ?_⟩
  · rw [Query.without_eq, Query.sql_eq_statement hcopy, Query.statement_leavingOut]
  · rw [Query.without_eq]
    rfl
  · intro others hsame
    rw [Query.without_eq, Query.without_eq, Query.leavingOut_congr q hsame]
  · have hunbound : (q.withoutBindings clauses).aggregate = none := hplain
    rw [Query.sql_eq_statement hplain, Query.sql_eq_statement hunbound]
    rfl

/-- Ten users in an order of their own, and all admins; five of them all. -/
def usersAndAdmins : List Step :=
  [.source (.table "users"), .select [.name "id"], .whereRaw .and "age > ?" [.ofInt 18],
    .orderByRaw "field(id, ?)" [.ofInt 7], .limit 10,
    .union false (.closure [.source (.table "admins")]), .limit 5]

/-- Parts named twice, and a union left out with all that belongs to it. -/
theorem copy_leaves_out_parts_union :
    ∃ q, runSteps usersAndAdmins (.on {}) = .ok q ∧
      q.sql = "(select \x60id\x60 from \x60users\x60 where age > ? " ++
        "order by field(id, ?) limit 10) union (select * from \x60admins\x60) limit 5" ∧
      (q.without [.orders, .columns, .orders]).sql =
        "(select * from \x60users\x60 where age > ? limit 10) " ++
          "union (select * from \x60admins\x60) limit 5" ∧
      (q.without [.unions]).sql =
        "select \x60id\x60 from \x60users\x60 where age > ? order by field(id, ?) limit 10" ∧
      (q.without [.unions]).values = [.ofInt 18, .ofInt 7] := by
  refine ⟨_, rfl, ?_⟩
  have hrun : runSteps usersAndAdmins (.on {}) = .ok _ := rfl
  obtain ⟨⟨hsql, hordered⟩, -⟩ := copy_leaves_out_parts hrun [.orders, .columns, .orders] []
  obtain ⟨⟨-, hsingle⟩, hvalues, -⟩ := copy_leaves_out_parts hrun [.unions] []
  refine ⟨hsql.trans ?_, hordered.trans ?_, hsingle.trans ?_, ?_⟩
  · decide +kernel
  · decide +kernel
  · decide +kernel
  · exact (congrArg Bindings.flatten hvalues).trans rfl

end QueryBuilder
