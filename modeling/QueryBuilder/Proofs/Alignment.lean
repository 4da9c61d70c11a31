import QueryBuilder.Proofs.ClauseText

/-!
# Placeholders and values of a query, clause by clause

The text of a query and the values it binds are kept apart: clauses are trees that are written late,
values are filed early under the clause they belong to. This module says what it means that the two
agree, and that agreement clause by clause is agreement of the whole.

- `Query.clauseText`: the text of one clause. `Query.entries`: its members, each on its own.
- `Query.AlignedAt`: the members of a clause have one placeholder for each scalar filed under it.
- `Query.Aligned`: a query without an aggregate all of whose clauses are aligned.
- `InOrder`: texts stand one after the other in a statement, with nothing between them that a value
  could belong to. The clauses stand in the order of the values (`Query.inOrder_body`).
- `Query.Aligned.carries`: the statement of an aligned query has one placeholder for each value.
- `Query.Inherits`: one query is aligned at every clause at which another is.
-/

namespace QueryBuilder

/-! ## The texts of the clauses -/

namespace Query

/-- The text of a clause in a statement, empty if the statement does without the clause. -/
def clauseText (q : Query) (d : Dialect) : Clause → String
  | .columns => d.selectionText q.aggregate q.distinct q.columns
  | .source => d.sourceText q.source
  | .joins => joinsText d q.joins
  | .wheres => keyword "where" (conditionsText d q.wheres)
  | .groups => d.groupsText q.groups
  | .havings => keyword "having" (conditionsText d q.havings)
  | .orders => d.ordersText q.tail.orders
  | .unions => Text.join " " (unionTexts d q.unions)
  | .unionOrders => if q.isUnion then d.ordersText q.unionTail.orders else ""

/-- The texts of the members of a clause. -/
def entries (q : Query) (d : Dialect) : Clause → List String
  | .columns => q.columns.map d.column
  | .source => (q.source.map d.source).toList
  | .joins => joinTexts d q.joins
  | .wheres => conditionTexts d q.wheres
  | .groups => q.groups.map d.column
  | .havings => conditionTexts d q.havings
  | .orders => q.tail.orders.map d.sortKeyText
  | .unions => unionTexts d q.unions
  | .unionOrders => if q.isUnion then q.unionTail.orders.map d.sortKeyText else []

/-- The members of a clause close their quotes and have one placeholder for each scalar filed under
the clause. -/
def AlignedAt (q : Query) (d : Dialect) (c : Clause) : Prop :=
  CarriesAll (q.entries d c) (q.bindings.count c)

/-- Clause-wise alignment: the members of every clause close their quotes, and the text of the
clause has one placeholder for each scalar filed under it. Aggregates are put in place by reading
only. -/
structure Aligned (q : Query) (d : Dialect) : Prop where
  plain : q.aggregate = none
  closes : ∀ c, ∀ t ∈ q.entries d c, ClosesQuotes t
  count : ∀ c, placeholders (q.clauseText d c) = q.bindings.count c

end Query

/-- The list of columns carries what the columns do; without any it is the star. -/
theorem carries_columnsText {d : Dialect} {distinct : Bool} {cs : List Column} {n : Nat}
    (h : CarriesAll (cs.map d.column) n) : Carries (d.columnsText distinct cs) n := by
  have hword : Carries (if distinct then "select distinct " else "select ") 0 := by
    cases distinct <;> decide
  have hcolumns : Carries (d.columns (if cs.isEmpty then [Column.star] else cs)) n := by
    split
    · next hempty => exact h.eq_zero hempty ▸ carries_column_name d "*"
    · exact h.columns
  simpa [Dialect.columnsText] using hword.append hcolumns

/-- The groups carry what their columns do, and nothing if there are none. -/
theorem carries_groupsText {d : Dialect} {cs : List Column} {n : Nat}
    (h : CarriesAll (cs.map d.column) n) : Carries (d.groupsText cs) n := by
  unfold Dialect.groupsText
  split
  · next hempty => exact h.eq_zero hempty ▸ carries_empty
  · have hword : Carries "group by " 0 := by decide
    simpa using hword.append h.columns

/-- A clause carries what its members carry. -/
theorem Query.carries_clauseText {q : Query} {d : Dialect} (hplain : q.aggregate = none)
    {c : Clause} {n : Nat} (h : CarriesAll (q.entries d c) n) : Carries (q.clauseText d c) n := by
  -- by the clause: each is a word in front of its members, and empty without members
  cases c with
  | columns =>
    simp only [clauseText, hplain, Dialect.selectionText]
    exact carries_columnsText h
  | source =>
    -- at most one member: there is no list of sources
    simp only [entries, clauseText] at h ⊢
    cases hs : q.source with
    | none =>
      have hn : n = 0 := by simpa [hs] using h.count.symm
      exact hn ▸ carries_empty
    | some s =>
      have hword : Carries "from " 0 := by decide
      simp only [hs, Option.map_some, Option.toList_some] at h
      obtain ⟨m, k, rfl, hm, hk⟩ := h.head
      have hk0 : k = 0 := hk.count.symm
      simpa [Dialect.sourceText, hk0] using hword.append hm
  | joins => exact CarriesAll.join (by decide) h
  | wheres => exact carries_keyword (by decide) (carries_conditionsText h)
  | groups => exact carries_groupsText h
  | havings => exact carries_keyword (by decide) (carries_conditionsText h)
  | orders => exact h.ordersText
  | unions => exact CarriesAll.join (by decide) h
  | unionOrders =>
    simp only [entries, clauseText] at h ⊢
    split
    · next hunion =>
      rw [if_pos hunion] at h
      exact h.ordersText
    · next hunion =>
      rw [if_neg hunion] at h
      have hn : n = 0 := h.count.symm
      exact hn ▸ carries_empty

namespace Query

variable {q : Query} {d : Dialect}

/-- Alignment is told by the members or by the texts of the clauses. -/
theorem aligned_of_alignedAt (hplain : q.aggregate = none) (h : ∀ c, q.AlignedAt d c) :
    q.Aligned d where
  plain := hplain
  closes c := (h c).closes
  count c := (carries_clauseText hplain (h c)).count

/-- The placeholders of a clause are those of its members, so the members are as many as the
values. -/
theorem Aligned.alignedAt (h : q.Aligned d) (c : Clause) : q.AlignedAt d c := by
  have hall : CarriesAll (q.entries d c) ((q.entries d c).map placeholders).sum :=
    ⟨h.closes c, rfl⟩
  have hcount := (carries_clauseText h.plain hall).count
  rw [h.count c] at hcount
  unfold AlignedAt
  rwa [hcount]

theorem Aligned.carries_clause (h : q.Aligned d) (c : Clause) :
    Carries (q.clauseText d c) (q.bindings.count c) :=
  carries_clauseText h.plain (h.alignedAt c)

end Query

/-! ## Texts in order -/

/-- The texts stand in the statement in their order, with nothing between and around them but text
that closes its quotes and has no placeholder. -/
def InOrder : List String → String → Prop
  | [], s => Carries s 0
  | t :: ts, s => ∃ before after, Carries before 0 ∧ s = before ++ t ++ after ∧ InOrder ts after

/-- Text that carries nothing may be put in front. -/
theorem InOrder.after {before s : String} (hbefore : Carries before 0) :
    ∀ {ts : List String}, InOrder ts s → InOrder ts (before ++ s)
  | [], h => by simpa [InOrder] using hbefore.append h
  | _ :: _, ⟨front, rest, hfront, hs, hrest⟩ =>
    ⟨before ++ front, rest, by simpa using hbefore.append hfront,
      by simp [hs, String.append_assoc], hrest⟩

/-- Statements with their texts in order, one behind the other. -/
theorem InOrder.append {us : List String} {b : String} (hb : InOrder us b) :
    ∀ {ts : List String} {a : String}, InOrder ts a → InOrder (ts ++ us) (a ++ b)
  | [], _, ha => hb.after ha
  | _ :: _, _, ⟨front, rest, hfront, hs, hrest⟩ =>
    ⟨front, rest ++ b, hfront, by simp [hs, String.append_assoc], InOrder.append hb hrest⟩

theorem InOrder.before {ts : List String} {s rest : String} (h : InOrder ts s)
    (hrest : Carries rest 0) : InOrder ts (s ++ rest) := by
  have hnone : InOrder [] rest := hrest
  simpa using InOrder.append hnone h

theorem InOrder.cons_empty {ts : List String} {s : String} (h : InOrder ts s) :
    InOrder ("" :: ts) s :=
  ⟨"", s, carries_empty, by simp, h⟩

/-- A statement carries what the texts in it carry. -/
theorem InOrder.carries : ∀ {ts : List String} {s : String} {n : Nat}, InOrder ts s →
    CarriesAll ts n → Carries s n
  | [], s, n, h, hts => by
    have hn : n = 0 := hts.count.symm
    exact hn ▸ h
  | _ :: _, s, n, ⟨front, rest, hfront, hs, hrest⟩, hts => by
    obtain ⟨m, k, rfl, hm, hk⟩ := hts.head
    have htail : Carries rest k := hrest.carries hk
    simpa [hs] using (hfront.append hm).append htail

/-- What stands between a fragment and the ones behind it. -/
def gap (fragment : String) (rest : List String) : String :=
  if fragment = "" ∨ rest.filter (· ≠ "") = [] then "" else " "

theorem carries_gap (fragment : String) (rest : List String) : Carries (gap fragment rest) 0 := by
  unfold gap
  split <;> decide

/-- A fragment in front of others, with a blank only where there is something on both sides. -/
theorem concatenate_cons (t : String) (ts : List String) :
    concatenate (t :: ts) = t ++ gap t ts ++ concatenate ts := by
  unfold concatenate gap
  by_cases hempty : t = ""
  · simp [hempty]
  · rw [List.filter_cons_of_pos (by simpa using hempty)]
    cases hrest : ts.filter (· ≠ "") with
    | nil => simp
    | cons u us => simp [hempty]

/-- Joining fragments keeps their order. -/
theorem InOrder.concatenate_cons {us rest : List String} (t : String)
    (h : InOrder us (concatenate rest)) : InOrder (t :: us) (concatenate (t :: rest)) := by
  refine ⟨"", gap t rest ++ concatenate rest, carries_empty, ?_, h.after (carries_gap t rest)⟩
  rw [QueryBuilder.concatenate_cons, String.append_assoc]
  simp

/-- Fragments that are all there stand side by side in front of the others. -/
theorem concatenate_append {ts : List String} (us : List String) (hts : ∀ t ∈ ts, t ≠ "") :
    ∃ g, Carries g 0 ∧ concatenate (ts ++ us) = Text.join " " ts ++ g ++ concatenate us := by
  -- on the fragments that are there: the last of them has what comes behind as its gap
  induction ts with
  | nil => exact ⟨"", carries_empty, by simp⟩
  | cons t ts ih =>
    cases ts with
    | nil =>
      refine ⟨gap t us, carries_gap t us, ?_⟩
      rw [List.cons_append, List.nil_append, concatenate_cons, Text.join_singleton]
    | cons u ts =>
      obtain ⟨g, hg, heq⟩ := ih fun v hv => hts v (List.mem_cons_of_mem t hv)
      refine ⟨g, hg, ?_⟩
      have ht : t ≠ "" := hts t List.mem_cons_self
      have hu : u ≠ "" := hts u (by simp)
      have hgap : gap t (u :: ts ++ us) = " " := by simp [gap, ht, hu]
      rw [List.cons_append, concatenate_cons, hgap, heq, Text.join_cons_cons]
      simp [String.append_assoc]

/-! ## The whole statement -/

/-- The parts of a select that are not filed under a clause carry nothing. -/
theorem carries_window (tail : Tail) :
    Carries (concatenate [Dialect.limitText tail.limit, Dialect.offsetText tail.offset]) 0 := by
  refine CarriesAll.concatenate (carriesAll_zero fun t ht => ?_)
  simp only [List.mem_cons, List.not_mem_nil, or_false] at ht
  rcases ht with rfl | rfl
  · exact carries_limitText tail.limit
  · exact carries_offsetText tail.offset

/-- The text of a further select has at least its word and its parentheses. -/
theorem unionText_ne_empty (d : Dialect) (unions : List Union) :
    ∀ t ∈ unionTexts d unions, t ≠ "" := by
  induction unions with
  | nil => simp [unionTexts]
  | cons u us ih =>
    obtain ⟨all, query⟩ := u
    intro t ht
    rw [unionTexts, List.mem_cons] at ht
    rcases ht with rfl | ht
    · intro hempty
      have hlist := congrArg String.toList hempty
      cases all <;> simp [Dialect.parenthesized] at hlist
    · exact ih t ht

/-- The further selects stand in front of the ordering of the union. -/
theorem inOrder_unionsText (d : Dialect) (unions : List Union) (tail : Tail) :
    InOrder [Text.join " " (unionTexts d unions), d.ordersText tail.orders]
      (d.unionsText (unionTexts d unions) tail) := by
  obtain ⟨g, hg, heq⟩ := concatenate_append
    [d.ordersText tail.orders, Dialect.limitText tail.limit, Dialect.offsetText tail.offset]
    (unionText_ne_empty d unions)
  have hwindow : InOrder []
      (concatenate [Dialect.limitText tail.limit, Dialect.offsetText tail.offset]) :=
    carries_window tail
  have horders := InOrder.concatenate_cons (d.ordersText tail.orders) hwindow
  unfold Dialect.unionsText
  rw [heq]
  exact ⟨"", _, carries_empty, by simp [String.append_assoc], horders.after hg⟩

namespace Query

/-- The text of a query, put together from the texts of its clauses. -/
theorem body_eq (q : Query) (d : Dialect) (a : Option Aggregate) :
    q.body d a =
      if q.unions.isEmpty then
        d.baseText a q.columns q.distinct q.source (joinsText d q.joins) (conditionsText d q.wheres)
          q.groups (conditionsText d q.havings) q.tail
      else
        Dialect.parenthesized (d.baseText a q.columns q.distinct q.source (joinsText d q.joins)
          (conditionsText d q.wheres) q.groups (conditionsText d q.havings) q.tail) ++ " " ++
          d.unionsText (unionTexts d q.unions) q.unionTail := by
  cases q
  simp only [Query.body, joinsText, conditionsText]

/-- The texts behind the selection of a query's own select, with a tail in the place of its own. -/
def clausesBehind (q : Query) (tail : Tail) : List String :=
  [q.dialect.sourceText q.source, joinsText q.dialect q.joins,
    keyword "where" (conditionsText q.dialect q.wheres), q.dialect.groupsText q.groups,
    keyword "having" (conditionsText q.dialect q.havings), q.dialect.ordersText tail.orders,
    Dialect.limitText tail.limit, Dialect.offsetText tail.offset]

/-- A query's own select is its selection and the clauses behind it. -/
theorem baseText_eq (q : Query) (a : Option Aggregate) (tail : Tail) :
    q.dialect.baseText a q.columns q.distinct q.source (joinsText q.dialect q.joins)
        (conditionsText q.dialect q.wheres) q.groups (conditionsText q.dialect q.havings) tail =
      concatenate (q.dialect.selectionText a q.distinct q.columns :: q.clausesBehind tail) := rfl

/-- The clauses in front of the unions stand in the order of their values. -/
theorem inOrder_baseText (q : Query) (d : Dialect) :
    InOrder
      ([.columns, .source, .joins, .wheres, .groups, .havings, .orders].map (q.clauseText d))
      (d.baseText q.aggregate q.columns q.distinct q.source (joinsText d q.joins)
        (conditionsText d q.wheres) q.groups (conditionsText d q.havings) q.tail) := by
  unfold Dialect.baseText
  simp only [List.map_cons, List.map_nil, clauseText]
  iterate 7 refine InOrder.concatenate_cons _ ?_
  exact carries_window q.tail

/-- The clauses stand in the statement in the order of their values. -/
theorem inOrder_body (q : Query) (d : Dialect) :
    InOrder (Clause.all.map (q.clauseText d)) (q.body d q.aggregate) := by
  have hbase := inOrder_baseText q d
  have hsplit : Clause.all.map (q.clauseText d) =
      [.columns, .source, .joins, .wheres, .groups, .havings, .orders].map (q.clauseText d) ++
        [q.clauseText d .unions, q.clauseText d .unionOrders] := rfl
  rw [body_eq, hsplit]
  split
  · next hempty =>
    -- without unions the last two clauses are empty, and empty texts stand anywhere
    have hunions : q.clauseText d .unions = "" := by
      rw [List.isEmpty_iff] at hempty
      simp [clauseText, hempty, unionTexts]
    have horders : q.clauseText d .unionOrders = "" := by
      simp [clauseText, isUnion, hempty]
    rw [hunions, horders]
    have hnone : InOrder ["", ""] "" := InOrder.cons_empty (InOrder.cons_empty carries_empty)
    simpa using InOrder.append hnone hbase
  · next hunion =>
    -- the clauses in front are put in parentheses, and the unions follow
    have horders : q.clauseText d .unionOrders = d.ordersText q.unionTail.orders := by
      simp [clauseText, isUnion, hunion]
    rw [horders]
    refine InOrder.append (inOrder_unionsText d q.unions q.unionTail) ?_
    refine InOrder.before ?_ (by decide)
    exact (hbase.after (by decide : Carries "(" 0)).before (by decide : Carries ")" 0)

/-- Without an aggregate over a union the statement is the text of the clauses. -/
theorem textIn_eq_body {q : Query} (h : q.aggregate = none ∨ q.isUnion = false) (d : Dialect) :
    q.textIn d = q.body d q.aggregate := by
  unfold textIn Dialect.finish Dialect.withAggregate
  rcases h with h | h
  · rw [h]
  · rw [h]
    cases q.aggregate <;> rfl

theorem inOrder_textIn {q : Query} (h : q.aggregate = none ∨ q.isUnion = false) (d : Dialect) :
    InOrder (Clause.all.map (q.clauseText d)) (q.textIn d) := by
  rw [textIn_eq_body h]
  exact inOrder_body q d

/-- If every clause carries the scalars filed under it, then the statement carries the query's
values. -/
theorem carries_textIn {q : Query} {d : Dialect} (h : q.aggregate = none ∨ q.isUnion = false)
    (hclauses : ∀ c, Carries (q.clauseText d c) (q.bindings.count c)) :
    Carries (q.textIn d) q.values.length := by
  have hall : ∀ cs : List Clause,
      CarriesAll (cs.map (q.clauseText d)) (cs.map q.bindings.count).sum := by
    intro cs
    -- on the clauses: what each of them carries adds up
    induction cs with
    | nil => exact CarriesAll.nil
    | cons c cs ih => exact CarriesAll.cons (hclauses c) ih
  rw [length_values]
  exact (inOrder_textIn h d).carries (hall Clause.all)

/-- The statement of an aligned query has one placeholder for each of its values. -/
theorem Aligned.carries {q : Query} {d : Dialect} (h : q.Aligned d) :
    Carries (q.textIn d) q.values.length :=
  carries_textIn (.inl h.plain) h.carries_clause

/-! ## Alignment handed on -/

/-- Without an aggregate if `p` is without one, and aligned at every clause at which `p` is. -/
structure Inherits (p q : Query) : Prop where
  aggregate : p.aggregate = none → q.aggregate = none
  alignedAt : ∀ d c, p.AlignedAt d c → q.AlignedAt d c

theorem Inherits.refl (q : Query) : q.Inherits q :=
  ⟨id, fun _ _ h => h⟩

theorem Inherits.trans {p q q' : Query} (h : p.Inherits q) (h' : q.Inherits q') : p.Inherits q' :=
  ⟨fun hp => h'.aggregate (h.aggregate hp), fun d c hp => h'.alignedAt d c (h.alignedAt d c hp)⟩

theorem Inherits.aligned {p q : Query} {d : Dialect} (h : p.Inherits q) (hp : p.Aligned d) :
    q.Aligned d :=
  aligned_of_alignedAt (h.aggregate hp.plain) fun c => h.alignedAt d c (hp.alignedAt c)

variable {q q' : Query} {vs : List Value}

/-- A clause gains members that carry what is filed with them, and the others stay. -/
theorem inherits_of_gain (e : Clause) (ts : Dialect → List String)
    (haggregate : q'.aggregate = q.aggregate) (hbindings : q'.bindings = q.bindings.extend e vs)
    (hgain : ∀ d, q'.entries d e = q.entries d e ++ ts d)
    (hrest : ∀ d c, c ≠ e → q'.entries d c = q.entries d c)
    (hts : ∀ d, CarriesAll (ts d) (scalarCount vs)) : q.Inherits q' := by
  refine ⟨haggregate.trans, fun d c h => ?_⟩
  unfold AlignedAt at h ⊢
  rw [hbindings, Bindings.count_extend]
  -- the clause that gains, and all others
  split
  · next hc =>
    rw [hc] at h ⊢
    rw [hgain d]
    exact h.append (hts d)
  · next hc =>
    rw [hrest d c hc]
    exact h

/-- Members and values stay what they are, or are dropped together. -/
theorem inherits_of_kept (haggregate : q'.aggregate = q.aggregate)
    (hkept : ∀ d c, (q'.entries d c = q.entries d c ∧ q'.bindings.count c = q.bindings.count c) ∨
      (q'.entries d c = [] ∧ q'.bindings.count c = 0)) : q.Inherits q' := by
  refine ⟨haggregate.trans, fun d c h => ?_⟩
  unfold AlignedAt at h ⊢
  rcases hkept d c with ⟨hentries, hcount⟩ | ⟨hentries, hcount⟩
  · rw [hentries, hcount]
    exact h
  · rw [hentries, hcount]
    exact CarriesAll.nil

/-- A clause is written anew, and the others stay. -/
theorem inherits_of_replaced (e : Clause) (haggregate : q'.aggregate = q.aggregate)
    (hnew : ∀ d, q.AlignedAt d e → q'.AlignedAt d e)
    (hrest : ∀ d c, c ≠ e →
      q'.entries d c = q.entries d c ∧ q'.bindings.count c = q.bindings.count c) :
    q.Inherits q' := by
  refine ⟨haggregate.trans, fun d c h => ?_⟩
  by_cases hc : c = e
  · rw [hc] at h ⊢
    exact hnew d h
  · obtain ⟨hentries, hcount⟩ := hrest d c hc
    unfold AlignedAt at h ⊢
    rw [hentries, hcount]
    exact h

end Query

end QueryBuilder
