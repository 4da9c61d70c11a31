import QueryBuilder.Proofs.Copies
import QueryBuilder.Proofs.Frames

/-!
# Queries inside queries

A sub-query stands in parentheses inside the statement of the query that it is given to. Most ways
of embedding one write its text at once, in its own dialect, and keep nothing but the text; a
comparison with its value, a condition on its rows and a union keep the sub-query and write it with
the statement, in the dialect of the query around it.

- `textIn_eq_of_quoteMark`: two dialects that quote alike write every query alike.
- `Embedding`: the ways of embedding a sub-query. `Embedding.embed`: the query with the sub-query
  embedded.
- `Embedding.textOf`: the text that it is embedded with.
- `embedded_text_dialect`: where the text stands, and for which sub-queries it is that of the query
  around it. `embedded_texts_differ` is a query with two texts of one sub-query.
-/

namespace QueryBuilder

/-! ## Dialects that quote alike -/

mutual

/-- Two dialects use the same quotation marks, and they write every part of a select alike. -/
theorem body_plain (q : Query) (a : Option Aggregate) :
    Query.body .plain q a = Query.body .mysql q a := by
  obtain ⟨_, _, columns, distinct, source, joins, wheres, groups, havings, tail, unions,
      unionTail, _, _⟩ := q
  simp only [Query.body]
  rw [conditionTexts_plain wheres, conditionTexts_plain havings, joinTexts_plain joins,
    unionTexts_plain unions]
  rfl

/-- Conditions are written alike where marks are alike. -/
theorem conditionTexts_plain : ∀ conditions : List Condition,
    conditionTexts .plain conditions = conditionTexts .mysql conditions
  | [] => rfl
  | ⟨connector, predicate⟩ :: rest => by
    rw [conditionTexts, conditionTexts, predicateText_plain predicate, conditionTexts_plain rest]

/-- Predicates are written alike where marks are alike. A part of a date is among them: its
function depends on the dialect, but not between these two. -/
theorem predicateText_plain (predicate : Predicate) :
    predicateText .plain predicate = predicateText .mysql predicate := by
  cases predicate with
  | group conditions => rw [predicateText, predicateText, conditionTexts_plain conditions]
  | compareQuery column operator query =>
    have hbody : Query.body .plain query = Query.body .mysql query := funext (body_plain query)
    rw [predicateText, predicateText, hbody]
    rfl
  | «exists» negated query =>
    have hbody : Query.body .plain query = Query.body .mysql query := funext (body_plain query)
    rw [predicateText, predicateText, hbody]
    rfl
  | _ => rfl

/-- Joins are written alike where marks are alike. -/
theorem joinTexts_plain : ∀ joins : List Join, joinTexts .plain joins = joinTexts .mysql joins
  | [] => rfl
  | ⟨kind, source, conditions, joins⟩ :: rest => by
    rw [joinTexts, joinTexts, conditionTexts_plain conditions, joinTexts_plain joins,
      joinTexts_plain rest]
    rfl

/-- Further queries are written alike where marks are alike. -/
theorem unionTexts_plain :
    ∀ unions : List Union, unionTexts .plain unions = unionTexts .mysql unions
  | [] => rfl
  | ⟨all, query⟩ :: rest => by
    have hbody : Query.body .plain query = Query.body .mysql query := funext (body_plain query)
    rw [unionTexts, unionTexts, hbody, unionTexts_plain rest]
    rfl

end

/-- Two dialects that quote alike write every query alike. -/
theorem textIn_eq_of_quoteMark {d e : Dialect} (h : e.quoteMark = d.quoteMark) (q : Query) :
    q.textIn e = q.textIn d := by
  have hplain : q.textIn .plain = q.textIn .mysql := by
    unfold Query.textIn
    rw [show q.body .plain = q.body .mysql from funext (body_plain q)]
    rfl
  cases d with
  | mysql =>
    cases e with
    | mysql => rfl
    | sqlite => exact absurd h (by decide)
    | plain => exact hplain
  | sqlite =>
    cases e with
    | mysql => exact absurd h (by decide)
    | sqlite => rfl
    | plain => exact absurd h (by decide)
  | plain =>
    cases e with
    | mysql => exact hplain.symm
    | sqlite => exact absurd h (by decide)
    | plain => rfl

/-- Two dialects that quote otherwise write a select of a table otherwise. -/
theorem textIn_ne_of_quoteMark {d e : Dialect} (h : e.quoteMark ≠ d.quoteMark) :
    (Query.table { dialect := e } "t").textIn e ≠ (Query.table { dialect := e } "t").textIn d := by
  cases d <;> cases e <;> first | exact absurd rfl h | decide +kernel

/-! ## Clauses around a text -/

section Clauses

variable {d : Dialect} {g : String → String}

/-- A raw column behind others, framed in the list of columns. -/
theorem framed_columnsText (hg : Framed g) (distinct : Bool) (cs : List Column) :
    Framed fun t => d.columnsText distinct (cs ++ [.raw (g t)]) := by
  have hcolumns : (fun t => d.columnsText distinct (cs ++ [.raw (g t)])) =
      fun t => (if distinct then "select distinct " else "select ") ++
        Text.join ", " (cs.map d.column ++ [g t]) := by
    funext t
    have hsome : ¬ (cs ++ [Column.raw (g t)]).isEmpty = true := by simp
    unfold Dialect.columnsText Dialect.columns
    rw [if_neg hsome, List.map_append]
    rfl
  rw [hcolumns]
  exact ((FramedAmong.last hg _).join ", ").after _

/-- A raw ordering behind others, framed in the list of orderings. -/
theorem framed_ordersText (hg : Framed g) (keys : List SortKey) (direction : Direction) :
    Framed fun t => d.ordersText (keys ++ [.column (.raw (g t)) direction]) := by
  have horders : (fun t => d.ordersText (keys ++ [.column (.raw (g t)) direction])) =
      fun t => "order by " ++
        Text.join ", " (keys.map d.sortKeyText ++ [g t ++ " " ++ direction.sql]) := by
    funext t
    have hsome : ¬ (keys ++ [SortKey.column (.raw (g t)) direction]).isEmpty = true := by simp
    unfold Dialect.ordersText
    rw [if_neg hsome, List.map_append]
    rfl
  rw [horders]
  exact ((FramedAmong.last ((hg.before " ").before direction.sql) _).join ", ").after _

/-- A raw source that is joined behind others; the join is trimmed, which the frame outlasts. -/
theorem framed_joinsText (hg : Framed g) (js : List Join) (kind : JoinKind)
    (conditions : List Condition) :
    Framed fun t => joinsText d (js ++ [⟨kind, .raw (g t), conditions, []⟩]) := by
  have hjoins : (fun t => joinsText d (js ++ [⟨kind, .raw (g t), conditions, []⟩])) =
      fun t => Text.join " " (joinTexts d js ++ [Text.trim (kind.sql ++ " join " ++ g t ++ " " ++
        QueryBuilder.keyword "on" (conditionsText d conditions))]) := by
    funext t
    unfold joinsText
    rw [joinTexts_append]
    rfl
  rw [hjoins]
  exact (FramedAmong.last (((hg.after _).before " ").before _).trim _).join " "

/-- A text in parentheses in front of its label. -/
theorem framed_labelled (label : String) : Framed fun t => "(" ++ t ++ ") as " ++ label := by
  have hlabelled : (fun t => "(" ++ t ++ ") as " ++ label) =
      fun t => "(" ++ t ++ ")" ++ " as " ++ label := by
    have hclose : ") as " = ")" ++ " as " := rfl
    simp only [hclose, String.append_assoc]
  rw [hlabelled]
  exact (Framed.parentheses.before " as ").before label

/-- A condition behind others, as the text that it adds. -/
def Dialect.conditionsTextWith (d : Dialect) (conditions : List Condition) (connector : Connector)
    (text : String) : String :=
  dropConnector (Text.join " " (conditionTexts d conditions ++ [connector.sql ++ " " ++ text]))

/-- The text of a list of conditions depends on the last one through its text only. -/
theorem conditionsText_concat (conditions : List Condition) (connector : Connector)
    (p : Predicate) :
    conditionsText d (conditions ++ [⟨connector, p⟩]) =
      d.conditionsTextWith conditions connector (predicateText d p) := by
  unfold conditionsText Dialect.conditionsTextWith
  rw [conditionTexts_append]
  rfl

/-- The last condition is framed, although a connector may be taken off in front of the list. -/
theorem framed_conditionsTextWith (hg : Framed g) (conditions : List Condition)
    (connector : Connector) : Framed fun t => d.conditionsTextWith conditions connector (g t) :=
  ((FramedAmong.last (hg.after _) _).join " ").dropConnector

end Clauses

/-! ## Statements around a text -/

namespace Query

variable {q : Query} {g : String → String} {p : String → Query}

/-- The texts of the first select, without those that are empty. -/
def selectTexts (q : Query) : List String :=
  q.fragments.columns :: q.fragments.clauses.map Prod.snd

/-- The texts behind the selects of a union. -/
def tailTexts (q : Query) : List String :=
  q.fragments.tail.map Prod.snd

/-- The statement of a union. -/
theorem sql_of_isUnion (hplain : q.aggregate = none) (hunion : q.isUnion = true) :
    q.sql = Dialect.parenthesized (concatenate q.selectTexts) ++ " " ++
      concatenate (unionTexts q.dialect q.unions ++ q.tailTexts) := by
  have hnonempty : ¬ (unionTexts q.dialect q.unions).isEmpty = true := by
    simpa [isUnion] using hunion
  rw [sql_eq_statement hplain, Fragments.statement]
  exact if_neg hnonempty

/-- A statement depends on nothing but these texts and those of the further selects. -/
theorem sql_congr (q q' : Query) (hplain : q.aggregate = none) (hplain' : q'.aggregate = none)
    (hselect : q.selectTexts = q'.selectTexts) (hunions : q.fragments.unions = q'.fragments.unions)
    (htail : q.tailTexts = q'.tailTexts) : q.sql = q'.sql := by
  have hstatement : ∀ p : Query, p.fragments.statement =
      if p.fragments.unions.isEmpty then concatenate p.selectTexts
      else Dialect.parenthesized (concatenate p.selectTexts) ++ " " ++
        concatenate (p.fragments.unions ++ p.tailTexts) := fun _ => rfl
  rw [sql_eq_statement hplain, sql_eq_statement hplain', hstatement, hstatement, hselect,
    hunions, htail]

/-- Queries that differ in one of the texts of the first select, at the given place. -/
theorem framed_sql_at (q : Query) (hplain : ∀ t, (p t).aggregate = none) (place : Nat)
    (hg : Framed g) (htexts : ∀ t, (p t).selectTexts = q.selectTexts.take place ++
      g t :: q.selectTexts.drop (place + 1))
    (hunions : ∀ t, (p t).fragments.unions = q.fragments.unions)
    (htail : ∀ t, (p t).fragments.tail = q.fragments.tail) : Framed fun t => (p t).sql := by
  have hselect : Framed fun t => concatenate (p t).selectTexts :=
    FramedAmong.concatenate ⟨q.selectTexts.take place, q.selectTexts.drop (place + 1),
      g, hg, htexts⟩
  have hsql : (fun t => (p t).sql) = fun t =>
      if q.fragments.unions.isEmpty then concatenate (p t).selectTexts
      else Dialect.parenthesized (concatenate (p t).selectTexts) ++ " " ++
        concatenate (q.fragments.unions ++ q.tailTexts) := by
    funext t
    rw [sql_eq_statement (hplain t), Fragments.statement, hunions t, htail t]
    rfl
  rw [hsql]
  split
  · exact hselect
  · exact (hselect.parenthesized.before " ").before _

/-- The last column is framed in the statement. -/
theorem framed_sql_columns (hplain : q.aggregate = none) (hg : Framed g) :
    Framed fun t => ({ q with columns := q.columns ++ [.raw (g t)] } : Query).sql := by
  have hcolumns : Framed fun t => q.dialect.columnsText q.distinct (q.columns ++ [.raw (g t)]) :=
    framed_columnsText hg q.distinct q.columns
  exact framed_sql_at q (fun _ => hplain) 0 hcolumns (fun _ => rfl) (fun _ => rfl) fun _ => rfl

/-- The source is framed in the statement. -/
theorem framed_sql_source (hplain : q.aggregate = none) (hg : Framed g) :
    Framed fun t => ({ q with source := some (.raw (g t)) } : Query).sql :=
  framed_sql_at q (fun _ => hplain) 1 (hg.after "from ") (fun _ => rfl) (fun _ => rfl) fun _ => rfl

/-- The source of the last join is framed in the statement. -/
theorem framed_sql_joins (hplain : q.aggregate = none) (hg : Framed g) (kind : JoinKind)
    (conditions : List Condition) :
    Framed fun t => ({ q with joins := q.joins ++ [⟨kind, .raw (g t), conditions, []⟩] } :
      Query).sql := by
  have hjoins : Framed fun t => joinsText q.dialect
      (q.joins ++ [⟨kind, .raw (g t), conditions, []⟩]) :=
    framed_joinsText hg q.joins kind conditions
  exact framed_sql_at q (fun _ => hplain) 2 hjoins (fun _ => rfl) (fun _ => rfl) fun _ => rfl

/-- The last condition is framed in the statement. -/
theorem framed_sql_wheres (hplain : q.aggregate = none) (hg : Framed g) (connector : Connector) :
    Framed fun t => ({ q with wheres := q.wheres ++ [⟨connector, .raw (g t)⟩] } : Query).sql := by
  have hconditions : Framed fun t =>
      conditionsText q.dialect (q.wheres ++ [⟨connector, .raw (g t)⟩]) := by
    have htexts : ∀ t, predicateText q.dialect (.raw (g t)) = g t := fun t => by rw [predicateText]
    simp only [conditionsText_concat, htexts]
    exact framed_conditionsTextWith hg q.wheres connector
  exact framed_sql_at q (fun _ => hplain) 3 (hconditions.keyword "where") (fun _ => rfl)
    (fun _ => rfl) fun _ => rfl

/-- The last ordering is framed in the statement, whether it is one of the select or one of the
union. -/
theorem framed_sql_orderBy (hplain : q.aggregate = none) (hg : Framed g) (direction : Direction) :
    Framed fun t => (q.orderBy (.raw (g t)) direction).sql := by
  unfold orderBy addSortKey updateTail
  -- the orderings of a union stand behind the further selects
  cases hunion : q.isUnion with
  | false =>
    have horders : Framed fun t =>
        q.dialect.ordersText (q.tail.orders ++ [.column (.raw (g t)) direction]) :=
      framed_ordersText hg q.tail.orders direction
    exact framed_sql_at q (fun _ => hplain) 6 horders (fun _ => rfl) (fun _ => rfl) fun _ => rfl
  | true =>
    have horders : Framed fun t =>
        q.dialect.ordersText (q.unionTail.orders ++ [.column (.raw (g t)) direction]) :=
      framed_ordersText hg q.unionTail.orders direction
    have hbehind : FramedAmong fun t => unionTexts q.dialect q.unions ++
        [q.dialect.ordersText (q.unionTail.orders ++ [.column (.raw (g t)) direction]),
          Dialect.limitText q.unionTail.limit, Dialect.offsetText q.unionTail.offset] :=
      ⟨_, _, _, horders, fun _ => rfl⟩
    have hsql : (fun t => ({ q with unionTail := { q.unionTail with
          orders := q.unionTail.orders ++ [.column (.raw (g t)) direction] } } : Query).sql) =
        fun t => Dialect.parenthesized (concatenate q.selectTexts) ++ " " ++
          concatenate (unionTexts q.dialect q.unions ++
            [q.dialect.ordersText (q.unionTail.orders ++ [.column (.raw (g t)) direction]),
              Dialect.limitText q.unionTail.limit, Dialect.offsetText q.unionTail.offset]) :=
      funext fun _ => sql_of_isUnion hplain hunion
    exact hsql ▸ hbehind.concatenate.after _

/-- The text of a further select stands behind those that are there. -/
theorem exists_frame_union (hplain : q.aggregate = none) (all : Bool) :
    ∃ F, Framed F ∧ ∀ (b : Bindings) (sub : Query),
      ({ q with unions := q.unions ++ [⟨all, sub⟩], bindings := b } : Query).sql =
        F (sub.textIn q.dialect) := by
  have hbehind : FramedAmong fun t => unionTexts q.dialect q.unions ++
      ((if all then "union all " else "union ") ++ Dialect.parenthesized t) :: q.tailTexts :=
    ⟨_, _, _, Framed.parentheses.after _, fun _ => rfl⟩
  refine ⟨_, hbehind.concatenate.after (Dialect.parenthesized (concatenate q.selectTexts) ++ " "),
    fun b sub => ?_⟩
  refine (sql_of_isUnion (q := { q with unions := q.unions ++ [⟨all, sub⟩], bindings := b }) hplain
    (by simp [isUnion])).trans ?_
  show _ ++ concatenate (unionTexts q.dialect (q.unions ++ [⟨all, sub⟩]) ++ q.tailTexts) = _
  rw [unionTexts_append, List.append_assoc]
  rfl

/-- What a condition is written as has the conditions before it and the other clauses around it. -/
theorem exists_frame_where (hplain : q.aggregate = none) (connector : Connector) (hg : Framed g) :
    ∃ F, Framed F ∧ ∀ (b : Bindings) (predicate : Predicate) (t : String),
      predicateText q.dialect predicate = g t →
        ({ q with wheres := q.wheres ++ [⟨connector, predicate⟩], bindings := b } : Query).sql =
          F t := by
  refine ⟨_, framed_sql_wheres hplain hg connector, fun b predicate t ht => ?_⟩
  have hconditions : conditionsText q.dialect (q.wheres ++ [⟨connector, predicate⟩]) =
      conditionsText q.dialect (q.wheres ++ [⟨connector, .raw (g t)⟩]) := by
    rw [conditionsText_concat, conditionsText_concat, ht, predicateText]
  have htexts : ∀ ws b, ({ q with wheres := ws, bindings := b } : Query).selectTexts =
      q.selectTexts.take 3 ++
        keyword "where" (conditionsText q.dialect ws) :: q.selectTexts.drop 4 := fun _ _ => rfl
  refine sql_congr { q with wheres := q.wheres ++ [⟨connector, predicate⟩], bindings := b }
    { q with wheres := q.wheres ++ [⟨connector, .raw (g t)⟩], bindings := q.bindings } hplain
      hplain ?_ rfl rfl
  rw [htexts, htexts, hconditions]

end Query

/-! ## Embedding -/

/-- A way of embedding a sub-query. As the subject of a condition it is compared with something:
alone it is a group of conditions. -/
inductive Embedding where
  | column (label : String)
  | source (label : String)
  | joined (label : String) (kind : JoinKind) (first operator second : String)
  | order (direction : Direction)
  | candidates (connector : Connector) (negated : Bool) (column : Column)
  | subject (connector : Connector) (operator : Option String) (value : Comparand)
      (compared : (operator.isNone && value.isNull) = false)
  | comparand (connector : Connector) (column : Column) (operator : Option String)
  | exists (connector : Connector) (negated : Bool)
  | union (all : Bool)

namespace Embedding

/-- The query with the sub-query embedded. -/
def embed (w : Embedding) (s : Subquery) (q : Query) : Except Error Query :=
  match w with
  | .column label => q.selectSub s label
  | .source label => q.fromSub s label
  | .joined label kind first operator second => q.joinSub s label kind first operator second
  | .order direction => q.orderBySub s direction
  | .candidates connector negated c => q.whereIn connector negated c (.query s)
  | .subject connector operator value _ => q.compare connector (.query s) operator value
  | .comparand connector c operator => q.compare connector (.column c) operator (.query s)
  | .exists connector negated => q.whereExists connector negated s
  | .union all => q.union all s

/-- The text is written at once, and the sub-query is not kept. -/
def isEarly : Embedding → Bool
  | .comparand .. => false
  | .exists .. => false
  | .union .. => false
  | _ => true

/-- The text that the sub-query is embedded with. -/
def textOf (w : Embedding) (q sub : Query) : String :=
  if w.isEarly then sub.sql else sub.textIn q.dialect

/-- A comparison is one that the query can make: it knows the operator, and what a sub-query is
compared with can be built. -/
def Accepted (w : Embedding) (q : Query) : Prop :=
  match w with
  | .subject _ operator value _ =>
    q.dialect.knows (Text.lower (Text.trim (operator.getD "="))) = true ∧
      ∀ s, value = .query s → ∃ sub, s.build q = .ok sub
  | .comparand _ _ operator => q.dialect.knows (Text.lower (Text.trim (operator.getD "="))) = true
  | _ => True

variable {q : Query}

/-- A sub-query that can be built can be written. -/
theorem text_of_build {s : Subquery} {sub : Query} (h : s.build q = .ok sub) :
    s.text q = .ok (sub.sql, sub.values) := by
  cases s with
  | query p => exact bind_eq_ok.mpr ⟨sub, h, rfl⟩
  | closure build => exact bind_eq_ok.mpr ⟨sub, h, rfl⟩
  | sql text => exact nomatch h

/-- What a sub-query is embedded with has the statement around it. -/
def HasFrame (w : Embedding) (q : Query) : Prop :=
  ∃ F, Framed F ∧ ∀ s sub, s.build q = .ok sub →
    ∃ q', w.embed s q = .ok q' ∧ q'.sql = F (w.textOf q sub)

/-- A sub-query among the columns. -/
theorem hasFrame_column (hplain : q.aggregate = none) (label : String) :
    (column label).HasFrame q := by
  refine ⟨_, Query.framed_sql_columns hplain (framed_labelled (q.dialect.quote label)),
    fun s sub hs => ?_⟩
  exact ⟨_, bind_eq_ok.mpr ⟨_, text_of_build hs, rfl⟩,
    Query.sql_congr _ _ hplain hplain rfl rfl rfl⟩

/-- A sub-query as the source. -/
theorem hasFrame_source (hplain : q.aggregate = none) (label : String) :
    (source label).HasFrame q := by
  refine ⟨_, Query.framed_sql_source hplain (framed_labelled (q.dialect.quoteName label)),
    fun s sub hs => ?_⟩
  exact ⟨_, bind_eq_ok.mpr ⟨_, text_of_build hs, rfl⟩,
    Query.sql_congr _ _ hplain hplain rfl rfl rfl⟩

/-- A sub-query that is joined. -/
theorem hasFrame_joined (hplain : q.aggregate = none) (label : String) (kind : JoinKind)
    (first operator second : String) : (joined label kind first operator second).HasFrame q := by
  refine ⟨_, Query.framed_sql_joins hplain (framed_labelled (q.dialect.quoteName label)) kind
    [⟨.and, .compareColumns (.name first) operator (.name second)⟩], fun s sub hs => ?_⟩
  exact ⟨_, bind_eq_ok.mpr ⟨_, text_of_build hs, rfl⟩,
    Query.sql_congr _ _ hplain hplain rfl rfl rfl⟩

/-- A sub-query to sort by. -/
theorem hasFrame_order (hplain : q.aggregate = none) (direction : Direction) :
    (order direction).HasFrame q := by
  refine ⟨_, Query.framed_sql_orderBy hplain Framed.parentheses direction, fun s sub hs => ?_⟩
  refine ⟨_, bind_eq_ok.mpr ⟨_, text_of_build hs, rfl⟩, ?_⟩
  unfold Query.orderBy Query.addSortKey Query.updateTail
  show Query.sql (if q.isUnion then _ else _) = Query.sql (if q.isUnion then _ else _)
  split <;> exact Query.sql_congr _ _ hplain hplain rfl rfl rfl

/-- A sub-query as the candidates: a list with one raw member. -/
theorem hasFrame_candidates (hplain : q.aggregate = none) (connector : Connector) (negated : Bool)
    (c : Column) : (candidates connector negated c).HasFrame q := by
  -- the parenthesis of the list is the one that frames the sub-query
  have hopen : (if negated then " not in (" else " in (") =
      (if negated then " not in " else " in ") ++ "(" := by
    cases negated <;> rfl
  have hframed : Framed fun t => predicateText q.dialect (.isIn negated c [.raw t]) := by
    have htext : (fun t => predicateText q.dialect (.isIn negated c [.raw t])) = fun t =>
        q.dialect.column c ++ (if negated then " not in " else " in ") ++ ("(" ++ t ++ ")") := by
      funext t
      rw [predicateText, Dialect.isInText, hopen]
      simp [Operand.sqlList, Operand.sql, String.append_assoc]
    rw [htext]
    exact Framed.parentheses.after _
  obtain ⟨F, hF, hsql⟩ := Query.exists_frame_where hplain connector hframed
  exact ⟨F, hF, fun s sub hs => ⟨_, bind_eq_ok.mpr ⟨_, text_of_build hs, rfl⟩, hsql _ _ _ rfl⟩⟩

/-- A sub-query that is asked for rows. -/
theorem hasFrame_exists (hplain : q.aggregate = none) (connector : Connector) (negated : Bool) :
    (Embedding.exists connector negated).HasFrame q := by
  have hopen : (if negated then "not exists (" else "exists (") =
      (if negated then "not exists " else "exists ") ++ "(" := by
    cases negated <;> rfl
  have hframed : Framed fun t => (if negated then "not exists " else "exists ") ++
      ("(" ++ t ++ ")") :=
    Framed.parentheses.after _
  obtain ⟨F, hF, hsql⟩ := Query.exists_frame_where hplain connector hframed
  refine ⟨F, hF, fun s sub hs => ⟨_, bind_eq_ok.mpr ⟨_, hs, rfl⟩, hsql _ _ _ ?_⟩⟩
  rw [predicateText, hopen]
  simp only [String.append_assoc]
  rfl

theorem hasFrame_union (hplain : q.aggregate = none) (all : Bool) :
    (Embedding.union all).HasFrame q := by
  obtain ⟨F, hF, hsql⟩ := Query.exists_frame_union hplain all
  exact ⟨F, hF, fun s sub hs => ⟨_, bind_eq_ok.mpr ⟨_, hs, rfl⟩, hsql _ _⟩⟩

/-- A sub-query that a column is compared with; the operator is one that the query knows. -/
theorem hasFrame_comparand (hplain : q.aggregate = none) (connector : Connector) (c : Column)
    (operator : Option String) (haccepted : (comparand connector c operator).Accepted q) :
    (comparand connector c operator).HasFrame q := by
  have hoperator := Query.checkedOperator_ok haccepted
  have hframed : Framed fun t => q.dialect.column c ++ " " ++
      Text.lower (Text.trim (operator.getD "=")) ++ " " ++ ("(" ++ t ++ ")") :=
    Framed.parentheses.after _
  obtain ⟨F, hF, hsql⟩ := Query.exists_frame_where hplain connector hframed
  refine ⟨F, hF, fun s sub hs => ⟨_, ?_, hsql (q.bind .wheres sub.values).bindings
    (.compareQuery c (Text.lower (Text.trim (operator.getD "="))) sub) _ ?_⟩⟩
  · show q.compareColumn connector c operator (.query s) = _
    unfold Query.compareColumn
    rw [if_neg (by simp [Comparand.isNull]), hoperator]
    exact bind_eq_ok.mpr ⟨_, rfl, bind_eq_ok.mpr ⟨sub, hs, rfl⟩⟩
  · have hopen : " (" = " " ++ "(" := rfl
    rw [predicateText, hopen]
    simp only [String.append_assoc]
    rfl

/-- What stands behind a column that is compared does not depend on the column. -/
theorem compareColumn_text {operator : Option String} {value : Comparand} {o : String}
    (hoperator : q.checkedOperator (operator.getD "=") = .ok o)
    (hcompared : (operator.isNone && value.isNull) = false)
    (hvalue : ∀ s, value = .query s → ∃ sub, s.build q = .ok sub) (connector : Connector) :
    ∃ rest, ∀ (c : Column) (vs : List Value), ∃ predicate b,
      (q.bind .wheres vs).compareColumn connector c operator value =
          .ok { q with wheres := q.wheres ++ [⟨connector, predicate⟩], bindings := b } ∧
        predicateText q.dialect predicate = q.dialect.column c ++ rest := by
  have hchecked : ∀ vs, (q.bind .wheres vs).checkedOperator (operator.getD "=") = .ok o :=
    fun _ => hoperator
  unfold Query.compareColumn
  simp only [hcompared, hchecked]
  -- an operand is null or is not, a sub-query is compared in any case
  cases value with
  | operand x =>
    by_cases hnull : x.isNull = true
    · refine ⟨if o != "=" then " is not null" else " is null", fun c vs =>
        ⟨.isNull (o != "=") c, (q.bind .wheres vs).bindings, ?_, by rw [predicateText]⟩⟩
      show (if x.isNull then _ else _) = _
      rw [if_pos hnull]
      rfl
    · refine ⟨" " ++ o ++ " " ++ x.sql, fun c vs =>
        ⟨.compare c o x, ((q.bind .wheres vs).bind .wheres x.scalars).bindings, ?_, ?_⟩⟩
      · show (if x.isNull then _ else _) = _
        rw [if_neg hnull]
        rfl
      · rw [predicateText]
        simp only [String.append_assoc]
  | query s =>
    obtain ⟨sub, hsub⟩ := hvalue s rfl
    have hsub' : ∀ vs, s.build (q.bind .wheres vs) = .ok sub := by
      intro vs
      cases s <;> exact hsub
    refine ⟨" " ++ o ++ " (" ++ sub.textIn q.dialect ++ ")", fun c vs =>
      ⟨.compareQuery c o sub, ((q.bind .wheres vs).bind .wheres sub.values).bindings, ?_, ?_⟩⟩
    · exact bind_eq_ok.mpr ⟨_, rfl, bind_eq_ok.mpr ⟨sub, hsub' vs, rfl⟩⟩
    · rw [predicateText]
      simp only [String.append_assoc]
      rfl

/-- A sub-query on the left of a comparison: its text stands in the place of the column. -/
theorem hasFrame_subject (hplain : q.aggregate = none) (connector : Connector)
    (operator : Option String) (value : Comparand)
    (compared : (operator.isNone && value.isNull) = false)
    (haccepted : (subject connector operator value compared).Accepted q) :
    (subject connector operator value compared).HasFrame q := by
  obtain ⟨hknows, hvalue⟩ := haccepted
  obtain ⟨rest, hrest⟩ := compareColumn_text
    (Query.checkedOperator_ok hknows) compared hvalue connector
  obtain ⟨F, hF, hsql⟩ := Query.exists_frame_where hplain connector (Framed.parentheses.before rest)
  refine ⟨F, hF, fun s sub hs => ?_⟩
  obtain ⟨predicate, b, hcompare, htext⟩ := hrest (.raw ("(" ++ sub.sql ++ ")")) sub.values
  refine ⟨_, ?_, hsql b predicate sub.sql htext⟩
  show q.compare connector (.query s) operator value = _
  unfold Query.compare
  simp only [compared]
  exact bind_eq_ok.mpr ⟨_, text_of_build hs, hcompare⟩

/-- Every way of embedding a sub-query has a statement around it. -/
theorem hasFrame (hplain : q.aggregate = none) (w : Embedding) (haccepted : w.Accepted q) :
    w.HasFrame q := by
  cases w with
  | column label => exact hasFrame_column hplain label
  | source label => exact hasFrame_source hplain label
  | joined label kind first operator second =>
    exact hasFrame_joined hplain label kind first operator second
  | order direction => exact hasFrame_order hplain direction
  | candidates connector negated c => exact hasFrame_candidates hplain connector negated c
  | subject connector operator value compared =>
    exact hasFrame_subject hplain connector operator value compared haccepted
  | comparand connector c operator => exact hasFrame_comparand hplain connector c operator haccepted
  | «exists» connector negated => exact hasFrame_exists hplain connector negated
  | union all => exact hasFrame_union hplain all

/-- The text is that of the query around it for all sub-queries of a dialect. -/
theorem forall_textOf_iff (w : Embedding) (q : Query) (e : Dialect) :
    (∀ sub : Query, sub.dialect = e → w.textOf q sub = sub.textIn q.dialect) ↔
      w.isEarly = false ∨ e.quoteMark = q.dialect.quoteMark := by
  unfold textOf
  cases hearly : w.isEarly with
  | false => exact iff_of_true (fun _ _ => rfl) (.inl rfl)
  | true =>
    constructor
    · intro h
      -- with other marks a select of one table is written in two ways
      refine .inr (Classical.byContradiction fun hmarks => ?_)
      exact textIn_ne_of_quoteMark hmarks (h (Query.table { dialect := e } "t") rfl)
    · rintro (hlate | hmarks) sub rfl
      · exact absurd hlate (by decide)
      · exact textIn_eq_of_quoteMark hmarks sub

end Embedding

/-- Embedding a sub-query puts its text in parentheses into the statement, between two texts that do
not depend on it. As the value of a comparison, in a condition on its rows and in a union this is
its text in the dialect of the query around it. As a column, a source, a join, an ordering, the
candidates or the subject of a condition it is its text in its own dialect, which is the same for
every sub-query if the two dialects quote alike, and only then. -/
theorem embedded_text_dialect {q : Query} (hplain : q.aggregate = none) (w : Embedding)
    (haccepted : w.Accepted q) :
    (∃ before after, ∀ s sub, s.build q = .ok sub →
      ∃ q', w.embed s q = .ok q' ∧ q'.sql = before ++ ("(" ++ w.textOf q sub ++ ")") ++ after) ∧
    ∀ e : Dialect, (∀ sub : Query, sub.dialect = e → w.textOf q sub = sub.textIn q.dialect) ↔
      w.isEarly = false ∨ e.quoteMark = q.dialect.quoteMark := by
  refine ⟨?_, w.forall_textOf_iff q⟩
  obtain ⟨F, ⟨before, after, hF⟩, hsql⟩ := w.hasFrame hplain haccepted
  refine ⟨before, after, fun s sub hs => ?_⟩
  obtain ⟨q', hembed, htext⟩ := hsql s sub hs
  exact ⟨q', hembed, htext.trans (hF _)⟩

/-- Posts on a connection with quotation marks of its own. -/
def postsElsewhere : Query :=
  Query.table { dialect := .sqlite } "posts"

/-- The rows of the posts are asked for in the dialect of the users. -/
theorem embedded_text_dialect_exists :
    ∃ before after q',
      (Embedding.exists .and false).embed (.query postsElsewhere)
        (Query.table {} "users") = .ok q' ∧
      q'.sql = before ++ "(select * from \x60posts\x60)" ++ after := by
  obtain ⟨⟨before, after, h⟩, -⟩ :=
    embedded_text_dialect (q := Query.table {} "users") rfl (.exists .and false) trivial
  obtain ⟨q', hembed, hsql⟩ := h (.query postsElsewhere) postsElsewhere rfl
  exact ⟨before, after, q', hembed, hsql⟩

/-- As a column the posts are written in their own dialect, in a condition on their rows in that of
the users. -/
theorem embedded_texts_differ :
    ∃ q₁ q₂, (Query.table {} "users").selectSub (.query postsElsewhere) "p" = .ok q₁ ∧
      (Query.table {} "users").whereExists .and false (.query postsElsewhere) = .ok q₂ ∧
      q₁.sql = "select (select * from \"posts\") as \x60p\x60 from \x60users\x60" ∧
      q₂.sql = "select * from \x60users\x60 where exists (select * from \x60posts\x60)" :=
  ⟨_, _, rfl, rfl, rfl, rfl⟩

end QueryBuilder
