import QueryBuilder.Proofs.Precedence

/-!
# The connector in front of a list

Conditions are written one by one, each behind its connector, and the connector that the whole then
starts with is taken off again by looking at the text. The text of a condition may be anything, and
may itself start with `and` or `or`; lists stand inside groups, joins and sub-queries. Still nothing
but the one connector is ever taken off.

- `listedText`: conditions with their texts, written without the connector of the first from the
  start.
- `Query.assembled`, `assembledPredicate`: a writer that puts texts together and takes nothing off
  any of them.
- `Query.body_eq_assembled`, `predicateText_eq_assembled`: it writes the same texts.
- `Query.ledByAnd`: the query in which every list at every depth starts with `and` or `and not`.
- `leading_connector_alone_is_dropped`: the text of a list, and that it does not matter whether a
  list starts with `and` or with `or`.
-/

namespace QueryBuilder

/-! ## One list -/

/-- Conditions with their texts, written in a row: the first has but its negation in front, every
other its connector. -/
def listedText : List (Connector × String) → String
  | [] => ""
  | (connector, text) :: rest => connector.signedText text ++ followingText rest

/-- What is written and then loses its connector is what is written without it. -/
theorem dropConnector_join (d : Dialect) (conditions : List Condition) :
    dropConnector (Text.join " " (conditionTexts d conditions)) =
      listedText (writtenConditions d conditions) := by
  cases conditions with
  | nil => rfl
  | cons c rest => exact conditionsText_cons d c rest

/-- The connector with the same negation that is an `and`. -/
def Connector.asAnd (c : Connector) : Connector :=
  if c.negates then .andNot else .and

/-- In front of a list an `and` and an `or` of the same negation are written alike. -/
theorem Connector.signedText_asAnd (c : Connector) : c.asAnd.signedText = c.signedText := by
  cases c <;> rfl

/-- The conditions, the first of them behind an `and`. -/
def leadByAnd : List Condition → List Condition
  | [] => []
  | ⟨connector, p⟩ :: rest => ⟨connector.asAnd, p⟩ :: rest

/-- A list led by `and` is written as the list was. -/
theorem listedText_leadByAnd (d : Dialect) (conditions : List Condition) :
    listedText (writtenConditions d (leadByAnd conditions)) =
      listedText (writtenConditions d conditions) := by
  cases conditions with
  | nil => rfl
  | cons c rest =>
    obtain ⟨connector, p⟩ := c
    show connector.asAnd.signedText _ ++ _ = connector.signedText _ ++ _
    rw [Connector.signedText_asAnd]

/-! ## Texts put together -/

mutual

/-- The text of a query, put together from the texts of its predicates. -/
def Query.assembled (d : Dialect) : Query → Option Aggregate → String
  | { connection := _, aggregate := _, columns, distinct, source, joins, wheres, groups, havings,
      tail, unions, unionTail, eagerLoads := _, bindings := _ }, aggregate =>
    let base :=
      d.baseText aggregate columns distinct source (Text.join " " (assembledJoins d joins))
        (listedText (assembledConditions d wheres)) groups
          (listedText (assembledConditions d havings)) tail
    if unions.isEmpty then base
    else Dialect.parenthesized base ++ " " ++ d.unionsText (assembledUnions d unions) unionTail

/-- Conditions with their texts. -/
def assembledConditions (d : Dialect) : List Condition → List (Connector × String)
  | [] => []
  | ⟨connector, p⟩ :: rest => (connector, assembledPredicate d p) :: assembledConditions d rest

/-- The text of a predicate. -/
def assembledPredicate (d : Dialect) : Predicate → String
  | .group conditions => "(" ++ listedText (assembledConditions d conditions) ++ ")"
  | .compareQuery column operator query =>
    d.column column ++ " " ++ operator ++ " (" ++ d.finish query (Query.assembled d query) ++ ")"
  | .exists negated query =>
    (if negated then "not exists (" else "exists (") ++ d.finish query (Query.assembled d query) ++
      ")"
  | p => predicateText d p

/-- The texts of joins. -/
def assembledJoins (d : Dialect) : List Join → List String
  | [] => []
  | ⟨kind, source, conditions, joins⟩ :: rest =>
    let source :=
      if joins.isEmpty then d.source source
      else "(" ++ d.source source ++ " " ++ Text.join " " (assembledJoins d joins) ++ ")"
    Text.trim (kind.sql ++ " join " ++ source ++ " " ++
      keyword "on" (listedText (assembledConditions d conditions))) :: assembledJoins d rest

/-- The texts of the further queries of a union. -/
def assembledUnions (d : Dialect) : List Union → List String
  | [] => []
  | ⟨all, query⟩ :: rest =>
    ((if all then "union all " else "union ") ++
      Dialect.parenthesized (d.finish query (Query.assembled d query))) :: assembledUnions d rest

end

mutual

/-- Every query is put together so. -/
theorem Query.body_eq_assembled (d : Dialect) (q : Query) (a : Option Aggregate) :
    q.body d a = q.assembled d a := by
  obtain ⟨_, _, columns, distinct, source, joins, wheres, groups, havings, tail, unions,
      unionTail, _, _⟩ := q
  simp only [Query.body, Query.assembled]
  -- conditions and conditions on groups lose their connector; nothing else in a query does
  rw [dropConnector_join, dropConnector_join, writtenConditions_eq_assembled d wheres,
    writtenConditions_eq_assembled d havings, joinTexts_eq_assembled d joins,
      unionTexts_eq_assembled d unions]

/-- Conditions with their texts, list by list. -/
theorem writtenConditions_eq_assembled (d : Dialect) : ∀ conditions : List Condition,
    writtenConditions d conditions = assembledConditions d conditions
  | [] => rfl
  | ⟨connector, p⟩ :: rest => by
    rw [assembledConditions, ← predicateText_eq_assembled d p,
      ← writtenConditions_eq_assembled d rest]
    rfl

/-- Every predicate is put together so. A group is a list again, and two predicates hold
queries. -/
theorem predicateText_eq_assembled (d : Dialect) (p : Predicate) :
    predicateText d p = assembledPredicate d p := by
  cases p with
  | group conditions =>
    rw [predicateText, assembledPredicate, dropConnector_join,
      writtenConditions_eq_assembled d conditions]
  | compareQuery column operator query =>
    have hbody : Query.body d query = Query.assembled d query :=
      funext (Query.body_eq_assembled d query)
    rw [predicateText, assembledPredicate, hbody]
  | «exists» negated query =>
    have hbody : Query.body d query = Query.assembled d query :=
      funext (Query.body_eq_assembled d query)
    rw [predicateText, assembledPredicate, hbody]
  -- what is left holds neither lists nor queries
  | _ => rfl

/-- The conditions of a join are a list of their own, and the joins inside it have theirs. -/
theorem joinTexts_eq_assembled (d : Dialect) :
    ∀ joins : List Join, joinTexts d joins = assembledJoins d joins
  | [] => rfl
  | ⟨kind, source, conditions, joins⟩ :: rest => by
    rw [joinTexts, assembledJoins, dropConnector_join, writtenConditions_eq_assembled d conditions,
      joinTexts_eq_assembled d joins, joinTexts_eq_assembled d rest]

/-- The further queries of a union are queries. -/
theorem unionTexts_eq_assembled (d : Dialect) : ∀ unions : List Union,
    unionTexts d unions = assembledUnions d unions
  | [] => rfl
  | ⟨all, query⟩ :: rest => by
    have hbody : Query.body d query = Query.assembled d query :=
      funext (Query.body_eq_assembled d query)
    rw [unionTexts, assembledUnions, hbody, unionTexts_eq_assembled d rest]

end

/-! ## Lists led by `and` -/

mutual

/-- The query whose lists of conditions, at every depth, start with `and` or `and not`. -/
def Query.ledByAnd : Query → Query
  | { connection, aggregate, columns, distinct, source, joins, wheres, groups, havings, tail,
      unions, unionTail, eagerLoads, bindings } =>
    { connection, aggregate, columns, distinct, source, joins := joinsLedByAnd joins
      wheres := leadByAnd (insideLedByAnd wheres), groups
      havings := leadByAnd (insideLedByAnd havings), tail
      unions := unionsLedByAnd unions, unionTail, eagerLoads, bindings }

/-- Conditions with their own connectors and all lists inside them led by `and`. -/
def insideLedByAnd : List Condition → List Condition
  | [] => []
  | ⟨connector, p⟩ :: rest => ⟨connector, p.ledByAnd⟩ :: insideLedByAnd rest

/-- The predicate with all lists inside it led by `and`. -/
def Predicate.ledByAnd : Predicate → Predicate
  | .group conditions => .group (leadByAnd (insideLedByAnd conditions))
  | .compareQuery column operator query => .compareQuery column operator query.ledByAnd
  | .exists negated query => .exists negated query.ledByAnd
  | p => p

/-- Joins with all their lists led by `and`. -/
def joinsLedByAnd : List Join → List Join
  | [] => []
  | ⟨kind, source, conditions, joins⟩ :: rest =>
    ⟨kind, source, leadByAnd (insideLedByAnd conditions), joinsLedByAnd joins⟩ :: joinsLedByAnd rest

/-- Further queries of a union with all their lists led by `and`. -/
def unionsLedByAnd : List Union → List Union
  | [] => []
  | ⟨all, query⟩ :: rest => ⟨all, query.ledByAnd⟩ :: unionsLedByAnd rest

end

/-- No join is lost, so a source keeps its parentheses or keeps doing without. -/
theorem isEmpty_joinsLedByAnd (joins : List Join) :
    (joinsLedByAnd joins).isEmpty = joins.isEmpty := by
  cases joins with
  | nil => rfl
  | cons j rest => obtain ⟨_, _, _, _⟩ := j; rfl

/-- No further query is lost. -/
theorem isEmpty_unionsLedByAnd (unions : List Union) :
    (unionsLedByAnd unions).isEmpty = unions.isEmpty := by
  cases unions with
  | nil => rfl
  | cons u rest => obtain ⟨_, _⟩ := u; rfl

/-- What decides where the aggregate of a query stands is no condition. -/
theorem Dialect.finish_ledByAnd (d : Dialect) (q : Query) (body : Option Aggregate → String) :
    d.finish q.ledByAnd body = d.finish q body := by
  obtain ⟨_, aggregate, _, distinct, _, _, _, _, _, _, unions, _, _, _⟩ := q
  rw [Query.ledByAnd]
  unfold finish Query.isUnion
  rw [isEmpty_unionsLedByAnd]

mutual

/-- A query is written as it was with every list in it led by `and`. -/
theorem Query.body_ledByAnd (d : Dialect) (q : Query) (a : Option Aggregate) :
    q.ledByAnd.body d a = q.body d a := by
  obtain ⟨_, _, columns, distinct, source, joins, wheres, groups, havings, tail, unions,
      unionTail, _, _⟩ := q
  simp only [Query.ledByAnd, Query.body, isEmpty_unionsLedByAnd, dropConnector_join,
    listedText_leadByAnd]
  rw [joinTexts_ledByAnd d joins, writtenConditions_insideLedByAnd d wheres,
    writtenConditions_insideLedByAnd d havings, unionTexts_ledByAnd d unions]

/-- Conditions keep their own connectors, and what is inside them is written as it was. -/
theorem writtenConditions_insideLedByAnd (d : Dialect) : ∀ conditions : List Condition,
    writtenConditions d (insideLedByAnd conditions) = writtenConditions d conditions
  | [] => rfl
  | ⟨connector, p⟩ :: rest => by
    have hrest := writtenConditions_insideLedByAnd d rest
    unfold writtenConditions at hrest ⊢
    rw [insideLedByAnd, List.map_cons, List.map_cons, predicateText_ledByAnd d p, hrest]

/-- A predicate is written as it was with every list in it led by `and`. -/
theorem predicateText_ledByAnd (d : Dialect) (p : Predicate) :
    predicateText d p.ledByAnd = predicateText d p := by
  cases p with
  | group conditions =>
    rw [Predicate.ledByAnd, predicateText, predicateText, dropConnector_join, dropConnector_join,
      listedText_leadByAnd, writtenConditions_insideLedByAnd d conditions]
  | compareQuery column operator query =>
    have hbody : Query.body d query.ledByAnd = Query.body d query :=
      funext (Query.body_ledByAnd d query)
    rw [Predicate.ledByAnd, predicateText, predicateText, hbody, Dialect.finish_ledByAnd]
  | «exists» negated query =>
    have hbody : Query.body d query.ledByAnd = Query.body d query :=
      funext (Query.body_ledByAnd d query)
    rw [Predicate.ledByAnd, predicateText, predicateText, hbody, Dialect.finish_ledByAnd]
  | _ => rfl

/-- Joins are written as they were. -/
theorem joinTexts_ledByAnd (d : Dialect) :
    ∀ joins : List Join, joinTexts d (joinsLedByAnd joins) = joinTexts d joins
  | [] => rfl
  | ⟨kind, source, conditions, joins⟩ :: rest => by
    rw [joinsLedByAnd, joinTexts, joinTexts, isEmpty_joinsLedByAnd, dropConnector_join,
      dropConnector_join, listedText_leadByAnd, writtenConditions_insideLedByAnd d conditions,
      joinTexts_ledByAnd d joins, joinTexts_ledByAnd d rest]

/-- Further queries are written as they were. -/
theorem unionTexts_ledByAnd (d : Dialect) : ∀ unions : List Union,
    unionTexts d (unionsLedByAnd unions) = unionTexts d unions
  | [] => rfl
  | ⟨all, query⟩ :: rest => by
    have hbody : Query.body d query.ledByAnd = Query.body d query :=
      funext (Query.body_ledByAnd d query)
    rw [unionsLedByAnd, unionTexts, unionTexts, hbody, Dialect.finish_ledByAnd,
      unionTexts_ledByAnd d rest]

end

/-- A list of conditions is written as it was with itself and every list in it led by `and`. -/
theorem conditionsText_ledByAnd (d : Dialect) (conditions : List Condition) :
    conditionsText d (leadByAnd (insideLedByAnd conditions)) = conditionsText d conditions := by
  unfold conditionsText
  rw [dropConnector_join, dropConnector_join, listedText_leadByAnd,
    writtenConditions_insideLedByAnd]

/-- The whole statement, its aggregate in its place. -/
theorem Query.textIn_ledByAnd (d : Dialect) (q : Query) : q.ledByAnd.textIn d = q.textIn d := by
  unfold textIn
  rw [Dialect.finish_ledByAnd, show q.ledByAnd.body d = q.body d from funext (q.body_ledByAnd d)]

/-- A list of conditions is written as the text of its first condition, behind its negation if it
has one, and that of each later condition behind its connector. Every list is, however deep it lies:
the same texts are put together by a writer that takes nothing off any text. Whether a list starts
with an `and` or with the `or` of the same negation makes no difference, at any depth: with every
list led by `and` the text is the same. -/
theorem leading_connector_alone_is_dropped (d : Dialect) :
    (∀ (c : Condition) (rest : List Condition),
        conditionsText d (c :: rest) =
          (if c.connector.negates then "not " else "") ++ predicateText d c.predicate ++
            followingText (rest.map fun next => (next.connector, predicateText d next.predicate))) ∧
      ((∀ conditions : List Condition, conditionsText d conditions =
        listedText (assembledConditions d conditions)) ∧
        (∀ p : Predicate, predicateText d p = assembledPredicate d p) ∧
        ∀ q : Query, q.textIn d = d.finish q (q.assembled d)) ∧
      (∀ conditions : List Condition,
        conditionsText d (leadByAnd (insideLedByAnd conditions)) = conditionsText d conditions) ∧
      (∀ p : Predicate, predicateText d p.ledByAnd = predicateText d p) ∧
      ∀ q : Query, q.ledByAnd.textIn d = q.textIn d := by
  refine ⟨fun c rest => ?_, ⟨fun conditions => ?_, predicateText_eq_assembled d, fun q => ?_⟩,
    conditionsText_ledByAnd d, predicateText_ledByAnd d, Query.textIn_ledByAnd d⟩
  · rw [conditionsText_cons]
    unfold Connector.signedText
    split
    · rfl
    · rw [String.empty_append]
      rfl
  · rw [← writtenConditions_eq_assembled]
    exact dropConnector_join d conditions
  · unfold Query.textIn
    rw [show q.body d = q.assembled d from funext (q.body_eq_assembled d)]

/-- The texts of the conditions themselves start with connectors, and a group starts with an
`or`. -/
example :
    conditionsText .mysql [⟨.or, .raw "or a"⟩,
      ⟨.andNot, .group [⟨.orNot, .raw "AND b"⟩, ⟨.or, .raw "and c"⟩]⟩] =
      "or a and not (not AND b or and c)" := by decide +kernel

end QueryBuilder
