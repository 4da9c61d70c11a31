import QueryBuilder.Proofs.ClauseText

/-!
# How a list of conditions is read

A list of conditions is written without parentheses, so the connectors alone decide what it means:
`not` binds tighter than `and`, and `and` tighter than `or`. This module gives a list the meaning
that its text has.

- `alternatives`: a list cut in front of each `or`. The list is true if one alternative is true
  throughout.
- `conditionsText_eq`: the text of a list is the texts of its alternatives with `or` between them.
- `Valued`: truth values of the conditions of a list, under an assignment of truth values to the
  individual conditions at every depth of nesting.
- `RestrictedTo`: the last condition is true whenever the list is. It is so exactly for a list in
  which no `or` stands in front of that condition (`restrictedTo_iff`).
-/

namespace QueryBuilder

namespace Connector

/-- The condition starts an alternative. -/
def isOr : Connector → Bool
  | or => true
  | orNot => true
  | _ => false

/-- The condition is negated. -/
def negates : Connector → Bool
  | andNot => true
  | orNot => true
  | _ => false

/-- The truth value that a condition has behind this connector. -/
def signed (c : Connector) (truth : Bool) : Bool :=
  truth != c.negates

/-- The text that a condition has behind this connector. -/
def signedText (c : Connector) (text : String) : String :=
  if c.negates then "not " ++ text else text

/-- Every connector has a truth value behind which it is true. -/
theorem signed_not_negates (c : Connector) : c.signed (!c.negates) = true := by
  cases c <;> rfl

end Connector

/-! ## Alternatives -/

section Alternatives

variable {α : Type}

/-- Conditions with their connectors, cut in front of each `or`. The connector of the first counts
for its negation alone. -/
def alternatives : List (Connector × α) → List (List (Connector × α))
  | [] => []
  | item :: rest =>
    match alternatives rest with
    | (next :: more) :: others =>
      if next.1.isOr then [item] :: (next :: more) :: others else (item :: next :: more) :: others
    | _ => [[item]]

/-- The first alternative of a list starts as the list does. -/
theorem alternatives_cons (item : Connector × α) (rest : List (Connector × α)) :
    ∃ more others, alternatives (item :: rest) = (item :: more) :: others := by
  rw [alternatives]
  split
  · split
    · exact ⟨_, _, rfl⟩
    · exact ⟨_, _, rfl⟩
  · exact ⟨_, _, rfl⟩

/-- An item in front of an `or` is an alternative. -/
theorem alternatives_cons_or (item next : Connector × α) (rest : List (Connector × α))
    (h : next.1.isOr = true) :
    alternatives (item :: next :: rest) = [item] :: alternatives (next :: rest) := by
  obtain ⟨more, others, hnext⟩ := alternatives_cons next rest
  rw [alternatives, hnext]
  exact if_pos h

/-- An item in front of an `and` belongs to the alternative behind it. -/
theorem alternatives_cons_and (item next : Connector × α) (rest : List (Connector × α))
    (h : next.1.isOr = false) {first : List (Connector × α)} {others : List (List (Connector × α))}
    (hnext : alternatives (next :: rest) = first :: others) :
    alternatives (item :: next :: rest) = (item :: first) :: others := by
  obtain ⟨more, others', hcons⟩ := alternatives_cons next rest
  obtain ⟨rfl, rfl⟩ := List.cons.inj (hnext.symm.trans hcons)
  rw [alternatives, hcons]
  exact if_neg (by simp [h])

/-- Nothing is lost and nothing moves. -/
theorem flatten_alternatives (items : List (Connector × α)) :
    (alternatives items).flatten = items := by
  induction items with
  | nil => rfl
  | cons item rest ih =>
    cases rest with
    | nil => rfl
    | cons next rest =>
      -- by the connector of the second item, which says whether the first stands alone
      cases h : next.1.isOr with
      | true => rw [alternatives_cons_or item next rest h, List.flatten_cons, ih]; rfl
      | false =>
        obtain ⟨more, others, hnext⟩ := alternatives_cons next rest
        rw [alternatives_cons_and item next rest h hnext]
        rw [hnext] at ih
        simp only [List.flatten_cons, List.cons_append] at ih ⊢
        rw [ih]

/-- Every alternative holds a condition. -/
theorem nil_notMem_alternatives (items : List (Connector × α)) : [] ∉ alternatives items := by
  induction items with
  | nil => simp [alternatives]
  | cons item rest ih =>
    rw [alternatives]
    split
    · next next more others hrest =>
      rw [hrest] at ih
      split <;> simp_all
    · simp

/-- What stands in front of an `or` and what starts with it are read apart. -/
theorem alternatives_append_or (front : List (Connector × α)) {next : Connector × α}
    (rest : List (Connector × α)) (h : next.1.isOr = true) :
    alternatives (front ++ next :: rest) = alternatives front ++ alternatives (next :: rest) := by
  induction front with
  | nil => rfl
  | cons item front ih =>
    cases front with
    | nil => exact alternatives_cons_or item next rest h
    | cons second front =>
      rw [List.cons_append] at ih
      show alternatives (item :: second :: (front ++ next :: rest)) = _
      -- the second item alone says whether the first is cut from it, with or without the rest
      cases hsecond : second.1.isOr with
      | true =>
        rw [alternatives_cons_or _ _ _ hsecond, alternatives_cons_or _ _ _ hsecond, ih]
        rfl
      | false =>
        obtain ⟨more, others, hfront⟩ := alternatives_cons second front
        rw [hfront] at ih
        rw [alternatives_cons_and _ _ _ hsecond hfront, alternatives_cons_and _ _ _ hsecond ih]
        rfl

/-- Without an `or` behind the first item there is a single alternative. -/
theorem alternatives_of_conjoined (item : Connector × α) (rest : List (Connector × α))
    (h : ∀ other ∈ rest, other.1.isOr = false) : alternatives (item :: rest) = [item :: rest] := by
  induction rest generalizing item with
  | nil => rfl
  | cons next rest ih =>
    rw [List.forall_mem_cons] at h
    exact alternatives_cons_and item next rest h.1 (ih next h.2)

end Alternatives

/-! ## Text -/

/-- Conditions with what they are written as. -/
def writtenConditions (d : Dialect) (conditions : List Condition) : List (Connector × String) :=
  conditions.map fun c => (c.connector, predicateText d c.predicate)

/-- The text of alternatives. -/
def alternativesText (alternatives : List (List (Connector × String))) : String :=
  Text.join " or " (alternatives.map fun alternative =>
    Text.join " and " (alternative.map fun item => item.1.signedText item.2))

/-- The texts of conditions that stand behind others. -/
def followingText : List (Connector × String) → String
  | [] => ""
  | (connector, text) :: rest => " " ++ connector.sql ++ " " ++ text ++ followingText rest

/-- The first connector is dropped from the text, but for a negation. -/
theorem dropConnector_sql (c : Connector) (text : String) :
    dropConnector (c.sql ++ " " ++ text) = c.signedText text := by
  rw [← String.toList_inj]
  cases c <;>
    simp [dropConnector, dropWord, Connector.sql, Connector.signedText, Connector.negates]

/-- A negation stands in front of the whole text. -/
theorem signedText_append (c : Connector) (text rest : String) :
    c.signedText (text ++ rest) = c.signedText text ++ rest := by
  unfold Connector.signedText
  split
  · rw [String.append_assoc]
  · rfl

/-- A connector is the word between alternatives or between conditions of one, with the negation
behind it. -/
theorem sql_eq (c : Connector) (text : String) :
    " " ++ c.sql ++ " " ++ text =
      (if c.isOr then " or " else " and ") ++ c.signedText text := by
  rw [← String.toList_inj]
  cases c <;>
    simp [Connector.sql, Connector.signedText, Connector.negates, Connector.isOr]

/-- What stands in front of the first piece stands in front of them all. -/
theorem join_append_cons (separator s t : String) (rest : List String) :
    Text.join separator ((s ++ t) :: rest) = s ++ Text.join separator (t :: rest) := by
  cases rest with
  | nil => rfl
  | cons u rest => simp only [Text.join_cons_cons, String.append_assoc]

/-- The texts of conditions, taken apart at the first. -/
theorem join_conditionTexts (d : Dialect) (c : Condition) (rest : List Condition) :
    Text.join " " (conditionTexts d (c :: rest)) =
      c.connector.sql ++ " " ++ (predicateText d c.predicate ++
        followingText (writtenConditions d rest)) := by
  induction rest generalizing c with
  | nil =>
    obtain ⟨connector, p⟩ := c
    simp [conditionTexts, writtenConditions, followingText]
  | cons next rest ih =>
    obtain ⟨connector, p⟩ := c
    have hnext := ih next
    obtain ⟨connector', p'⟩ := next
    simp only [conditionTexts, Text.join_cons_cons] at hnext ⊢
    rw [hnext]
    simp only [writtenConditions, List.map_cons, followingText, String.append_assoc]

/-- The first condition loses its connector and keeps its negation. -/
theorem conditionsText_cons (d : Dialect) (c : Condition) (rest : List Condition) :
    conditionsText d (c :: rest) =
      c.connector.signedText (predicateText d c.predicate) ++
        followingText (writtenConditions d rest) := by
  unfold conditionsText
  rw [join_conditionTexts, dropConnector_sql, signedText_append]

/-- A condition and those behind it are written as the alternatives they are cut into. -/
theorem signedText_followingText (item : Connector × String) (rest : List (Connector × String)) :
    item.1.signedText item.2 ++ followingText rest =
      alternativesText (alternatives (item :: rest)) := by
  -- on the conditions behind the first, whose own text is the one of the first alternative
  induction rest generalizing item with
  | nil => simp [alternatives, alternativesText, followingText]
  | cons next rest ih =>
    obtain ⟨more, others, hnext⟩ := alternatives_cons next rest
    have hrest := ih next
    rw [hnext] at hrest
    have htext : followingText (next :: rest) =
        (if next.1.isOr then " or " else " and ") ++
          alternativesText ((next :: more) :: others) := by
      rw [← hrest, ← String.append_assoc, ← sql_eq]
      rfl
    rw [htext]
    cases h : next.1.isOr with
    | true =>
      rw [alternatives_cons_or item next rest h, hnext]
      simp only [alternativesText, List.map_cons, List.map_nil, Text.join_cons_cons,
        Text.join_singleton, if_true, String.append_assoc]
    | false =>
      rw [alternatives_cons_and item next rest h hnext]
      simp only [alternativesText, List.map_cons, Text.join_cons_cons, String.append_assoc,
        join_append_cons, Bool.false_eq_true, if_false]

/-- The text of a list of conditions is that of its alternatives: between two of them stands `or`,
between two conditions of one `and`, and a negated condition starts with `not`. -/
theorem conditionsText_eq (d : Dialect) (conditions : List Condition) :
    conditionsText d conditions =
      alternativesText (alternatives (writtenConditions d conditions)) := by
  cases conditions with
  | nil => rfl
  | cons c rest =>
    rw [conditionsText_cons]
    exact signedText_followingText (c.connector, predicateText d c.predicate) _

/-! ## Truth -/

/-- Conditions with their truth values are true together: one alternative is true throughout, or
there are no conditions. -/
def Holds (truths : List (Connector × Bool)) : Prop :=
  truths = [] ∨ ∃ alternative ∈ alternatives truths,
    ∀ condition ∈ alternative, condition.1.signed condition.2 = true

/-- Conditions that are all true, or all false, behind their connectors are so together. -/
theorem holds_of_alike {truths : List (Connector × Bool)} {truth : Bool} (hne : truths ≠ [])
    (h : ∀ condition ∈ truths, condition.1.signed condition.2 = truth) :
    truth = true ↔ Holds truths := by
  have hmem : ∀ alternative ∈ alternatives truths, ∀ condition ∈ alternative,
      condition.1.signed condition.2 = truth := by
    intro alternative halternative condition hcondition
    refine h condition ?_
    rw [← flatten_alternatives truths]
    exact List.mem_flatten_of_mem halternative hcondition
  constructor
  · intro htrue
    -- there is a first alternative, and it is as true as the rest
    obtain ⟨item, rest, rfl⟩ := List.exists_cons_of_ne_nil hne
    obtain ⟨more, others, hcons⟩ := alternatives_cons item rest
    have hfirst : (item :: more) ∈ alternatives (item :: rest) := hcons ▸ List.mem_cons_self
    refine .inr ⟨_, hfirst, fun condition hcondition => ?_⟩
    rw [hmem _ hfirst condition hcondition, htrue]
  · rintro (hnil | ⟨alternative, halternative, hall⟩)
    · exact absurd hnil hne
    · have hfilled : alternative ≠ [] := fun hnil =>
        nil_notMem_alternatives truths (hnil ▸ halternative)
      obtain ⟨condition, rest, rfl⟩ := List.exists_cons_of_ne_nil hfilled
      rw [← hmem _ halternative condition List.mem_cons_self]
      exact hall condition List.mem_cons_self

/-- The conditions of a group; any other predicate has none. -/
def Predicate.conditions : Predicate → List Condition
  | .group conditions => conditions
  | _ => []

mutual

/-- A truth value that a predicate has under some assignment of truth values to the individual
conditions. A group has the value of its conditions read together. Any other predicate is assigned
either value, wherever it stands; so is a group without conditions, which is no SQL. -/
inductive Predicate.Valued : Predicate → Bool → Prop
  | single {p : Predicate} (truth : Bool) : p.conditions = [] → p.Valued truth
  | group {p : Predicate} {truths : List (Connector × Bool)} {truth : Bool} :
    p.conditions ≠ [] → Valued p.conditions truths → (truth = true ↔ Holds truths) →
      p.Valued truth

/-- Truth values that the conditions of a list have under some assignment of truth values to the
individual conditions. -/
inductive Valued : List Condition → List (Connector × Bool) → Prop
  | nil : Valued [] []
  | cons {connector : Connector} {p : Predicate} {rest : List Condition} {truth : Bool}
      {truths : List (Connector × Bool)} :
    p.Valued truth → Valued rest truths →
      Valued (⟨connector, p⟩ :: rest) ((connector, truth) :: truths)

end

mutual

/-- Every predicate can have either value: a group has the one that all of its conditions are
given behind their connectors. -/
theorem Predicate.valued (p : Predicate) (truth : Bool) : p.Valued truth := by
  cases p with
  | group conditions =>
    cases conditions with
    | nil => exact .single truth rfl
    | cons c rest =>
      -- the value is given to each condition behind its own connector
      refine .group (List.cons_ne_nil c rest) (valued_of (c :: rest) fun k => truth != k.negates) ?_
      refine holds_of_alike (by simp) fun condition hcondition => ?_
      obtain ⟨c', _, rfl⟩ := List.mem_map.mp hcondition
      unfold Connector.signed
      cases truth <;> cases c'.connector.negates <;> rfl
  | _ => exact .single truth rfl
termination_by structural p

/-- The conditions of a list can have any values. -/
theorem valued_of (conditions : List Condition) (truth : Connector → Bool) :
    Valued conditions (conditions.map fun c => (c.connector, truth c.connector)) := by
  cases conditions with
  | nil => exact .nil
  | cons c rest =>
    obtain ⟨connector, p⟩ := c
    exact .cons (p.valued (truth connector)) (valued_of rest truth)
termination_by structural conditions

end

/-- To the list that it stands in, a group is as free as a single condition. -/
theorem valued_iff {conditions : List Condition} {truths : List (Connector × Bool)} :
    Valued conditions truths ↔ truths.map Prod.fst = conditions.map Condition.connector := by
  induction conditions generalizing truths with
  | nil =>
    rw [List.map_nil, List.map_eq_nil_iff]
    constructor
    · rintro ⟨⟩
      rfl
    · rintro rfl
      exact .nil
  | cons c rest ih =>
    obtain ⟨connector, p⟩ := c
    constructor
    · intro h
      cases h with
      | cons _ hrest => rw [List.map_cons, ih.mp hrest, List.map_cons]
    · intro h
      obtain ⟨⟨c', truth⟩, truths, rfl, hconnector, hrest⟩ := List.map_eq_cons_iff.mp h
      subst hconnector
      exact .cons (p.valued truth) (ih.mpr hrest)

/-! ## The last condition -/

/-- No condition but the first is tied with an `or`. -/
def Conjoined (conditions : List Condition) : Prop :=
  ∀ c ∈ conditions.tail, c.connector.isOr = false

/-- Conditions tied with `and` behind others change nothing about these. -/
theorem conjoined_append {conditions added : List Condition} (h : ∀ c ∈ added, c.connector = .and) :
    Conjoined (conditions ++ added) ↔ Conjoined conditions := by
  have hadded : ∀ c ∈ added, c.connector.isOr = false := fun c hc => by rw [h c hc]; rfl
  unfold Conjoined
  cases conditions with
  | nil =>
    refine ⟨fun _ c hc => absurd hc List.not_mem_nil, fun _ c hc => ?_⟩
    exact hadded c (List.mem_of_mem_tail hc)
  | cons first rest =>
    rw [List.cons_append, List.tail_cons, List.tail_cons, List.forall_mem_append]
    exact and_iff_left hadded

/-- The last condition, `key`, is true whenever the whole list is, under every assignment of truth
values to the individual conditions. Each place in the list has a value of its own, also where two
conditions read alike. -/
def RestrictedTo (conditions : List Condition) (key : Predicate) : Prop :=
  ∃ others, conditions = others ++ [⟨.and, key⟩] ∧
    ∀ truths truth, Valued conditions (truths ++ [(.and, truth)]) →
      Holds (truths ++ [(.and, truth)]) → truth = true

/-- A condition behind an `and` is true where the list is, if every condition in front of it is tied
with an `and` as well. -/
theorem eq_true_of_holds {truths : List (Connector × Bool)} {truth : Bool}
    (h : ∀ condition ∈ truths.tail, condition.1.isOr = false)
    (hholds : Holds (truths ++ [(.and, truth)])) : truth = true := by
  -- with no `or` there is a single alternative, and the key is in it
  have hsingle : alternatives (truths ++ [(.and, truth)]) = [truths ++ [(.and, truth)]] := by
    cases truths with
    | nil => rfl
    | cons first rest =>
      refine alternatives_of_conjoined first (rest ++ [(.and, truth)]) fun other hother => ?_
      rcases List.mem_append.mp hother with hother | hother
      · exact h other hother
      · rw [List.mem_singleton.mp hother]
        rfl
  rcases hholds with hnil | ⟨alternative, halternative, hall⟩
  · exact absurd hnil (by simp)
  · rw [hsingle, List.mem_singleton] at halternative
    subst halternative
    simpa [Connector.signed, Connector.negates] using hall (.and, truth) (by simp)

/-- What stands in front of an `or` makes the list true on its own. -/
theorem holds_of_front {front rest : List (Connector × Bool)} {next : Connector × Bool}
    (hne : front ≠ []) (hfront : ∀ condition ∈ front, condition.1.signed condition.2 = true)
    (hor : next.1.isOr = true) : Holds (front ++ next :: rest) := by
  rcases (holds_of_alike hne hfront).mp rfl with hnil | ⟨alternative, halternative, hall⟩
  · exact absurd hnil hne
  · refine .inr ⟨alternative, ?_, hall⟩
    rw [alternatives_append_or front rest hor]
    exact List.mem_append_left _ halternative

/-- A condition that is tied to others with `and` restricts the whole list exactly if no `or` stands
among them. That is a property of the text of the list: by `conditionsText_eq` the text is read by
the same `alternatives` as the truth values, and a restricted list is written as a single one of
them (`conditionsText_of_restrictedTo`). -/
theorem restrictedTo_iff {others : List Condition} {key : Predicate} :
    RestrictedTo (others ++ [⟨.and, key⟩]) key ↔ Conjoined others := by
  constructor
  · rintro ⟨others', heq, hkey⟩ c hc
    obtain ⟨rfl, -⟩ := List.append_inj' heq rfl
    -- otherwise all that stands in front of the `or` is true and the key is false
    refine Bool.eq_false_iff.mpr fun hor => ?_
    obtain ⟨first, hfirst⟩ : ∃ first, others = first :: others.tail := by
      cases others with
      | nil => exact absurd hc List.not_mem_nil
      | cons first rest => exact ⟨first, rfl⟩
    obtain ⟨front, rest, hsplit⟩ := List.append_of_mem hc
    have htruths := hkey (others.map fun c => (c.connector, !c.connector.negates)) false
      (valued_iff.mpr (by simp [List.map_append, Function.comp_def]))
    have hfront : ∀ condition ∈ (first :: front).map fun c => (c.connector, !c.connector.negates),
        condition.1.signed condition.2 = true := by
      intro condition hcondition
      obtain ⟨c', _, rfl⟩ := List.mem_map.mp hcondition
      exact Connector.signed_not_negates c'.connector
    have hholds : Holds (others.map (fun c => (c.connector, !c.connector.negates)) ++
        [(.and, false)]) := by
      rw [hfirst, hsplit, ← List.cons_append, List.map_append, List.map_cons, List.append_assoc,
        List.cons_append]
      exact holds_of_front (List.cons_ne_nil _ _) hfront hor
    exact absurd (htruths hholds) (by simp)
  · intro hothers
    refine ⟨others, rfl, fun truths truth hvalued => eq_true_of_holds fun condition hcondition =>
      ?_⟩
    -- truth values stand behind the connectors of the conditions they belong to
    have hconnectors := valued_iff.mp hvalued
    rw [List.map_append, List.map_append] at hconnectors
    have hmap : truths.tail.map Prod.fst = others.tail.map Condition.connector := by
      rw [List.map_tail, List.map_tail, (List.append_inj' hconnectors rfl).1]
    have hmem : condition.1 ∈ others.tail.map Condition.connector :=
      hmap ▸ List.mem_map_of_mem hcondition
    obtain ⟨c, hc, hconnector⟩ := List.mem_map.mp hmem
    rw [← hconnector]
    exact hothers c hc

/-- A list that its last condition restricts is written with `and` between all of its conditions. -/
theorem conditionsText_of_restrictedTo (d : Dialect) {others : List Condition} {key : Predicate}
    (h : RestrictedTo (others ++ [⟨.and, key⟩]) key) :
    conditionsText d (others ++ [⟨.and, key⟩]) =
      Text.join " and " ((writtenConditions d (others ++ [⟨.and, key⟩])).map fun item =>
        item.1.signedText item.2) := by
  have hconjoined : Conjoined (others ++ [⟨.and, key⟩]) :=
    (conjoined_append (by simp)).mpr (restrictedTo_iff.mp h)
  rw [conditionsText_eq]
  generalize others ++ [⟨.and, key⟩] = conditions at hconjoined
  cases conditions with
  | nil => rfl
  | cons first rest =>
    have hrest : ∀ item ∈ writtenConditions d rest, item.1.isOr = false := by
      intro item hitem
      obtain ⟨c, hc, rfl⟩ := List.mem_map.mp hitem
      exact hconjoined c hc
    have hsingle := alternatives_of_conjoined (first.connector, predicateText d first.predicate)
      (writtenConditions d rest) hrest
    show alternativesText (alternatives (_ :: writtenConditions d rest)) = _
    rw [hsingle]
    rfl

end QueryBuilder
