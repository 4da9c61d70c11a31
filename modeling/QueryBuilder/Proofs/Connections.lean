import QueryBuilder.Proofs.Runs

/-!
# Runs stay on their connection

Closures, groups and sub-queries are built on queries of their own, but what a run comes to is on
the connection that it started on. Relations rely on this: their rows are fetched where the parents
came from.

- `Rules.anything`: the rules that every program keeps (`allowsSteps_anything`).
- `connection_of_runSteps`, `connection_of_runRelation`: runs stay on their connection.
-/

namespace QueryBuilder

/-- Every raw text with every value, and parts and values may part. -/
def Rules.anything : Rules where
  raw _ _ := True
  apart := True

namespace Rules

theorem allowsColumn_anything (c : Column) : anything.AllowsColumn c := by
  cases c <;> trivial

theorem allowsSource_anything (s : Source) : anything.AllowsSource s := by
  cases s <;> trivial

theorem allowsOperand_anything (o : Operand) : anything.AllowsOperand o := by
  cases o <;> trivial

/-- Where parts and values may part, a source may be replaced although it has bound values. -/
theorem allowsReplacing_anything (q : Query) : anything.AllowsReplacing q :=
  .inl trivial

/-- A link holds operands in the conditions on its pivot rows only. -/
theorem allowsLink_anything (l : Link) : anything.AllowsLink l := by
  cases l with
  | belongsToMany m =>
    -- no other link carries values
    intro condition _
    cases condition with
    | compare column operator value => exact allowsOperand_anything value
    | isIn column values negated => exact fun o _ => allowsOperand_anything o
    | between column low high negated =>
      exact ⟨allowsOperand_anything low, allowsOperand_anything high⟩
    | isNull column negated => trivial
  | _ => trivial

mutual

/-- Every program keeps the rules that ask nothing. -/
theorem allowsSteps_anything : ∀ (steps : List Step) (q : Query), anything.AllowsSteps steps q
  | [], _ => trivial
  | step :: rest, q => ⟨allowsStep_anything step q, fun q' _ => allowsSteps_anything rest q'⟩
termination_by structural steps => steps

/-- One case for each step; what a step holds as a tree is judged by its own sort. -/
theorem allowsStep_anything (step : Step) (q : Query) : anything.AllowsStep step q := by
  cases step with
  | select columns => exact fun c _ => allowsColumn_anything c
  | addSelect columns => exact fun c _ => allowsColumn_anything c
  | selectNested n label => exact allowsNested_anything n _
  | source source => exact ⟨allowsSource_anything source, allowsReplacing_anything q⟩
  | sourceAs table label => exact allowsReplacing_anything q
  | sourceRaw sql values => exact ⟨trivial, allowsReplacing_anything q⟩
  | sourceNested n label => exact ⟨allowsNested_anything n _, allowsReplacing_anything q⟩
  | join kind source first operator second => exact ⟨allowsSource_anything source, trivial⟩
  | crossJoin source => exact allowsSource_anything source
  | joinWith source kind steps =>
    exact ⟨allowsSource_anything source, allowsJoinSteps_anything steps _⟩
  | joinWhere kind source first operator value =>
    exact ⟨allowsSource_anything source, allowsValue_anything value _⟩
  | joinNested n label kind first operator second => exact ⟨allowsNested_anything n _, trivial⟩
  | groupBy columns => exact fun c _ => allowsColumn_anything c
  | orderBy column direction => exact allowsColumn_anything column
  | orderByNested n direction => exact allowsNested_anything n _
  | reorderBy column direction => exact allowsColumn_anything column
  | union all n => exact allowsNested_anything n _
  | provided condition steps => exact fun _ => allowsSteps_anything steps q
  | compare connector column operator value =>
    cases column with
    | column c => exact ⟨allowsColumn_anything c, allowsValue_anything value _⟩
    | nested n => exact ⟨allowsNested_anything n _, allowsValue_anything value _⟩
    | rows rows => exact allowsRows_anything rows q
    | pairs pairs => exact allowsPairs_anything pairs _
  | group connector steps => exact allowsSteps_anything steps _
  | groupOf connector dialect steps => exact allowsSteps_anything steps _
  | compareColumns connector first operator second =>
    exact ⟨allowsColumn_anything first, allowsColumn_anything second⟩
  | columnRows rows => exact allowsRows_anything rows q
  | isNull connector negated column => exact allowsColumn_anything column
  | isIn connector negated column candidates =>
    exact ⟨allowsColumn_anything column, allowsCandidates_anything candidates _⟩
  | between connector negated column low high =>
    exact ⟨allowsColumn_anything column, allowsOperand_anything low, allowsOperand_anything high⟩
  | betweenColumns negated column low high =>
    exact ⟨allowsColumn_anything column, allowsColumn_anything low, allowsColumn_anything high⟩
  | datePart connector part column operator value =>
    exact ⟨allowsColumn_anything column, allowsOperand_anything value⟩
  | «exists» connector negated n => exact allowsNested_anything n _
  | having connector column operator value =>
    exact ⟨allowsColumn_anything column, allowsOperand_anything value⟩
  | havingNull negated column => exact allowsColumn_anything column
  | havingBetween column low high =>
    exact ⟨allowsColumn_anything column, allowsOperand_anything low, allowsOperand_anything high⟩
  | relationAggregate name relation function column =>
    exact ⟨trivial, allowsRelation_anything relation _⟩
  | relationCount name relation => exact allowsRelation_anything relation _
  | has connector relation operator count => exact allowsRelation_anything relation _
  | lacks connector relation => exact allowsRelation_anything relation _
  | hasNot relation operator count => exact allowsRelation_anything relation _
  | _ => trivial
termination_by structural step

/-- A relation: its link, and its scope as a program on the related table. -/
theorem allowsRelation_anything : ∀ (relation : Relation) (c : Connection),
    anything.AllowsRelation relation c
  | ⟨link, scope⟩, _ => ⟨allowsLink_anything link, allowsSteps_anything scope _⟩
termination_by structural relation => relation

theorem allowsNested_anything : ∀ (n : Nested) (start : Query), anything.AllowsNested n start
  | .closure steps, start => allowsSteps_anything steps start
  | .built _ steps, _ => allowsSteps_anything steps _
  | .sql _, _ => trivial
termination_by structural n => n

theorem allowsValue_anything : ∀ (value : ValueTerm) (start : Query),
    anything.AllowsValue value start
  | .operand o, _ => allowsOperand_anything o
  | .nested n, start => allowsNested_anything n start
termination_by structural value => value

theorem allowsCandidates_anything : ∀ (candidates : CandidateTerm) (start : Query),
    anything.AllowsCandidates candidates start
  | .operands _, _ => fun o _ => allowsOperand_anything o
  | .nested n, start => allowsNested_anything n start
termination_by structural candidates => candidates

theorem allowsValues_anything : ∀ (row : List ValueTerm) (start : Query),
    anything.AllowsValues row start
  | [], _ => trivial
  | value :: rest, start => ⟨allowsValue_anything value start, allowsValues_anything rest start⟩
termination_by structural row => row

/-- The elements of a condition row. A single one is a group and starts on the source of the
query, the elements of a longer row do not. -/
theorem allowsRow_anything : ∀ (row : List ValueTerm) (q : Query), anything.AllowsRow row q
  | [], _ => trivial
  | [value], q => allowsValue_anything value q.freshOnSource
  | value :: other :: rest, q =>
    ⟨allowsValue_anything value q.fresh, allowsValue_anything other q.fresh,
      allowsValues_anything rest q.fresh⟩
termination_by structural row => row

/-- Condition rows, each on the same query. -/
theorem allowsRows_anything : ∀ (rows : List (List ValueTerm)) (q : Query),
    anything.AllowsRows rows q
  | [], _ => trivial
  | row :: rest, q => ⟨allowsRow_anything row q, allowsRows_anything rest q⟩
termination_by structural rows => rows

theorem allowsPairs_anything : ∀ (pairs : List (String × ValueTerm)) (start : Query),
    anything.AllowsPairs pairs start
  | [], _ => trivial
  | (_, value) :: rest, start =>
    ⟨allowsValue_anything value start, allowsPairs_anything rest start⟩
termination_by structural pairs => pairs

/-- The steps of a join, all on the connection of the query around it. -/
theorem allowsJoinSteps_anything : ∀ (steps : List JoinStep) (c : Connection),
    anything.AllowsJoinSteps steps c
  | [], _ => trivial
  | step :: rest, c => ⟨allowsJoinStep_anything step c, allowsJoinSteps_anything rest c⟩
termination_by structural steps => steps

/-- A step of a join; another join inside it names its source. -/
theorem allowsJoinStep_anything : ∀ (step : JoinStep) (c : Connection),
    anything.AllowsJoinStep step c
  | .on _ _ _ _, _ => trivial
  | .group _ steps, c => allowsJoinSteps_anything steps c
  | .compare _ _ _ value, c => allowsValue_anything value (.on c)
  | .isNull _ _, _ => trivial
  | .isIn _ candidates, c => allowsCandidates_anything candidates (.on c)
  | .join source _ _ _, _ => ⟨allowsSource_anything source, trivial⟩
termination_by structural step => step

end

end Rules

/-! ## The connection -/

namespace Query

variable {q : Query}

/-- Neither orderings nor windows touch the connection, whichever tail they go to. -/
theorem connection_updateTail (f : Tail → Tail) : (q.updateTail f).connection = q.connection := by
  unfold updateTail
  split <;> rfl

/-- The connection is no part that a query can lose. -/
theorem connection_drop (part : Part) : (q.drop part).connection = q.connection := by
  cases part <;> rfl

/-- No edit moves a query to another connection. -/
theorem editClosed_connection (r : Rules) :
    EditClosed r fun p q => q.connection = p.connection where
  refl _ := rfl
  select hq _ := hq
  column hq _ := hq
  distinct hq := hq
  source hq _ _ := hq
  join _ hq _ _ _ _ := hq
  condition _ hq _ := hq
  group hq _ := hq
  having _ hq _ := hq
  order hq _ := (connection_updateTail _).trans hq
  reorder hq := hq
  withoutOrdersBy _ hq := hq
  limit _ hq := (connection_updateTail _).trans hq
  offset _ hq := (connection_updateTail _).trans hq
  union _ hq _ := hq
  loads _ hq := hq
  values _ _ hq := hq
  drop part _ hq := (connection_drop part).trans hq
  fresh hq := hq

end Query

/-- A program that ends well leaves its query on the connection on which it found it. -/
theorem connection_of_runSteps {steps : List Step} {q q' : Query} (h : runSteps steps q = .ok q') :
    q'.connection = q.connection :=
  -- the rules ask nothing, so every program falls under the induction over edits
  (Query.editClosed_connection .anything).stepsKeep steps rfl
    (Rules.allowsSteps_anything steps q) h

/-- The related rows are fetched on the connection that the relation is run on. -/
theorem connection_of_runRelation {relation : Relation} {c : Connection} {q' : Query}
    (h : runRelation relation c = .ok q') : q'.connection = c :=
  (Query.editClosed_connection .anything).relationKeeps relation
    (Rules.allowsRelation_anything relation c) h

end QueryBuilder
