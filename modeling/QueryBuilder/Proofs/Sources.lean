import Mathlib.Data.List.Forall2
import QueryBuilder.Proofs.Edits
import QueryBuilder.Proofs.Placeholders

/-!
# What a query reads from

A query has one source, and each step that names one puts it in the place of the last. The values
that the steps bind are not replaced: those of a source that is gone stay in front of those of the
current one.

- `SourceStep`: the steps that name a source. `SourceStep.given`: what each of them puts in place.
- `runStep_source`, `runSteps_sources`: what one of these steps does, and what a sequence of them
  does.
- `source_values_iff`: after each step, the source and the values that are filed for it. They are
  those of the source exactly if nothing before it bound any.
- `unmatched_replaced_source`: a statement with a value but no placeholder for it.
-/

namespace QueryBuilder

/-- A step that says what a query reads from. -/
inductive SourceStep where
  | source (source : Source)
  | sourceAs (table label : String)
  | sourceRaw (sql : String) (values : List Value)
  | sourceNested (query : Nested) (label : String)

/-- A source and the values that its text binds. -/
structure BoundSource where
  source : Source
  values : List Value

namespace SourceStep

/-- The step in a program. -/
def step : SourceStep → Step
  | source s => .source s
  | sourceAs table label => .sourceAs table label
  | sourceRaw sql vs => .sourceRaw sql vs
  | sourceNested n label => .sourceNested n label

/-- What a step puts in place on a connection. Only a sub-query may fail to be built. -/
def given (c : Connection) : SourceStep → Except Error BoundSource
  | source s => .ok ⟨s, []⟩
  | sourceAs table label => .ok ⟨.table (table ++ " as " ++ label), []⟩
  | sourceRaw sql vs => .ok ⟨.raw sql, vs⟩
  | sourceNested n label => do
    let (sql, vs) ← (← runNested n (.on c)).text (.on c)
    return ⟨.raw ("(" ++ sql ++ ") as " ++ c.dialect.quoteName label), vs⟩

end SourceStep

/-- Reads from a source with the values that it binds. -/
def Query.readFrom (q : Query) (b : BoundSource) : Query :=
  (q.fromSource b.source).bind .source b.values

/-! ## One step -/

/-- A sub-query sees nothing of the query but its connection. -/
theorem runNested_on (n : Nested) (q : Query) : runNested n q = runNested n (.on q.connection) := by
  cases n <;> rfl

/-- Its text does not depend on that query either. -/
theorem text_on (sub : Subquery) (q : Query) : sub.text q = sub.text (.on q.connection) := by
  cases sub <;> rfl

/-- A source step puts its source in place and adds what it binds; it fails where that cannot be
built. -/
theorem runStep_source (step : SourceStep) (q : Query) :
    runStep step.step q = (step.given q.connection).map q.readFrom := by
  cases step with
  | source s => exact congrArg Except.ok (Query.bind_nil (q.fromSource s) .source).symm
  | sourceAs table label =>
    exact congrArg Except.ok (Query.bind_nil (q.fromSource (.table (table ++ " as " ++ label)))
      .source).symm
  | sourceRaw sql vs => rfl
  | sourceNested n label =>
    show (runNested n q).bind (fun sub => (sub.text q).bind _) =
      ((runNested n (.on q.connection)).bind fun sub => (sub.text (.on q.connection)).bind _).map _
    rw [runNested_on n q]
    cases runNested n (.on q.connection) with
    | error why => rfl
    | ok sub =>
      show (sub.text q).bind _ = ((sub.text (.on q.connection)).bind _).map _
      rw [text_on sub q]
      cases sub.text (.on q.connection) <;> rfl

/-! ## A sequence of steps -/

/-- A run of source steps gets through exactly if each of them gives a source, and reads from these
one after another. -/
theorem runSteps_sources (steps : List SourceStep) (q q' : Query) :
    runSteps (steps.map SourceStep.step) q = .ok q' ↔
      ∃ given, List.Forall₂ (fun step b => step.given q.connection = .ok b) steps given ∧
        q' = given.foldl Query.readFrom q := by
  -- on the steps; each reads from its source and hands the query on
  induction steps generalizing q with
  | nil =>
    constructor
    · intro h
      exact ⟨[], .nil, (Except.ok.inj h).symm⟩
    · rintro ⟨given, hgiven, rfl⟩
      cases hgiven
      rfl
  | cons step steps ih =>
    have hrun : runSteps ((step :: steps).map SourceStep.step) q =
        ((step.given q.connection).map q.readFrom).bind (runSteps (steps.map SourceStep.step)) := by
      rw [← runStep_source step q]
      rfl
    rw [hrun]
    cases hstep : step.given q.connection with
    | error why =>
      constructor
      · intro h
        cases h
      · rintro ⟨given, hgiven, -⟩
        cases hgiven with
        | cons hfirst _ => exact absurd (hstep.symm.trans hfirst) (by simp)
    | ok b =>
      -- the connection stays, so the later steps give what they would have given at first
      refine (ih (q.readFrom b)).trans ?_
      constructor
      · rintro ⟨given, hgiven, rfl⟩
        exact ⟨b :: given, .cons hstep hgiven, rfl⟩
      · rintro ⟨given, hgiven, rfl⟩
        cases hgiven with
        | cons hfirst hrest =>
          obtain rfl := Except.ok.inj (hstep.symm.trans hfirst)
          exact ⟨_, hrest, rfl⟩

/-- What is related to a list with one more entry has one more entry. -/
theorem forall₂_concat {α β : Type} {R : α → β → Prop} {as : List α} {a : α} {bs : List β} :
    List.Forall₂ R (as ++ [a]) bs ↔
      ∃ front b, List.Forall₂ R as front ∧ R a b ∧ bs = front ++ [b] := by
  constructor
  · intro h
    -- cut where the front ends: what is related to it, and what to the entry behind
    have hfront := (List.forall₂_take_append bs as [a] h.flip).flip
    obtain ⟨b, rest, hlast, hrest, hback⟩ :=
      List.forall₂_cons_left_iff.mp (List.forall₂_drop_append bs as [a] h.flip).flip
    cases hrest
    refine ⟨_, b, hfront, hlast, ?_⟩
    rw [← hback, List.take_append_drop]
  · rintro ⟨front, b, hfront, hlast, rfl⟩
    exact List.rel_append hfront (.cons hlast .nil)

namespace Query

/-- The last source of several is in place, with the values of all. -/
theorem foldl_readFrom (q : Query) (replaced : List BoundSource) (current : BoundSource) :
    (replaced ++ [current]).foldl readFrom q =
      (q.fromSource current.source).bind .source (replaced.flatMap BoundSource.values ++
        current.values) := by
  induction replaced generalizing q with
  | nil => rfl
  | cons b replaced ih =>
    rw [List.cons_append, List.foldl_cons, ih, List.flatMap_cons, List.append_assoc]
    -- a source in the place of another is the only one, while their values add up
    exact bind_bind (q.fromSource current.source) .source b.values _

end Query

/-- A query of any kind, and steps on it that name sources, up to any one of them. They get through
exactly if each gives a source. Then the last of these sources is what the query reads from, and
behind the values that were filed for the source before are those of all sources that were named,
also of the replaced ones; nothing else changes. So the values are those of the current source
exactly if no source before it bound any. -/
theorem source_values_iff (q q' : Query) (steps : List SourceStep) (last : SourceStep) :
    runSteps ((steps ++ [last]).map SourceStep.step) q = .ok q' ↔
      ∃ replaced current,
        List.Forall₂ (fun step b => step.given q.connection = .ok b) steps replaced ∧
        last.given q.connection = .ok current ∧
        q' = (q.fromSource current.source).bind .source
          (replaced.flatMap BoundSource.values ++ current.values) ∧
        (q'.bindings.get .source = current.values ↔
          q.bindings.get .source = [] ∧ ∀ b ∈ replaced, b.values = []) := by
  -- the values of a part are those it had, those of replaced sources and those of the last
  have hcurrent : ∀ (replaced : List BoundSource) (current : BoundSource),
      (((q.fromSource current.source).bind .source
        (replaced.flatMap BoundSource.values ++ current.values)).bindings.get .source =
          current.values ↔
          q.bindings.get .source = [] ∧ ∀ b ∈ replaced, b.values = []) := by
    intro replaced current
    have hget : ((q.fromSource current.source).bind .source
        (replaced.flatMap BoundSource.values ++ current.values)).bindings.get .source =
          q.bindings.get .source ++ replaced.flatMap BoundSource.values ++ current.values :=
      (Bindings.get_extend q.bindings .source .source _).trans (List.append_assoc ..).symm
    rw [hget, List.append_left_eq_self, List.append_eq_nil_iff, List.flatMap_eq_nil_iff]
  rw [runSteps_sources]
  constructor
  · rintro ⟨given, hgiven, rfl⟩
    obtain ⟨replaced, current, hreplaced, hlast, rfl⟩ := forall₂_concat.mp hgiven
    rw [Query.foldl_readFrom]
    exact ⟨replaced, current, hreplaced, hlast, rfl, hcurrent replaced current⟩
  · rintro ⟨replaced, current, hreplaced, hlast, rfl, -⟩
    refine ⟨replaced ++ [current], forall₂_concat.mpr ⟨replaced, current, hreplaced, hlast, rfl⟩,
      ?_⟩
    rw [Query.foldl_readFrom]

/-- A value of the source that was replaced is sent for a statement without a placeholder. -/
theorem unmatched_replaced_source :
    ∃ q, runSteps
        ([.sourceRaw "series(?)" [.ofInt 1], .source (.table "users")].map SourceStep.step)
        (.on {}) = .ok q ∧
      q.source = some (.table "users") ∧ q.bindings.get .source = [.ofInt 1] ∧
      q.sql = "select * from `users`" ∧ q.values = [.ofInt 1] ∧ placeholders q.sql = 0 :=
  ⟨_, rfl, rfl, rfl, by decide +kernel, rfl, by decide +kernel⟩

end QueryBuilder
