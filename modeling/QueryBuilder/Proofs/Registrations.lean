import QueryBuilder.Program

/-!
# Registered relations

Relations are registered under names, and registrations are taken back. What is left is told by the
history of a query: a name stands if its last registration was not taken back, and it stands in the
place at which it came to stand.

- `Registration`: one step of the history. `Registration.standing`: the place and the relation of a
  name.
- `Registered`: relations in the order of their places. `Registered.step`, `Registered.run`: what
  one step preserves, and what a history leads to.
- `Query.runSteps_registrations`, `Query.registered_history`: the relations of a query after a
  program of registrations.
-/

namespace QueryBuilder

/-- A step that has a relation loaded under a name, or no longer. -/
inductive Registration where
  | loading (name : String) (relation : Relation)
  | notLoading (name : String)

namespace Registration

/-- The step in a program. -/
def step : Registration → Step
  | loading name relation => .withRelation name relation
  | notLoading name => .withoutRelation name

/-- What a step makes of the relations to load. -/
def apply (loads : List (String × Relation)) : Registration → List (String × Relation)
  | loading name relation => Query.registerLoad name relation loads
  | notLoading name => loads.filter fun load => load.1 != name

/-- The place and the relation of a name after a history, the last step first. A name that stands
keeps its place when it is registered again; one that does not comes behind all others. -/
def standing (name : String) : List Registration → Option (Nat × Relation)
  | [] => none
  | loading other relation :: earlier =>
    if other = name then
      some (((standing name earlier).map Prod.fst).getD earlier.length, relation)
    else standing name earlier
  | notLoading other :: earlier => if other = name then none else standing name earlier

/-- The place of a name after a history. -/
def place (name : String) (history : List Registration) : Option Nat :=
  (standing name history).map Prod.fst

end Registration

/-- The relations that stand after a history, in the order of their places. -/
structure Registered (history : List Registration) (loads : List (String × Relation)) : Prop where
  mem : ∀ name relation, (name, relation) ∈ loads ↔
    ∃ n, Registration.standing name history = some (n, relation)
  ordered : loads.Pairwise fun load other => ∃ n m,
    Registration.place load.1 history = some n ∧ Registration.place other.1 history = some m ∧ n < m

/-! ## Relations under names -/

namespace Query

/-- A new name comes last. -/
theorem registerLoad_of_not_mem {name : String} {loads : List (String × Relation)}
    (hname : name ∉ loads.map Prod.fst) (relation : Relation) :
    registerLoad name relation loads = loads ++ [(name, relation)] := by
  induction loads with
  | nil => rfl
  | cons load loads ih =>
    rw [List.map_cons, List.mem_cons, not_or] at hname
    rw [registerLoad, if_neg (Ne.symm hname.1), ih hname.2, List.cons_append]

/-- A name that is there keeps its place and is given the new relation. -/
theorem registerLoad_of_mem {name : String} {loads : List (String × Relation)}
    (hnodup : (loads.map Prod.fst).Nodup) (hname : name ∈ loads.map Prod.fst)
    (relation : Relation) :
    registerLoad name relation loads =
      loads.map fun load => if load.1 = name then (name, relation) else load := by
  induction loads with
  | nil => cases hname
  | cons load loads ih =>
    rw [List.map_cons, List.nodup_cons] at hnodup
    rw [registerLoad, List.map_cons]
    by_cases hfirst : load.1 = name
    · -- the name does not come a second time
      have hrest : loads.map (fun load => if load.1 = name then (name, relation) else load) =
          loads := by
        refine (List.map_congr_left fun other hother => ?_).trans loads.map_id
        have hne : other.1 ≠ name := fun hsame =>
          hnodup.1 (hfirst ▸ hsame ▸ List.mem_map_of_mem hother)
        exact if_neg hne
      rw [if_pos hfirst, if_pos hfirst, hrest]
    · have hmem : name ∈ loads.map Prod.fst :=
        (List.mem_cons.mp hname).resolve_left (Ne.symm hfirst)
      rw [if_neg hfirst, if_neg hfirst, ih hnodup.2 hmem]

/-- Under the name stands the relation that was registered last. -/
theorem mem_registerLoad_self {name : String} {loads : List (String × Relation)}
    (hnodup : (loads.map Prod.fst).Nodup) (relation other : Relation) :
    (name, other) ∈ registerLoad name relation loads ↔ other = relation := by
  by_cases hname : name ∈ loads.map Prod.fst
  · rw [registerLoad_of_mem hnodup hname, List.mem_map]
    obtain ⟨load, hload, hfirst⟩ := List.mem_map.mp hname
    constructor
    · rintro ⟨entry, -, hentry⟩
      split at hentry
      · exact (congrArg Prod.snd hentry).symm
      · next hne => exact absurd (congrArg Prod.fst hentry) hne
    · rintro rfl
      exact ⟨load, hload, if_pos hfirst⟩
  · rw [registerLoad_of_not_mem hname, List.mem_append, List.mem_singleton, Prod.mk.injEq]
    have hnone : (name, other) ∉ loads := fun hmem => hname (List.mem_map_of_mem hmem)
    simp [hnone]

/-- Registering under one name does not touch the others. -/
theorem mem_registerLoad_of_ne {name key : String} (hne : key ≠ name)
    (loads : List (String × Relation)) (relation other : Relation) :
    (key, other) ∈ registerLoad name relation loads ↔ (key, other) ∈ loads := by
  induction loads with
  | nil => simp [registerLoad, hne]
  | cons load loads ih =>
    rw [registerLoad]
    split
    · -- the entry that is replaced has another name than `key`
      next hfirst =>
      have hload : (key, other) ≠ load := fun heq => hne ((congrArg Prod.fst heq).trans hfirst)
      simp [hne, hload]
    · rw [List.mem_cons, List.mem_cons, ih]

end Query

namespace Registration

variable {name other : String} {history : List Registration}

/-- A registration under one name leaves the standing of others. -/
theorem standing_loading_of_ne (hne : other ≠ name) (relation : Relation) :
    standing other (loading name relation :: history) = standing other history :=
  if_neg hne.symm

theorem standing_notLoading_of_ne (hne : other ≠ name) :
    standing other (notLoading name :: history) = standing other history :=
  if_neg hne.symm

theorem standing_notLoading_self : standing name (notLoading name :: history) = none :=
  if_pos rfl

/-- A registered name keeps the place that it had, or comes behind all steps so far. -/
theorem place_loading_self (relation : Relation) :
    place name (loading name relation :: history) =
      some ((place name history).getD history.length) := by
  unfold place
  rw [standing, if_pos rfl]
  rfl

/-- The other names keep their places. -/
theorem place_loading_of_ne (hne : other ≠ name) (relation : Relation) :
    place other (loading name relation :: history) = place other history :=
  congrArg (Option.map Prod.fst) (standing_loading_of_ne hne relation)

theorem place_notLoading_of_ne (hne : other ≠ name) :
    place other (notLoading name :: history) = place other history :=
  congrArg (Option.map Prod.fst) (standing_notLoading_of_ne hne)

/-- Places are counted from the first step on. -/
theorem place_lt {n : Nat} (h : place name history = some n) : n < history.length := by
  -- on the history, last step first; a name that stands anew takes the place behind it
  induction history generalizing n with
  | nil => cases h
  | cons event history ih =>
    rw [List.length_cons]
    cases event with
    | loading other relation =>
      by_cases hsame : name = other
      · subst hsame
        rw [place_loading_self] at h
        cases hplace : place name history with
        | none =>
          rw [hplace] at h
          cases h
          exact Nat.lt_succ_self _
        | some m =>
          rw [hplace] at h
          cases h
          exact Nat.lt_succ_of_lt (ih hplace)
      · rw [place_loading_of_ne hsame] at h
        exact Nat.lt_succ_of_lt (ih h)
    | notLoading other =>
      by_cases hsame : name = other
      · subst hsame
        rw [place, standing_notLoading_self] at h
        cases h
      · rw [place_notLoading_of_ne hsame] at h
        exact Nat.lt_succ_of_lt (ih h)

end Registration

namespace Registered

open Registration

variable {history : List Registration} {loads : List (String × Relation)}

/-- Places are strictly increasing, so no name occurs twice. -/
theorem nodup (h : Registered history loads) : (loads.map Prod.fst).Nodup := by
  refine List.pairwise_map.mpr (h.ordered.imp ?_)
  rintro load other ⟨n, m, hn, hm, hlt⟩ hsame
  rw [hsame] at hn
  have heq := Option.some.inj (hn.symm.trans hm)
  omega

/-- A name is among the relations exactly if it has a place. -/
theorem place_of_mem (h : Registered history loads) {name : String}
    (hname : name ∈ loads.map Prod.fst) : ∃ n, place name history = some n := by
  obtain ⟨⟨_, relation⟩, hload, rfl⟩ := List.mem_map.mp hname
  obtain ⟨n, hstanding⟩ := (h.mem _ relation).mp hload
  exact ⟨n, congrArg (Option.map Prod.fst) hstanding⟩

/-- The other direction of `place_of_mem`. -/
theorem mem_of_place (h : Registered history loads) {name : String} {n : Nat}
    (hplace : place name history = some n) : name ∈ loads.map Prod.fst := by
  obtain ⟨⟨_, relation⟩, hstanding, rfl⟩ := Option.map_eq_some_iff.mp hplace
  exact List.mem_map_of_mem ((h.mem name relation).mpr ⟨_, hstanding⟩)

/-- A relation that is registered again takes the place of the one that had its name. -/
theorem ordered_again (h : Registered history loads) {name : String}
    (hname : name ∈ loads.map Prod.fst) (relation : Relation) :
    (Query.registerLoad name relation loads).Pairwise fun load other => ∃ n m,
      place load.1 (.loading name relation :: history) = some n ∧
        place other.1 (.loading name relation :: history) = some m ∧ n < m := by
  have hplaces : ∀ load : String × Relation, place
      (if load.1 = name then (name, relation) else load).1 (.loading name relation :: history) =
        place load.1 history := by
    -- only the relation of the entry changes: its name has kept its place
    intro load
    split
    · next hsame =>
      obtain ⟨n, hplace⟩ := h.place_of_mem hname
      rw [hsame, place_loading_self, hplace]
      rfl
    · next hne => exact place_loading_of_ne hne relation
  rw [Query.registerLoad_of_mem h.nodup hname]
  refine List.pairwise_map.mpr (h.ordered.imp ?_)
  rintro load other ⟨n, m, hn, hm, hlt⟩
  exact ⟨n, m, (hplaces load).trans hn, (hplaces other).trans hm, hlt⟩

/-- A relation under a new name comes last. -/
theorem ordered_new (h : Registered history loads) {name : String}
    (hname : name ∉ loads.map Prod.fst) (relation : Relation) :
    (Query.registerLoad name relation loads).Pairwise fun load other => ∃ n m,
      place load.1 (.loading name relation :: history) = some n ∧
        place other.1 (.loading name relation :: history) = some m ∧ n < m := by
  have hkept : ∀ load ∈ loads,
      place load.1 (.loading name relation :: history) = place load.1 history := by
    intro load hload
    have hne : load.1 ≠ name := fun hsame => hname (List.mem_map.mpr ⟨load, hload, hsame⟩)
    exact place_loading_of_ne hne relation
  have hlast : place name (.loading name relation :: history) = some history.length := by
    have hnone : place name history = none :=
      Option.eq_none_iff_forall_ne_some.mpr fun n hplace => hname (h.mem_of_place hplace)
    rw [place_loading_self, hnone]
    rfl
  rw [Query.registerLoad_of_not_mem hname]
  refine List.pairwise_append.mpr ⟨?_, List.pairwise_singleton _ _, ?_⟩
  · refine h.ordered.imp_of_mem ?_
    rintro load other hload hother ⟨n, m, hn, hm, hlt⟩
    exact ⟨n, m, (hkept load hload).trans hn, (hkept other hother).trans hm, hlt⟩
  · -- the new name stands at the length of the history, which is beyond all places
    rintro load hload other hother
    obtain rfl := List.mem_singleton.mp hother
    obtain ⟨n, hplace⟩ := h.place_of_mem (List.mem_map_of_mem hload)
    exact ⟨n, history.length, (hkept load hload).trans hplace, hlast, place_lt hplace⟩

/-- What a registration makes of the relations is what the longer history tells. -/
theorem loading (h : Registered history loads) (name : String) (relation : Relation) :
    Registered (.loading name relation :: history) (Query.registerLoad name relation loads) where
  mem key other := by
    by_cases hsame : key = name
    · subst hsame
      rw [Query.mem_registerLoad_self h.nodup, standing, if_pos rfl]
      simp [eq_comm]
    · rw [Query.mem_registerLoad_of_ne hsame, standing_loading_of_ne hsame, h.mem]
  ordered := by
    by_cases hname : name ∈ loads.map Prod.fst
    · exact h.ordered_again hname relation
    · exact h.ordered_new hname relation

/-- Taking a registration back leaves what the longer history tells. -/
theorem notLoading (h : Registered history loads) (name : String) :
    Registered (.notLoading name :: history) (loads.filter fun load => load.1 != name) where
  mem key other := by
    rw [List.mem_filter, h.mem]
    by_cases hsame : key = name
    · subst hsame
      simp [standing_notLoading_self]
    · simp [standing_notLoading_of_ne hsame, hsame]
  ordered := by
    -- what is left stands in the old order, and none of it is the name that went
    refine (h.ordered.filter _).imp_of_mem ?_
    rintro load other hload hother ⟨n, m, hn, hm, hlt⟩
    have hkept : ∀ entry ∈ loads.filter (fun load => load.1 != name),
        place entry.1 (.notLoading name :: history) = place entry.1 history := by
      intro entry hentry
      exact place_notLoading_of_ne (by simpa using (List.mem_filter.mp hentry).2)
    exact ⟨n, m, (hkept load hload).trans hn, (hkept other hother).trans hm, hlt⟩

/-- One step of the history, of either sort. -/
theorem step (h : Registered history loads) (event : Registration) :
    Registered (event :: history) (Registration.apply loads event) := by
  cases event with
  | loading name relation => exact h.loading name relation
  | notLoading name => exact h.notLoading name

/-- What a run of registrations makes of the relations. -/
theorem run (h : Registered history loads) (events : List Registration) :
    Registered (events.reverse ++ history) (events.foldl Registration.apply loads) := by
  -- on the steps to come, with history and relations free: each step is one of the past for the
  -- next
  induction events generalizing history loads with
  | nil => exact h
  | cons event events ih =>
    rw [List.reverse_cons, List.append_assoc, List.singleton_append]
    exact ih (h.step event)

theorem nil : Registered [] [] where
  mem name relation := by simp [standing]
  ordered := .nil

end Registered

namespace Query

/-- The history of a query: how its relations were registered, and what happened since, the last
step first. -/
def history (q : Query) (events : List Registration) : List Registration :=
  (q.eagerLoads.map (fun load => Registration.loading load.1 load.2) ++ events).reverse

/-- Relations that are registered one after the other stand in the order of their registration. -/
theorem foldl_apply_loading {front loads : List (String × Relation)}
    (hnodup : ((front ++ loads).map Prod.fst).Nodup) :
    (loads.map fun load => Registration.loading load.1 load.2).foldl Registration.apply front =
      front ++ loads := by
  induction loads generalizing front with
  | nil => exact (List.append_nil front).symm
  | cons load loads ih =>
    -- `front` grows at its end, so each name has to be a new one there
    have hnew : load.1 ∉ front.map Prod.fst := by
      rw [List.map_append, List.map_cons, List.nodup_append] at hnodup
      exact fun hmem => hnodup.2.2 _ hmem _ List.mem_cons_self rfl
    have happly : Registration.apply front (.loading load.1 load.2) = front ++ [load] :=
      registerLoad_of_not_mem hnew load.2
    rw [List.append_cons] at hnodup ⊢
    rw [List.map_cons, List.foldl_cons, happly]
    exact ih hnodup

/-- The query after registrations. -/
def registering (q : Query) (events : List Registration) : Query :=
  { q with eagerLoads := events.foldl Registration.apply q.eagerLoads }

/-- A program of registrations always succeeds. -/
theorem runSteps_registrations (q : Query) (events : List Registration) :
    runSteps (events.map Registration.step) q = .ok (q.registering events) := by
  induction events generalizing q with
  | nil =>
    cases q
    rfl
  | cons event events ih =>
    have hstep : runStep event.step q = .ok (q.registering [event]) := by
      cases event <;> rfl
    show (runStep event.step q).bind (runSteps (events.map Registration.step)) = _
    rw [hstep]
    exact ih (q.registering [event])

/-- The statement of a query does not show its relations. -/
theorem sql_registering (q : Query) (events : List Registration) :
    (q.registering events).sql = q.sql := by
  cases q
  rfl

/-- The relations of a query after registrations are told by its history. -/
theorem registered_history {q : Query} (hnodup : (q.eagerLoads.map Prod.fst).Nodup)
    (events : List Registration) :
    Registered (q.history events) (q.registering events).eagerLoads := by
  have hpast : (q.eagerLoads.map fun load => Registration.loading load.1 load.2).foldl
      Registration.apply [] = q.eagerLoads := foldl_apply_loading hnodup
  have hrun := Registered.nil.run
    (q.eagerLoads.map (fun load => Registration.loading load.1 load.2) ++ events)
  rw [List.append_nil, List.foldl_append, hpast] at hrun
  exact hrun

end Query

end QueryBuilder
