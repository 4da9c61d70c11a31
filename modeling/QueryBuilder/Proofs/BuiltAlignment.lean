import QueryBuilder.Proofs.Alignment
import QueryBuilder.Proofs.Runs

/-!
# Building keeps placeholders and values together

Alignment at a clause is kept by every edit, hence by every run whose raw texts carry what is bound
for them and in which parts and values are not changed apart from one another.

- `Rules.matched`: the rules under which this holds.
- `Query.KeepsAligned p q`: every clause at which `p` is aligned is one at which `q` is. A group of
  conditions is built on a source that it has no values for, so alignment of all clauses at once
  would be too much to ask of what a run starts on.
- `editClosed_keepsAligned`: the relation is closed under the edits.
- `placeholders_match_values`: clause by clause, what a program builds is aligned in every dialect,
  and its own statement has as many placeholders as it has values.
-/

namespace QueryBuilder

/-- Every raw text carries the values that are bound for it, and parts of a query are not changed
apart from its values. -/
def Rules.matched : Rules where
  raw sql vs := Carries sql (scalarCount vs)
  apart := False

namespace Query

/-- There is no aggregate in place, and an ordering of a union only where there is a union. -/
structure Plain (q : Query) : Prop where
  aggregate : q.aggregate = none
  unionOrders : q.unions = [] → q.unionTail.orders = []

/-- From a plain query to a plain query, without loss of alignment at any clause. -/
def KeepsAligned (p q : Query) : Prop :=
  p.Plain → q.Plain ∧ ∀ d c, p.AlignedAt d c → q.AlignedAt d c

theorem KeepsAligned.refl (q : Query) : q.KeepsAligned q :=
  fun hplain => ⟨hplain, fun _ _ h => h⟩

/-- What one run keeps and the next keeps is kept by both in a row. -/
theorem KeepsAligned.trans {p q q' : Query} (hq : p.KeepsAligned q) (hq' : q.KeepsAligned q') :
    p.KeepsAligned q' := by
  intro hplain
  obtain ⟨hplain, haligned⟩ := hq hplain
  obtain ⟨hplain', haligned'⟩ := hq' hplain
  exact ⟨hplain', fun d c h => haligned' d c (haligned d c h)⟩

/-- An edit under which alignment is inherited at every clause; only the orderings of a union need
a word of their own. -/
theorem Inherits.keepsAligned {p q : Query} (h : p.Inherits q)
    (horders : (p.unions = [] → p.unionTail.orders = []) → q.unions = [] →
      q.unionTail.orders = []) : p.KeepsAligned q :=
  fun hplain => ⟨⟨h.aggregate hplain.aggregate, horders hplain.unionOrders⟩, h.alignedAt⟩

theorem plain_onSource (c : Connection) (source : Option Source) :
    Plain { Query.on c with source } :=
  ⟨rfl, fun _ => rfl⟩

/-- A query that holds nothing is aligned wherever its source plays no part. -/
theorem alignedAt_onSource (c : Connection) (source : Option Source) (d : Dialect) {e : Clause}
    (he : e ≠ .source) : AlignedAt { Query.on c with source } d e := by
  cases e with
  | source => exact absurd rfl he
  | _ => exact CarriesAll.nil

theorem alignedAt_on (c : Connection) (d : Dialect) (e : Clause) : (Query.on c).AlignedAt d e := by
  cases e <;> exact CarriesAll.nil

/-! ## What is written carries what it binds -/

/-- What is built from the empty query is aligned in every dialect. -/
theorem KeepsAligned.aligned {c : Connection} {q : Query} (h : (on c).KeepsAligned q)
    (d : Dialect) : q.Aligned d := by
  -- the empty query is plain and aligned everywhere, so nothing is asked of it
  obtain ⟨hplain, haligned⟩ := h (plain_onSource c none)
  exact aligned_of_alignedAt hplain.aggregate fun e => haligned d e (alignedAt_on c d e)

/-- The statement of a query that is built from the empty one carries what the query hands
over. -/
theorem KeepsAligned.carries {c : Connection} {q : Query} (h : (on c).KeepsAligned q)
    (d : Dialect) : Carries (q.textIn d) (scalarCount q.values) := by
  rw [scalarCount_values]
  exact (h.aligned d).carries

end Query

open Query (KeepsAligned)

variable {sql : String} {vs : List Value}

/-- A sub-query carries what it binds, whether it was built or is a raw text. -/
theorem WrittenSub.carries (h : WrittenSub .matched KeepsAligned sql vs) :
    Carries sql (scalarCount vs) := by
  cases h with
  | query hsub => exact hsub.carries _
  | raw hraw => exact hraw

/-- A label behind a text, quoted or not, adds no placeholder if it carries none itself. -/
theorem carries_labelled (h : Carries sql (scalarCount vs)) {label : String}
    (hlabel : Carries label 0) : Carries ("(" ++ sql ++ ") as " ++ label) (scalarCount vs) := by
  have hword : Carries (") as " ++ label) 0 := (by decide : Carries ") as " 0).append hlabel
  have htext := Carries.between (by decide : Carries "(" 0) h hword
  rwa [← String.append_assoc] at htext

/-- The function that reads null as zero has another name in each dialect, and carries what its
argument carries. -/
theorem carries_ifNull (d : Dialect) {expression : String} (h : Carries expression 0) :
    Carries (d.ifNull expression "0") 0 := by
  have hcomma : Carries ", " 0 := by decide
  have hzero : Carries "0" 0 := by decide
  have hclose : Carries ")" 0 := by decide
  have hifnull : Carries "ifnull(" 0 := by decide
  have hcoalesce : Carries "coalesce(" 0 := by decide
  cases d with
  | mysql => exact (((hifnull.append h).append hcomma).append hzero).append hclose
  | sqlite => exact (((hcoalesce.append h).append hcomma).append hzero).append hclose
  | plain => exact (((hcoalesce.append h).append hcomma).append hzero).append hclose

theorem carries_random (d : Dialect) {seed : String} (h : Carries seed 0) :
    Carries (d.random seed) 0 := by
  cases d with
  | mysql => exact Carries.between (by decide : Carries "rand(" 0) h (by decide)
  | sqlite => exact (by decide : Carries "random()" 0)
  | plain => exact (by decide : Carries "RANDOM()" 0)

/-- A column position carries what it binds, in whatever dialect it is written later. -/
theorem WrittenColumn.carries {c : Column} (h : WrittenColumn .matched KeepsAligned c vs)
    (d : Dialect) : Carries (d.column c) (scalarCount vs) := by
  cases h with
  | name s => exact carries_column_name d s
  | raw hraw => exact hraw
  | sub hsub => exact hsub.carries.parenthesized
  | labelled d label hsub => exact carries_labelled hsub.carries (carries_quote d label)
  | @call d function column hfunction =>
    have hname : Carries (function ++ "(") 0 := by
      have hopen : Carries "(" 0 := by decide
      rcases hfunction with hraw | rfl
      · exact Carries.append hraw hopen
      · decide
    have hclose : Carries ")" 0 := by decide
    exact carries_ifNull d (hname.between (carries_quoteName d column) hclose)
  | countAll => exact (by decide : Carries "count(*)" 0)

/-- Columns without values carry nothing. -/
theorem carriesAll_writtenColumns {cs : List Column}
    (h : ∀ c ∈ cs, WrittenColumn .matched KeepsAligned c []) (d : Dialect) :
    CarriesAll (cs.map d.column) 0 := by
  refine carriesAll_zero fun t ht => ?_
  obtain ⟨c, hc, rfl⟩ := List.mem_map.mp ht
  exact (h c hc).carries d

/-- A source carries what it binds. -/
theorem WrittenSource.carries {s : Source} (h : WrittenSource .matched KeepsAligned s vs)
    (d : Dialect) : Carries (d.source s) (scalarCount vs) := by
  cases h with
  | table s => exact carries_source_table d s
  | raw hraw => exact hraw
  | labelled d label hsub => exact carries_labelled hsub.carries (carries_quoteName d label)

/-- An entry of an ordering carries what it binds. -/
theorem WrittenSortKey.carries {key : SortKey} (h : WrittenSortKey .matched KeepsAligned key vs)
    (d : Dialect) : Carries (d.sortKeyText key) (scalarCount vs) := by
  cases h with
  | column direction hc => exact carries_sortKey_column (hc.carries d) direction
  | raw hraw => exact hraw
  | random d hseed => exact carries_random d hseed

/-- An operand that the rules allow carries what it binds. -/
theorem carries_operand {o : Operand} (h : Rules.matched.AllowsOperand o) :
    Carries o.sql (scalarCount o.scalars) := by
  refine Operand.carries_sql ?_
  rintro sql rfl
  exact h

/-- A predicate carries what it binds, one case for each kind. The dialect that checked the
operator need not be the one that writes it. -/
theorem WrittenPredicate.carries {e d : Dialect} {predicate : Predicate}
    (h : WrittenPredicate .matched KeepsAligned e predicate vs) :
    Carries (predicateText d predicate) (scalarCount vs) := by
  cases h with
  | compare hc hknows ho =>
    rw [scalarCount_append]
    exact carries_compare (hc.carries d) (carries_of_knows hknows) (carries_operand ho)
  | compareColumns hfirst hknows hsecond =>
    exact carries_compareColumns (hfirst.carries d) (carries_of_knows hknows) (hsecond.carries d)
  | on first second hoperator =>
    exact carries_compareColumns (carries_column_name d first) hoperator
      (carries_column_name d second)
  | isNull negated hc => exact carries_isNull (hc.carries d)
  | raw hraw =>
    rw [predicateText]
    exact hraw
  | isIn negated hc hos =>
    exact carries_isIn (hc.carries d) (carriesAll_sql fun sql hsql => hos _ hsql)
  | isInSub negated hc hsub =>
    exact carries_isIn (hc.carries d) (CarriesAll.singleton hsub.carries)
  | between negated hc hlow hhigh =>
    rw [scalarCount_append]
    exact carries_between (hc.carries d) (carries_operand hlow) (carries_operand hhigh)
  | betweenColumns negated hc hlow hhigh =>
    exact carries_betweenColumns (hc.carries d) (hlow.carries d) (hhigh.carries d)
  | datePart part hc hknows ho =>
    exact carries_datePart (hc.carries d) (carries_of_knows hknows) (carries_operand ho)
  | @group c source nested hnested =>
    -- nothing is bound for the source that the group was built on, but its conditions are aligned
    have hstart := Query.alignedAt_onSource c source d (by decide : Clause.wheres ≠ .source)
    have haligned := (hnested (Query.plain_onSource c source)).2 d .wheres hstart
    exact carries_group haligned
  | compareQuery hc hknows hsub =>
    rw [scalarCount_append]
    exact carries_compareQuery (hc.carries d) (carries_of_knows hknows) (hsub.carries d)
  | «exists» negated hsub => exact carries_exists (hsub.carries d)

/-! ## Edits keep alignment -/

namespace Query

variable {q : Query}

/-- New columns come without values, and those of the columns before are dropped with them. -/
theorem inherits_select {cs : List Column}
    (hcs : ∀ c ∈ cs, WrittenColumn .matched KeepsAligned c []) : q.Inherits (q.select cs) := by
  refine inherits_of_replaced .columns rfl ?_ ?_
  · -- the clause itself: its bucket is empty, and so must its texts be
    intro d _
    show CarriesAll (cs.map d.column) ((q.bindings.clear .columns).count .columns)
    rw [Bindings.count_clear, if_pos rfl]
    exact carriesAll_writtenColumns hcs d
  · -- the other clauses keep their members and their values
    intro d c hc
    constructor
    · cases c <;> first | rfl | exact absurd rfl hc
    · show (q.bindings.clear .columns).count c = q.bindings.count c
      rw [Bindings.count_clear, if_neg hc]

/-- A column and its values are added to the same clause. -/
theorem inherits_column {c : Column} (hc : WrittenColumn .matched KeepsAligned c vs) :
    q.Inherits ((q.addSelect [c]).bind .columns vs) := by
  refine inherits_of_gain .columns (fun d => [d.column c]) rfl rfl ?_ ?_ ?_
  · intro d
    exact List.map_append
  · intro d e he
    cases e <;> first | rfl | exact absurd rfl he
  · intro d
    exact CarriesAll.singleton (hc.carries d)

/-- A source without values may give way to another. -/
theorem inherits_source {s : Source} (hs : WrittenSource .matched KeepsAligned s vs)
    (hreplacing : Rules.matched.AllowsReplacing q) :
    q.Inherits ((q.fromSource s).bind .source vs) := by
  have hnone : q.bindings.count .source = 0 := by
    rcases hreplacing with hapart | hempty
    · exact hapart.elim
    · exact congrArg List.length hempty
  refine inherits_of_replaced .source rfl ?_ ?_
  · intro d _
    show CarriesAll [d.source s] ((q.bindings.extend .source vs).count .source)
    rw [Bindings.count_extend, if_pos rfl, hnone, Nat.zero_add]
    exact CarriesAll.singleton (hs.carries d)
  · intro d c hc
    constructor
    · cases c <;> first | rfl | exact absurd rfl hc
    · show (q.bindings.extend .source vs).count c = q.bindings.count c
      rw [Bindings.count_extend, if_neg hc]

/-- A condition and its values are added to the same clause. -/
theorem inherits_condition (connector : Connector) {e : Dialect} {predicate : Predicate}
    (hpredicate : WrittenPredicate .matched KeepsAligned e predicate vs) :
    q.Inherits ((q.bind .wheres vs).addWhere connector predicate) := by
  refine inherits_of_gain .wheres (fun d => conditionTexts d [⟨connector, predicate⟩]) rfl rfl
    ?_ ?_ ?_
  · intro d
    exact conditionTexts_append d _ _
  · intro d c hc
    cases c <;> first | rfl | exact absurd rfl hc
  · intro d
    exact carriesAll_condition hpredicate.carries

/-- A condition on groups and its values are added to the same clause. -/
theorem inherits_having (connector : Connector) {e : Dialect} {predicate : Predicate}
    (hpredicate : WrittenPredicate .matched KeepsAligned e predicate vs) :
    q.Inherits ((q.bind .havings vs).addHaving connector predicate) := by
  refine inherits_of_gain .havings (fun d => conditionTexts d [⟨connector, predicate⟩]) rfl rfl
    ?_ ?_ ?_
  · intro d
    exact conditionTexts_append d _ _
  · intro d c hc
    cases c <;> first | rfl | exact absurd rfl hc
  · intro d
    exact carriesAll_condition hpredicate.carries

/-- A grouping and its values are added to the same clause. -/
theorem inherits_group {c : Column} (hc : WrittenColumn .matched KeepsAligned c vs) :
    q.Inherits ((q.groupBy [c]).bind .groups vs) := by
  refine inherits_of_gain .groups (fun d => [d.column c]) rfl rfl ?_ ?_ ?_
  · intro d
    exact List.map_append
  · intro d e he
    cases e <;> first | rfl | exact absurd rfl he
  · intro d
    exact CarriesAll.singleton (hc.carries d)

/-- The values of a query with conditions only are those of its conditions. -/
theorem OnlyConditions.scalarCount_values (h : q.OnlyConditions) :
    scalarCount q.values = q.bindings.count .wheres := by
  have hnone : ∀ c, c ≠ Clause.wheres → q.bindings.count c = 0 := by
    intro c hc
    unfold Bindings.count
    rw [h c hc, scalarCount_nil]
  rw [Query.scalarCount_values, length_values]
  simp [Clause.all, hnone]

/-- A join and all that its source and its conditions bind are added to the same clause. -/
theorem inherits_join {inner : Query} {c : Connection} {s : Source} (kind : JoinKind)
    (hs : WrittenSource .matched KeepsAligned s vs) (hinner : (on c).KeepsAligned inner)
    (honly : inner.OnlyConditions) : q.Inherits ((q.bind .joins vs).addJoin ⟨kind, s, inner⟩) := by
  -- the values of the source and those of the inner query are filed in two goes
  have hbindings : ((q.bind .joins vs).addJoin ⟨kind, s, inner⟩).bindings =
      q.bindings.extend .joins (vs ++ inner.values) :=
    congrArg Query.bindings (bind_bind q .joins vs inner.values)
  refine inherits_of_gain .joins (fun d => joinTexts d [⟨kind, s, inner.wheres, inner.joins⟩]) rfl
    hbindings ?_ ?_ ?_
  · intro d
    exact joinTexts_append d _ _
  · intro d e he
    cases e <;> first | rfl | exact absurd rfl he
  · intro d
    have haligned := (hinner.aligned d).alignedAt
    -- the values of the inner query are those of its conditions, though its joins come first
    have hjoins : CarriesAll (joinTexts d inner.joins) 0 := by
      have hnone : inner.bindings.count .joins = 0 := by
        unfold Bindings.count
        rw [honly .joins (by decide), scalarCount_nil]
      exact hnone ▸ haligned .joins
    rw [scalarCount_append, honly.scalarCount_values]
    exact carriesAll_join (hs.carries d) hjoins (haligned .wheres)

/-- An ordering is added where its values are filed: to the select, or to the union if there is
one. -/
theorem inherits_order {key : SortKey} (hkey : WrittenSortKey .matched KeepsAligned key vs) :
    q.Inherits ((q.addSortKey key).bind q.orderClause vs) := by
  have hts : ∀ d : Dialect, CarriesAll ([key].map d.sortKeyText) (scalarCount vs) :=
    fun d => CarriesAll.singleton (hkey.carries d)
  unfold addSortKey updateTail orderClause
  -- the key and its values go to the same of two places
  by_cases hunion : q.isUnion = true
  · rw [if_pos hunion, if_pos hunion]
    refine inherits_of_gain .unionOrders _ rfl rfl ?_ ?_ hts
    · intro d
      show (if q.isUnion then _ else _) = (if q.isUnion then _ else _) ++ _
      rw [if_pos hunion, if_pos hunion]
      exact List.map_append
    · intro d c hc
      cases c <;> first | rfl | exact absurd rfl hc
  · rw [if_neg hunion, if_neg hunion]
    refine inherits_of_gain .orders _ rfl rfl ?_ ?_ hts
    · intro d
      exact List.map_append
    · intro d c hc
      cases c <;> first | rfl | exact absurd rfl hc

/-- Sorting by a plain column binds nothing, so it may be left out. -/
theorem carriesAll_withoutTargets {d : Dialect} {column : String} {keys : List SortKey} {n : Nat}
    (h : CarriesAll (keys.map d.sortKeyText) n) :
    CarriesAll ((keys.filter fun key => !key.targets column).map d.sortKeyText) n := by
  -- the total is cut at the head of the list, whether the head stays or goes
  induction keys generalizing n with
  | nil => exact h
  | cons key keys ih =>
    obtain ⟨m, k, rfl, hm, hk⟩ := h.head
    by_cases htargets : key.targets column = true
    · have hm0 : m = 0 := by
        match key, htargets with
        | .column (.name s) direction, _ =>
          exact hm.count.symm.trans (carries_sortKey_column
            (carries_column_name d s) direction).count
      rw [List.filter_cons_of_neg (by simp [htargets]), hm0, Nat.zero_add]
      exact ih hk
    · rw [List.filter_cons_of_pos (by simp [htargets])]
      exact CarriesAll.cons hm (ih hk)

/-- Orderings by a named column bind nothing, so they go without their values being missed. -/
theorem inherits_withoutOrdersBy (column : String) : q.Inherits (q.withoutOrdersBy column) := by
  refine ⟨id, fun d c h => ?_⟩
  cases c with
  | orders => exact carriesAll_withoutTargets h
  | _ => exact h

/-- A window binds nothing. -/
theorem inherits_updateTail {f : Tail → Tail} (hf : ∀ tail, (f tail).orders = tail.orders) :
    q.Inherits (q.updateTail f) := by
  unfold updateTail
  split
  · refine inherits_of_kept rfl fun d c => .inl ⟨?_, rfl⟩
    cases c with
    | unionOrders =>
      show (if q.isUnion then (f q.unionTail).orders.map _ else []) = _
      rw [hf]
      rfl
    | _ => rfl
  · refine inherits_of_kept rfl fun d c => .inl ⟨?_, rfl⟩
    cases c with
    | orders =>
      show (f q.tail).orders.map _ = _
      rw [hf]
      rfl
    | _ => rfl

/-- The orderings and their values are dropped together, in both places. -/
theorem inherits_reorder : q.Inherits q.reorder := by
  refine inherits_of_kept rfl fun d c => ?_
  -- two clauses lose their texts and their values, the others keep both
  cases c with
  | orders => exact .inr ⟨rfl, rfl⟩
  | unionOrders => exact .inr ⟨ite_self [], rfl⟩
  | _ => exact .inl ⟨rfl, rfl⟩

/-- The word for distinct rows belongs to no clause. -/
theorem inherits_onlyDistinct : q.Inherits q.onlyDistinct := by
  refine inherits_of_kept rfl fun d c => .inl ?_
  cases c <;> exact ⟨rfl, rfl⟩

/-- Relations that are loaded later stand in no clause. -/
theorem inherits_loads (eagerLoads : List (String × Relation)) :
    q.Inherits { q with eagerLoads } := by
  refine inherits_of_kept rfl fun d c => .inl ?_
  cases c <;> exact ⟨rfl, rfl⟩

/-! ## Orderings of a union -/

/-- An ordering goes to the union only where there is one. -/
theorem keepsAligned_order {key : SortKey} (hkey : WrittenSortKey .matched KeepsAligned key vs) :
    q.KeepsAligned ((q.addSortKey key).bind q.orderClause vs) := by
  refine (inherits_order hkey).keepsAligned ?_
  unfold addSortKey updateTail
  split
  · next hunion =>
    intro _ hnone
    have hempty : q.unions = [] := hnone
    simp [isUnion, hempty] at hunion
  · exact id

/-- A window, on the select or on the union, leaves the orderings where they are. -/
theorem keepsAligned_updateTail {f : Tail → Tail} (hf : ∀ tail, (f tail).orders = tail.orders) :
    q.KeepsAligned (q.updateTail f) := by
  refine (inherits_updateTail hf).keepsAligned ?_
  unfold updateTail
  split
  · intro horders hnone
    exact (hf _).trans (horders hnone)
  · exact id

/-- The orderings of the union count from its first further query on; there are none before it. -/
theorem keepsAligned_union {sub : Query} {c : Connection} (all : Bool)
    (hsub : (on c).KeepsAligned sub) :
    q.KeepsAligned { q.bind .unions sub.values with unions := q.unions ++ [⟨all, sub⟩] } := by
  intro hq
  -- the members and values of the new query are filed together under the unions
  have hinherits : q.Inherits
      { q.bind .unions sub.values with unions := q.unions ++ [⟨all, sub⟩] } := by
    refine inherits_of_gain .unions (fun d => unionTexts d [⟨all, sub⟩]) rfl rfl ?_ ?_ ?_
    · intro d
      exact unionTexts_append d _ _
    · intro d e he
      cases e with
      | unionOrders =>
        -- with the first further query these orderings appear in the statement: there are none
        have hsome : (!(q.unions ++ [Union.mk all sub]).isEmpty) = true := by simp
        show (if !(q.unions ++ [Union.mk all sub]).isEmpty then _ else _) =
          if q.isUnion then _ else _
        rw [if_pos hsome]
        split
        · rfl
        · next hnone =>
          have hempty : q.unions = [] := by simpa [isUnion] using hnone
          show q.unionTail.orders.map d.sortKeyText = []
          rw [hq.unionOrders hempty, List.map_nil]
      | unions => exact absurd rfl he
      | _ => rfl
    · intro d
      exact carriesAll_union (hsub.carries d)
  exact ⟨⟨hq.aggregate, fun hnone => absurd hnone (by simp)⟩, hinherits.alignedAt⟩

end Query

/-- Alignment, clause by clause, is kept by every edit. -/
theorem editClosed_keepsAligned : EditClosed .matched KeepsAligned where
  refl := KeepsAligned.refl
  select hq hcs := hq.trans ((Query.inherits_select hcs).keepsAligned id)
  column hq hc := hq.trans ((Query.inherits_column hc).keepsAligned id)
  distinct hq := hq.trans (Query.inherits_onlyDistinct.keepsAligned id)
  source hq hs hreplacing := hq.trans ((Query.inherits_source hs hreplacing).keepsAligned id)
  join kind hq hs _ hinner honly :=
    hq.trans ((Query.inherits_join kind hs hinner honly).keepsAligned id)
  condition connector hq hpredicate :=
    hq.trans ((Query.inherits_condition connector hpredicate).keepsAligned id)
  group hq hc := hq.trans ((Query.inherits_group hc).keepsAligned id)
  having connector hq hpredicate :=
    hq.trans ((Query.inherits_having connector hpredicate).keepsAligned id)
  order hq hkey := hq.trans (Query.keepsAligned_order hkey)
  reorder hq := hq.trans (Query.inherits_reorder.keepsAligned fun _ _ => rfl)
  withoutOrdersBy column hq :=
    hq.trans ((Query.inherits_withoutOrdersBy column).keepsAligned id)
  limit _ hq := hq.trans (Query.keepsAligned_updateTail fun _ => rfl)
  offset _ hq := hq.trans (Query.keepsAligned_updateTail fun _ => rfl)
  union all hq hsub := hq.trans (Query.keepsAligned_union all hsub)
  loads eagerLoads hq := hq.trans ((Query.inherits_loads eagerLoads).keepsAligned id)
  -- parts and values do not part under these rules
  values _ hapart := hapart.elim
  drop _ hapart := hapart.elim
  -- nothing is left of the query before
  fresh _ _ :=
    ⟨Query.plain_onSource _ none, fun d c _ => Query.alignedAt_on _ d c⟩

/-! ## What a program builds -/

variable {connection : Connection} {steps : List Step} {q : Query}

/-- A program that keeps the rules loses no alignment. -/
theorem keepsAligned_of_runSteps (hallows : Rules.matched.AllowsSteps steps (.on connection))
    (hrun : runSteps steps (.on connection) = .ok q) : (Query.on connection).KeepsAligned q :=
  editClosed_keepsAligned.stepsKeep steps (KeepsAligned.refl _) hallows hrun

/-- Whatever a program builds that keeps the rules: in every dialect each clause has one placeholder
for each scalar filed under it, the statement has one for each value, and the clauses stand in it in
the order in which their values are flattened. -/
theorem placeholders_match_values (hallows : Rules.matched.AllowsSteps steps (.on connection))
    (hrun : runSteps steps (.on connection) = .ok q) :
    (∀ d c, ClosesQuotes (q.clauseText d c) ∧
      placeholders (q.clauseText d c) = ((q.bindings.get c).flatMap Value.leaves).length) ∧
      (ClosesQuotes q.sql ∧ placeholders q.sql = q.values.length) ∧
      InOrder (Clause.all.map (q.clauseText q.dialect)) q.sql := by
  have haligned := (keepsAligned_of_runSteps hallows hrun).aligned
  refine ⟨?_, ?_, ?_⟩
  · intro d c
    have hclause := (haligned d).carries_clause c
    exact ⟨hclause.closes, hclause.count⟩
  · have hsql : Carries q.sql q.values.length := (haligned q.dialect).carries
    exact ⟨hsql.closes, hsql.count⟩
  · exact Query.inOrder_textIn (.inl (haligned q.dialect).plain) q.dialect

/-- A source with a value, a join on a group, a union, its ordering, and sub-queries as text and as
trees: seven values, among them two that come as lists. -/
def nestedProgram : List Step :=
  [.sourceRaw "series(?) as \x60s\x60" [.text "a"],
    .joinWith (.table "t") .inner
      [.group .and [.compare .or "t.x" "=" (.operand (.value (.list [.text "b", .text "c"])))]],
    .group .and [.compare .and (.column (.name "odd\x60?")) none (.operand (.value (.text "d")))],
    .exists .or true (.closure [.whereRaw .and "x = ?" [.text "e"]]),
    .selectNested (.built (some .sqlite) [.whereRaw .and "y < ?" [.text "f"]]) "label?",
    .union true (.closure [.selectRaw "?" [.text "g"]]),
    .orderByRaw "field(x, ?)" [.list [.text "h"]]]

/-- Every raw text of the program has a placeholder for each value that it brings. -/
theorem allowsSteps_nestedProgram : Rules.matched.AllowsSteps nestedProgram (.on {}) := by
  have hseries : Carries "series(?) as \x60s\x60" 1 := by decide
  have hx : Carries "x = ?" 1 := by decide
  have hy : Carries "y < ?" 1 := by decide
  have hfield : Carries "field(x, ?)" 1 := by decide
  refine Rules.allowsSteps_cons ⟨hseries, .inr rfl⟩ rfl ?_
  refine Rules.allowsSteps_cons ⟨trivial, ⟨trivial, trivial⟩, trivial⟩ rfl ?_
  refine Rules.allowsSteps_cons (Rules.allowsSteps_cons ⟨trivial, trivial⟩ rfl trivial) rfl ?_
  refine Rules.allowsSteps_cons (Rules.allowsSteps_cons hx rfl trivial) rfl ?_
  refine Rules.allowsSteps_cons (Rules.allowsSteps_cons hy rfl trivial) rfl ?_
  refine Rules.allowsSteps_cons (Rules.allowsSteps_cons carries_mark rfl trivial) rfl ?_
  exact Rules.allowsSteps_cons hfield rfl trivial

/-- The program binds seven values, and its statement has seven placeholders. -/
theorem placeholders_match_values_nested :
    ∃ q, runSteps nestedProgram (.on {}) = .ok q ∧ q.values.length = 7 ∧
      placeholders q.sql = 7 := by
  obtain ⟨q, hq, hlength⟩ : ∃ q, runSteps nestedProgram (.on {}) = .ok q ∧ q.values.length = 7 :=
    ⟨_, rfl, rfl⟩
  have hmatch := placeholders_match_values allowsSteps_nestedProgram hq
  exact ⟨q, hq, hlength, hmatch.2.1.2.trans hlength⟩

end QueryBuilder
