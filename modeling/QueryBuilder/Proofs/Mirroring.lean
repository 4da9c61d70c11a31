import QueryBuilder.Proofs.AlikeEdits
import QueryBuilder.Proofs.Edits
import QueryBuilder.Proofs.Respelling

/-!
# A query and its mirror image

Two queries of the same make, one on a connection that quotes with back-ticks and one on a
connection that quotes with double quotes. The second is the mirror image of the first if it binds
the same values and has the same members in the other spelling.

- `EndsAlike P x x'`: both computations succeed, with results in relation, or both fail for the same
  cause.
- `Column.Mirrors`, `Source.Mirrors`, `SortKey.Mirrors`: what stands at a place of a statement.
- `Query.Mirrors c q q'`: two queries on the connections that `c` stands for. A source and an
  ordering are looked at by later steps, so of these more is asked than that their texts are
  respelled.
- `Query.Mirrors.sql`: the statements are respelled. The other lemmas of this namespace say that an
  edit on both sides keeps the relation.
-/

namespace QueryBuilder

/-! ## Failing alike -/

/-- A refusal without what it shows of the argument: a query would be shown with its statement. -/
def Misuse.cause : Misuse → Misuse
  | notAColumn _ => notAColumn ""
  | rowPartNotText part _ => rowPartNotText part ""
  | rowNotGroup _ => rowNotGroup ""
  | why => why

/-- An error without what it shows of an argument. -/
def Error.cause : Error → Error
  | misuse why => misuse why.cause
  | why => why

/-- Both computations succeed, with results in relation, or both fail for the same cause. -/
inductive EndsAlike {α β : Type} (P : α → β → Prop) : Except Error α → Except Error β → Prop
  | ok {a : α} {b : β} : P a b → EndsAlike P (.ok a) (.ok b)
  | error {why why' : Error} : why'.cause = why.cause → EndsAlike P (.error why) (.error why')

namespace EndsAlike

variable {α β γ δ : Type} {P : α → β → Prop} {Q : γ → δ → Prop}

/-- Computations in two steps end alike if the first steps do, and the second steps on whatever
the first ones come to. -/
theorem bind {x : Except Error α} {x' : Except Error β} {f : α → Except Error γ}
    {f' : β → Except Error δ} (hx : EndsAlike P x x')
    (hf : ∀ a b, P a b → EndsAlike Q (f a) (f' b)) : EndsAlike Q (x >>= f) (x' >>= f') := by
  cases hx with
  | ok hab => exact hf _ _ hab
  | error hcause => exact .error hcause

theorem same (x : Except Error α) : EndsAlike (fun a a' => a' = a ∧ x = .ok a) x x := by
  cases x with
  | ok a => exact .ok ⟨rfl, rfl⟩
  | error why => exact .error rfl

/-- Refusals that differ in what they show of the argument. -/
theorem shown {refusal : String → Misuse} (hcause : ∀ s, (refusal s).cause = refusal "")
    (s s' : String) :
    EndsAlike P (.error (.misuse (refusal s))) (.error (.misuse (refusal s'))) := by
  refine .error ?_
  rw [Error.cause, Error.cause, hcause s, hcause s']

/-- Two folds whose steps end alike. -/
theorem foldlM {R : α → β → Prop} {f : γ → α → Except Error γ} {f' : δ → β → Except Error δ}
    (hstep : ∀ c d a b, Q c d → R a b → EndsAlike Q (f c a) (f' d b)) {as : List α} {bs : List β}
    (hlist : List.Forall₂ R as bs) {c : γ} {d : δ} (hstart : Q c d) :
    EndsAlike Q (as.foldlM f c) (bs.foldlM f' d) := by
  -- the accumulators grow with the lists, so they are free in the induction
  induction hlist generalizing c d with
  | nil => exact .ok hstart
  | cons hab _ ih =>
    rw [List.foldlM_cons, List.foldlM_cons]
    exact (hstep _ _ _ _ hstart hab).bind fun _ _ hnext => ih hnext

end EndsAlike

/-! ## Terms -/

/-- Columns of the same kind, the one respelled. -/
inductive Column.Mirrors : Column → Column → Prop
  | name {s t : String} : Respelled s t → Mirrors (.name s) (.name t)
  | raw {s t : String} : Respelled s t → Mirrors (.raw s) (.raw t)

/-- Sources of the same kind, the one respelled. -/
inductive Source.Mirrors : Source → Source → Prop
  | table {s t : String} : Respelled s t → Mirrors (.table s) (.table t)
  | raw {s t : String} : Respelled s t → Mirrors (.raw s) (.raw t)

/-- Entries of an ordering of the same kind, the one respelled. -/
inductive SortKey.Mirrors : SortKey → SortKey → Prop
  | column {c c' : Column} (direction : Direction) :
    c.Mirrors c' → Mirrors (.column c direction) (.column c' direction)
  | raw {s t : String} : Respelled s t → Mirrors (.raw s) (.raw t)

/-- A column without quotation marks of its own. -/
def Column.Unmarked (c : Column) : Prop :=
  QueryBuilder.Unmarked c.text

instance (c : Column) : Decidable c.Unmarked :=
  inferInstanceAs (Decidable (QueryBuilder.Unmarked c.text))

/-- A source without quotation marks of its own. -/
def Source.Unmarked (s : Source) : Prop :=
  QueryBuilder.Unmarked s.text

/-- A value, or a raw text without quotation marks. -/
def Operand.Unmarked : Operand → Prop
  | value _ => True
  | raw sql => QueryBuilder.Unmarked sql

namespace Column

variable {c c' : Column}

theorem unmarked_name {s : String} (h : QueryBuilder.Unmarked s) : (name s).Unmarked := h

/-- A column without quotation marks is its own mirror image. -/
theorem Unmarked.mirrors (h : c.Unmarked) : c.Mirrors c := by
  cases c with
  | name s => exact .name (.of_unmarked h)
  | raw sql => exact .raw (.of_unmarked h)

/-- A column and its mirror image are written alike but for the marks: a name is quoted by each
dialect, a raw text is respelled already. -/
theorem Mirrors.text (h : c.Mirrors c') :
    Respelled (Dialect.mysql.column c) (Dialect.sqlite.column c') := by
  cases h with
  | name h => exact respelled_quoteName h
  | raw h => exact h

end Column

namespace Source

variable {s s' : Source}

/-- A source without quotation marks is its own mirror image. -/
theorem Unmarked.mirrors (h : s.Unmarked) : s.Mirrors s := by
  cases s with
  | table s => exact .table (.of_unmarked h)
  | raw sql => exact .raw (.of_unmarked h)

/-- A source and its mirror image are written alike but for the marks. -/
theorem Mirrors.text (h : s.Mirrors s') :
    Respelled (Dialect.mysql.source s) (Dialect.sqlite.source s') := by
  cases h with
  | table h => exact respelled_quoteName h
  | raw h => exact h

/-- The name by which columns of a source are qualified is read back out of the source, and is
respelled as it is. -/
theorem Mirrors.qualifier (h : s.Mirrors s') : Respelled s.qualifier s'.qualifier := by
  refine respelled_qualifier ?_
  cases h with
  | table h => exact h
  | raw h => exact h

end Source

namespace SortKey

variable {k k' : SortKey}

/-- An entry of an ordering and its mirror image are written alike but for the marks. -/
theorem Mirrors.text (h : k.Mirrors k') :
    Respelled (Dialect.mysql.sortKeyText k) (Dialect.sqlite.sortKeyText k') := by
  cases h with
  | column direction hc => exact compositional_respelled.sortKey_column hc.text direction
  | raw h => exact h

/-- Both entries sort by a column without quotation marks, or neither does. -/
theorem Mirrors.targets (h : k.Mirrors k') {column : String} (hcolumn : Unmarked column) :
    k'.targets column = k.targets column := by
  cases h with
  | raw h => rfl
  | column direction hc => cases hc with
    | raw h => rfl
    | name h =>
      -- a name that is respelled from a name without marks is that name
      rw [Bool.eq_iff_iff]
      simp only [SortKey.targets, beq_iff_eq]
      exact h.eq_iff_of_unmarked hcolumn

end SortKey

/-- An operand is written alike in both dialects: a placeholder, or a raw text without marks. -/
theorem Operand.Unmarked.sql {o : Operand} (h : o.Unmarked) : Respelled o.sql o.sql := by
  cases o with
  | value v =>
    have hmark : QueryBuilder.Unmarked "?" := by decide
    exact .of_unmarked hmark
  | raw sql => exact .of_unmarked h

/-- Operands without marks are written alike, one by one. -/
theorem respelled_operands {os : List Operand} (h : ∀ o ∈ os, o.Unmarked) :
    List.Forall₂ Respelled (os.map Operand.sql) (os.map Operand.sql) :=
  forall₂_map_same fun o ho => (h o ho).sql

/-- Columns without marks are respelled, one by one. -/
theorem respelled_columns {cs : List Column} (h : ∀ c ∈ cs, c.Unmarked) :
    List.Forall₂ Respelled (cs.map Dialect.mysql.column) (cs.map Dialect.sqlite.column) :=
  forall₂_map_same fun c hc => (h c hc).mirrors.text

theorem respelled_rawColumn {s t : String} (h : Respelled s t) :
    List.Forall₂ Respelled ([Column.raw s].map Dialect.mysql.column)
      ([Column.raw t].map Dialect.sqlite.column) :=
  .cons h .nil

/-! ## Queries -/

/-- The second query is the first on a connection of the other dialect: the same values, and the
members of all clauses respelled. -/
structure Query.Mirrors (c : Connection) (q q' : Query) : Prop where
  connection : q.connection = { c with dialect := .mysql }
  connection' : q'.connection = { c with dialect := .sqlite }
  source : Option.Rel Source.Mirrors q.source q'.source
  orders : List.Forall₂ SortKey.Mirrors q.tail.orders q'.tail.orders
  members : q.Alike Respelled .mysql .sqlite q'
  bindings : q'.bindings = q.bindings

namespace Query.Mirrors

variable {c : Connection} {q q' : Query}

theorem dialect (hq : q.Mirrors c q') : q.dialect = .mysql := by
  rw [Query.dialect, hq.connection]

theorem dialect' (hq : q.Mirrors c q') : q'.dialect = .sqlite := by
  rw [Query.dialect, hq.connection']

theorem config (hq : q.Mirrors c q') : q.connection.config = c.config := by
  rw [hq.connection]

theorem config' (hq : q.Mirrors c q') : q'.connection.config = c.config := by
  rw [hq.connection']

theorem values (hq : q.Mirrors c q') : q'.values = q.values := by
  rw [Query.values, Query.values, hq.bindings]

/-- The statements, each in the dialect of its query. -/
theorem sql (hq : q.Mirrors c q') : Respelled q.sql q'.sql := by
  have hsource : Option.Rel Respelled (q.source.map Dialect.mysql.source)
      (q'.source.map Dialect.sqlite.source) := by
    match q.source, q'.source, hq.source with
    | _, _, .none => exact .none
    | _, _, .some hs => exact .some hs.text
  rw [Query.sql, Query.sql, hq.dialect, hq.dialect']
  exact compositional_respelled.textIn hq.members hsource

theorem textIn (hq : q.Mirrors c q') : Respelled (q.textIn .mysql) (q'.textIn .sqlite) := by
  have hsql := hq.sql
  rwa [Query.sql, Query.sql, hq.dialect, hq.dialect'] at hsql

/-- The name by which columns are qualified is respelled; without a source it is empty. -/
theorem qualifier (hq : q.Mirrors c q') : Respelled q.qualifier q'.qualifier := by
  unfold Query.qualifier
  match q.source, q'.source, hq.source with
  | _, _, .none => exact .of_unmarked (by decide)
  | _, _, .some hs => exact hs.qualifier

/-! ### Empty queries -/

/-- Queries that hold nothing but a source. -/
theorem onSource (c : Connection) {source source' : Option Source}
    (hsource : Option.Rel Source.Mirrors source source') :
    Mirrors c { on { c with dialect := .mysql } with source }
      { on { c with dialect := .sqlite } with source := source' } where
  connection := rfl
  connection' := rfl
  source := hsource
  orders := .nil
  members := Alike.onSource _ _ _ _ _ _ _
  bindings := rfl

theorem empty (c : Connection) :
    Mirrors c (.on { c with dialect := .mysql }) (.on { c with dialect := .sqlite }) :=
  onSource c .none

/-- The queries that closures are handed. -/
theorem fresh (hq : q.Mirrors c q') : q.fresh.Mirrors c q'.fresh := by
  rw [Query.fresh, Query.fresh, hq.connection, hq.connection']
  exact empty c

/-- The queries that groups are built on. -/
theorem freshOnSource (hq : q.Mirrors c q') : q.freshOnSource.Mirrors c q'.freshOnSource := by
  rw [Query.freshOnSource, Query.freshOnSource, Query.fresh, Query.fresh, hq.connection,
    hq.connection']
  exact onSource c hq.source

/-! ### Clauses -/

/-- The same values are filed under the same clause. -/
theorem bind (hq : q.Mirrors c q') (clause : Clause) (vs : List Value) :
    (q.bind clause vs).Mirrors c (q'.bind clause vs) :=
  { hq with
    members := hq.members.bind clause clause vs vs
    bindings := congrArg (fun b => b.extend clause vs) hq.bindings }

/-- Any change of the values, on both sides. -/
theorem updateBindings (hq : q.Mirrors c q') (f : Bindings → Bindings) :
    Mirrors c { q with bindings := f q.bindings } { q' with bindings := f q'.bindings } :=
  { hq with
    members := { hq.members with }
    bindings := congrArg f hq.bindings }

/-- The values of mirror images are the same, and so are the values merged with them. -/
theorem mergeBindings (hq : q.Mirrors c q') {other other' : Query}
    (hother : other.Mirrors c other') :
    (q.mergeBindings other).Mirrors c (q'.mergeBindings other') := by
  unfold Query.mergeBindings
  rw [hother.bindings]
  exact hq.updateBindings fun b => b.merge other.bindings

/-- Respelled columns replace the columns of both, and the values filed for these are dropped. -/
theorem select (hq : q.Mirrors c q') {cs cs' : List Column}
    (hcs : List.Forall₂ Respelled (cs.map Dialect.mysql.column) (cs'.map Dialect.sqlite.column)) :
    (q.select cs).Mirrors c (q'.select cs') :=
  { hq with
    members := hq.members.select hcs
    bindings := congrArg (fun b => b.clear .columns) hq.bindings }

theorem addSelect (hq : q.Mirrors c q') {cs cs' : List Column}
    (hcs : List.Forall₂ Respelled (cs.map Dialect.mysql.column) (cs'.map Dialect.sqlite.column)) :
    (q.addSelect cs).Mirrors c (q'.addSelect cs') :=
  { hq with members := hq.members.addSelect hcs }

theorem selectRaw (hq : q.Mirrors c q') {s t : String} (h : Respelled s t) (vs : List Value) :
    (q.selectRaw s vs).Mirrors c (q'.selectRaw t vs) :=
  (hq.addSelect (respelled_rawColumn h)).bind .columns vs

theorem onlyDistinct (hq : q.Mirrors c q') : q.onlyDistinct.Mirrors c q'.onlyDistinct :=
  { hq with members := hq.members.onlyDistinct }

/-- The sources of both are replaced by mirror images. -/
theorem fromSource (hq : q.Mirrors c q') {s s' : Source} (hs : s.Mirrors s') :
    (q.fromSource s).Mirrors c (q'.fromSource s') :=
  { hq with
    source := .some hs
    members := hq.members.fromSource s s' }

theorem fromRaw (hq : q.Mirrors c q') {s t : String} (h : Respelled s t) (vs : List Value) :
    (q.fromRaw s vs).Mirrors c (q'.fromRaw t vs) :=
  (hq.fromSource (.raw h)).bind .source vs

theorem groupBy (hq : q.Mirrors c q') {cs cs' : List Column}
    (hcs : List.Forall₂ Respelled (cs.map Dialect.mysql.column) (cs'.map Dialect.sqlite.column)) :
    (q.groupBy cs).Mirrors c (q'.groupBy cs') :=
  { hq with members := hq.members.groupBy hcs }

theorem groupByRaw (hq : q.Mirrors c q') {s t : String} (h : Respelled s t) (vs : List Value) :
    (q.groupByRaw s vs).Mirrors c (q'.groupByRaw t vs) :=
  (hq.groupBy (respelled_rawColumn h)).bind .groups vs

/-- One more condition with its values. -/
theorem condition (hq : q.Mirrors c q') (connector : Connector) (vs : List Value) {p p' : Predicate}
    (hp : Respelled (predicateText .mysql p) (predicateText .sqlite p')) :
    ((q.bind .wheres vs).addWhere connector p).Mirrors c
      ((q'.bind .wheres vs).addWhere connector p') :=
  { hq.bind .wheres vs with
    members := (hq.bind .wheres vs).members.addWhere compositional_respelled connector hp }

/-- One more condition without values. -/
theorem addWhere (hq : q.Mirrors c q') (connector : Connector) {p p' : Predicate}
    (hp : Respelled (predicateText .mysql p) (predicateText .sqlite p')) :
    (q.addWhere connector p).Mirrors c (q'.addWhere connector p') := by
  have hcondition := hq.condition connector [] hp
  rwa [bind_nil, bind_nil] at hcondition

/-- One more condition on groups with its values. -/
theorem havingCondition (hq : q.Mirrors c q') (connector : Connector) (vs : List Value)
    {p p' : Predicate} (hp : Respelled (predicateText .mysql p) (predicateText .sqlite p')) :
    ((q.bind .havings vs).addHaving connector p).Mirrors c
      ((q'.bind .havings vs).addHaving connector p') :=
  { hq.bind .havings vs with
    members := (hq.bind .havings vs).members.addHaving compositional_respelled connector hp }

/-- A further query and its mirror image bind the same values. -/
theorem union (hq : q.Mirrors c q') (all : Bool) {sub sub' : Query} (hsub : sub.Mirrors c sub') :
    Mirrors c
      { q.bind .unions sub.values with
        unions := (q.bind .unions sub.values).unions ++ [⟨all, sub⟩] }
      { q'.bind .unions sub'.values with
        unions := (q'.bind .unions sub'.values).unions ++ [⟨all, sub'⟩] } := by
  rw [hsub.values]
  have hbound := hq.bind .unions sub.values
  exact { hbound with members := hbound.members.addUnion compositional_respelled all hsub.textIn }

/-! ### Orderings and windows -/

/-- An ordering goes to the union on both sides or on neither. -/
theorem orderClause (hq : q.Mirrors c q') : q'.orderClause = q.orderClause := by
  unfold Query.orderClause
  rw [hq.members.isUnion]

/-- Only the tail of the select itself is looked at by later steps. -/
theorem updateTail (hq : q.Mirrors c q') {f f' : Tail → Tail}
    (horders : ∀ {t t' : Tail}, List.Forall₂ SortKey.Mirrors t.orders t'.orders →
      List.Forall₂ SortKey.Mirrors (f t).orders (f' t').orders)
    (hmembers : (q.updateTail f).Alike Respelled .mysql .sqlite (q'.updateTail f')) :
    (q.updateTail f).Mirrors c (q'.updateTail f') := by
  unfold Query.updateTail at hmembers ⊢
  rw [hq.members.isUnion] at hmembers ⊢
  -- the tail of a union is not looked at again, that of the select itself is
  by_cases hunion : q.isUnion
  · rw [if_pos hunion, if_pos hunion] at hmembers ⊢
    exact { hq with members := hmembers }
  · rw [if_neg hunion, if_neg hunion] at hmembers ⊢
    exact { hq with orders := horders hq.orders, members := hmembers }

theorem limit (hq : q.Mirrors c q') (count : Nat) : (q.limit count).Mirrors c (q'.limit count) :=
  hq.updateTail (fun h => h) (hq.members.limit count)

theorem offset (hq : q.Mirrors c q') (count : Nat) : (q.offset count).Mirrors c (q'.offset count) :=
  hq.updateTail (fun h => h) (hq.members.offset count)

/-- An entry and its mirror image are added to the orderings of both. -/
theorem addSortKey (hq : q.Mirrors c q') {k k' : SortKey} (hk : k.Mirrors k') :
    (q.addSortKey k).Mirrors c (q'.addSortKey k') :=
  hq.updateTail (fun h => List.rel_append h (.cons hk .nil)) (hq.members.addSortKey hk.text)

theorem orderBy (hq : q.Mirrors c q') {column column' : Column} (hcolumn : column.Mirrors column')
    (direction : Direction) :
    (q.orderBy column direction).Mirrors c (q'.orderBy column' direction) :=
  hq.addSortKey (.column direction hcolumn)

/-- The column that is sorted by comes from the configuration, which both connections share. -/
theorem newestFirst (hq : q.Mirrors c q') {column : Option String}
    (hcolumn : Unmarked (column.getD c.config.createdColumn)) :
    (q.newestFirst column).Mirrors c (q'.newestFirst column) := by
  rw [Query.newestFirst, Query.newestFirst, hq.config, hq.config']
  exact hq.orderBy (.name (.of_unmarked hcolumn)) .descending

theorem oldestFirst (hq : q.Mirrors c q') {column : Option String}
    (hcolumn : Unmarked (column.getD c.config.createdColumn)) :
    (q.oldestFirst column).Mirrors c (q'.oldestFirst column) := by
  rw [Query.oldestFirst, Query.oldestFirst, hq.config, hq.config']
  exact hq.orderBy (.name (.of_unmarked hcolumn)) .ascending

/-- A raw ordering with its values, filed under the same clause. -/
theorem orderByRaw (hq : q.Mirrors c q') {s t : String} (h : Respelled s t) (vs : List Value) :
    (q.orderByRaw s vs).Mirrors c (q'.orderByRaw t vs) := by
  unfold Query.orderByRaw
  rw [hq.orderClause]
  exact (hq.addSortKey (.raw h)).bind q.orderClause vs

/-- Both lose their orderings and the values filed for them. -/
theorem reorder (hq : q.Mirrors c q') : q.reorder.Mirrors c q'.reorder :=
  { hq with
    orders := .nil
    members := hq.members.reorder
    bindings := congrArg (fun b => (b.clear .orders).clear .unionOrders) hq.bindings }

/-- The same entries are dropped on both sides. -/
theorem withoutOrdersBy (hq : q.Mirrors c q') {column : String} (hcolumn : Unmarked column) :
    (q.withoutOrdersBy column).Mirrors c (q'.withoutOrdersBy column) := by
  have hkept : List.Forall₂ SortKey.Mirrors
      (q.tail.orders.filter fun key => !key.targets column)
      (q'.tail.orders.filter fun key => !key.targets column) := by
    refine List.rel_filter ?_ hq.orders
    intro k k' hk
    show (!k.targets column) = true ↔ (!k'.targets column) = true
    rw [hk.targets hcolumn]
  have htexts : List.Forall₂ Respelled
      ((q.tail.orders.filter fun key => !key.targets column).map Dialect.mysql.sortKeyText)
      ((q'.tail.orders.filter fun key => !key.targets column).map Dialect.sqlite.sortKeyText) :=
    List.rel_map (fun _ _ hk => hk.text) hkept
  exact { hq with
    orders := hkept
    members := { hq.members with tail := { hq.members.tail with orders := htexts } } }

/-- Relations are loaded later, and no statement mentions them. -/
theorem withLoads (hq : q.Mirrors c q') (loads loads' : List (String × Relation)) :
    Mirrors c { q with eagerLoads := loads } { q' with eagerLoads := loads' } :=
  { hq with members := { hq.members with } }

/-- Both lose the same part; its values stay where they are. -/
theorem drop (hq : q.Mirrors c q') (part : Part) : (q.drop part).Mirrors c (q'.drop part) := by
  have hmembers := hq.members.drop part
  cases part with
  | source => exact { hq with source := .none, members := hmembers }
  | orders => exact { hq with orders := .nil, members := hmembers }
  | _ => exact { hq with members := hmembers }

/-- Both lose the same parts, one after the other. -/
theorem without (hq : q.Mirrors c q') (parts : List Part) :
    (q.without parts).Mirrors c (q'.without parts) := by
  unfold Query.without
  -- both queries change with every part
  induction parts generalizing q q' with
  | nil => exact hq
  | cons part parts ih => exact ih (hq.drop part)

end Query.Mirrors

end QueryBuilder
