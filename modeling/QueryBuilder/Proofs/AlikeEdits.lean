import QueryBuilder.Query.Join
import QueryBuilder.Proofs.Composition

/-!
# Edits of queries that are alike

Two queries whose members are in relation stay so when both gain members that are in relation, or
lose the same ones. With one query on both sides this is what an edit keeps of a single query.
-/

namespace QueryBuilder

/-- Lists that correspond item by item, with corresponding items behind them. -/
theorem forall₂_map_append {α β γ δ : Type} {R : γ → δ → Prop} {f : α → γ} {g : β → δ}
    {as as' : List α} {bs bs' : List β} (h : List.Forall₂ R (as.map f) (bs.map g))
    (h' : List.Forall₂ R (as'.map f) (bs'.map g)) :
    List.Forall₂ R ((as ++ as').map f) ((bs ++ bs').map g) := by
  rw [List.map_append, List.map_append]
  exact List.rel_append h h'

/-- Conditions that are in relation, with one more behind them. -/
theorem Compositional.oneMore {R : String → String → Prop} (h : Compositional R) {d d' : Dialect}
    {ws ws' : List Condition} (hws : List.Forall₂ R (conditionTexts d ws) (conditionTexts d' ws'))
    (connector : Connector) {p p' : Predicate} (hp : R (predicateText d p) (predicateText d' p')) :
    List.Forall₂ R (conditionTexts d (ws ++ [⟨connector, p⟩]))
      (conditionTexts d' (ws' ++ [⟨connector, p'⟩])) := by
  rw [conditionTexts_append, conditionTexts_append]
  exact List.rel_append hws (h.condition connector hp)

namespace Query.Alike

variable {R : String → String → Prop} {d d' : Dialect} {q q' : Query}

/-- Queries that hold nothing but a source. -/
theorem onSource (R : String → String → Prop) (d d' : Dialect) (c c' : Connection)
    (source source' : Option Source) :
    Alike R d d' { on c with source } { on c' with source := source' } where
  plain := ⟨rfl, rfl⟩
  distinct := rfl
  columns := .nil
  joins := .nil
  wheres := .nil
  groups := .nil
  havings := .nil
  tail := ⟨.nil, rfl, rfl⟩
  unions := .nil
  unionTail := ⟨.nil, rfl, rfl⟩

/-- Values do not show in a text. -/
theorem bind (hq : q.Alike R d d' q') (c c' : Clause) (vs vs' : List Value) :
    (q.bind c vs).Alike R d d' (q'.bind c' vs') :=
  { hq with }

/-- Sources are not compared: each query is read against its own. -/
theorem fromSource (hq : q.Alike R d d' q') (s s' : Source) :
    (q.fromSource s).Alike R d d' (q'.fromSource s') :=
  { hq with }

/-- Both become distinct. -/
theorem onlyDistinct (hq : q.Alike R d d' q') : q.onlyDistinct.Alike R d d' q'.onlyDistinct :=
  { hq with distinct := rfl }

theorem select (hq : q.Alike R d d' q') {cs cs' : List Column}
    (hcs : List.Forall₂ R (cs.map d.column) (cs'.map d'.column)) :
    (q.select cs).Alike R d d' (q'.select cs') :=
  { hq with columns := hcs }

theorem addSelect (hq : q.Alike R d d' q') {cs cs' : List Column}
    (hcs : List.Forall₂ R (cs.map d.column) (cs'.map d'.column)) :
    (q.addSelect cs).Alike R d d' (q'.addSelect cs') :=
  { hq with columns := forall₂_map_append hq.columns hcs }

theorem groupBy (hq : q.Alike R d d' q') {cs cs' : List Column}
    (hcs : List.Forall₂ R (cs.map d.column) (cs'.map d'.column)) :
    (q.groupBy cs).Alike R d d' (q'.groupBy cs') :=
  { hq with groups := forall₂_map_append hq.groups hcs }

/-- Conditions behind the same connector are added to both. -/
theorem addWhere (hq : q.Alike R d d' q') (h : Compositional R) (connector : Connector)
    {p p' : Predicate} (hp : R (predicateText d p) (predicateText d' p')) :
    (q.addWhere connector p).Alike R d d' (q'.addWhere connector p') :=
  { hq with wheres := h.oneMore hq.wheres connector hp }

/-- Conditions on groups behind the same connector are added to both. -/
theorem addHaving (hq : q.Alike R d d' q') (h : Compositional R) (connector : Connector)
    {p p' : Predicate} (hp : R (predicateText d p) (predicateText d' p')) :
    (q.addHaving connector p).Alike R d d' (q'.addHaving connector p') :=
  { hq with havings := h.oneMore hq.havings connector hp }

/-- The conditions and the joins of a finished join are those of its inner query. -/
theorem addJoin (hq : q.Alike R d d' q') (h : Compositional R) (kind : JoinKind) {s s' : Source}
    (hs : R (d.source s) (d'.source s')) {inner inner' : Query}
    (hinner : inner.Alike R d d' inner') :
    (q.addJoin ⟨kind, s, inner⟩).Alike R d d' (q'.addJoin ⟨kind, s', inner'⟩) := by
  have hjoins : List.Forall₂ R (joinTexts d (q.joins ++ [⟨kind, s, inner.wheres, inner.joins⟩]))
      (joinTexts d' (q'.joins ++ [⟨kind, s', inner'.wheres, inner'.joins⟩])) := by
    rw [joinTexts_append, joinTexts_append]
    exact List.rel_append hq.joins (h.joined kind hs hinner.wheres hinner.joins)
  exact { hq with joins := hjoins }

/-- Further queries whose texts are alike are added to both. -/
theorem addUnion (hq : q.Alike R d d' q') (h : Compositional R) (all : Bool) {sub sub' : Query}
    (hsub : R (sub.textIn d) (sub'.textIn d')) :
    Alike R d d' { q with unions := q.unions ++ [⟨all, sub⟩] }
      { q' with unions := q'.unions ++ [⟨all, sub'⟩] } := by
  refine { hq with unions := ?_ }
  rw [unionTexts_append, unionTexts_append]
  exact List.rel_append hq.unions (h.united all hsub)

theorem wheres_isEmpty (hq : q.Alike R d d' q') : q'.wheres.isEmpty = q.wheres.isEmpty := by
  simpa only [isEmpty_conditionTexts] using isEmpty_eq_of_forall₂ hq.wheres

theorem isUnion (hq : q.Alike R d d' q') : q'.isUnion = q.isUnion := by
  unfold Query.isUnion
  rw [Compositional.unionTexts_isEmpty hq]

/-- The tails of the unions change, or those of the selects. -/
theorem updateTail (hq : q.Alike R d d' q') {f f' : Tail → Tail}
    (hf : ∀ {t t' : Tail}, t.Alike R d d' t' → (f t).Alike R d d' (f' t')) :
    (q.updateTail f).Alike R d d' (q'.updateTail f') := by
  unfold Query.updateTail
  -- both queries are unions or neither is, so the same tails change
  rw [hq.isUnion]
  split
  · exact { hq with unionTail := hf hq.unionTail }
  · exact { hq with tail := hf hq.tail }

theorem limit (hq : q.Alike R d d' q') (count : Nat) :
    (q.limit count).Alike R d d' (q'.limit count) :=
  hq.updateTail fun ht => { ht with limit := rfl }

theorem offset (hq : q.Alike R d d' q') (count : Nat) :
    (q.offset count).Alike R d d' (q'.offset count) :=
  hq.updateTail fun ht => { ht with offset := rfl }

/-- Orderings that are alike are added to the same tails. -/
theorem addSortKey (hq : q.Alike R d d' q') {key key' : SortKey}
    (hkey : R (d.sortKeyText key) (d'.sortKeyText key')) :
    (q.addSortKey key).Alike R d d' (q'.addSortKey key') :=
  hq.updateTail fun ht =>
    { ht with orders := forall₂_map_append ht.orders (.cons hkey .nil) }

/-- Both lose the orderings of both tails. -/
theorem reorder (hq : q.Alike R d d' q') : q.reorder.Alike R d d' q'.reorder :=
  { hq with
    tail := { hq.tail with orders := .nil }
    unionTail := { hq.unionTail with orders := .nil } }

/-- Both lose the same part. -/
theorem drop (hq : q.Alike R d d' q') (part : Part) :
    (q.drop part).Alike R d d' (q'.drop part) := by
  cases part with
  | aggregate => exact { hq with plain := ⟨rfl, rfl⟩ }
  | columns => exact { hq with columns := .nil }
  | source => exact { hq with }
  | joins => exact { hq with joins := .nil }
  | wheres => exact { hq with wheres := .nil }
  | groups => exact { hq with groups := .nil }
  | havings => exact { hq with havings := .nil }
  | orders => exact { hq with tail := { hq.tail with orders := .nil } }
  | limit => exact { hq with tail := { hq.tail with limit := rfl } }
  | offset => exact { hq with tail := { hq.tail with offset := rfl } }
  | unions => exact { hq with unions := .nil }
  | unionOrders => exact { hq with unionTail := { hq.unionTail with orders := .nil } }
  | unionLimit => exact { hq with unionTail := { hq.unionTail with limit := rfl } }
  | unionOffset => exact { hq with unionTail := { hq.unionTail with offset := rfl } }
  | eagerLoads => exact { hq with }

end Query.Alike

end QueryBuilder
