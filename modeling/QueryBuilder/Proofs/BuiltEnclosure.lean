import QueryBuilder.Proofs.AlikeEdits
import QueryBuilder.Proofs.Enclosure
import QueryBuilder.Proofs.Runs

/-!
# Building keeps every text enclosed

Names may hold any character: quotation marks, parentheses, dots, question marks, keywords. What a
program builds from them closes what it opens, provided that the raw texts supplied do.

- `Rules.enclosing`: the rules under which this holds. Parts and values may part.
- `Query.Encloses d q`: every member of the clauses of `q`, written in `d`, is enclosed.
- `Query.KeepsEnclosed p q`: from a query of enclosed members to one, and likewise for the source,
  which stands apart because a group is built on a source that it does not write.
- `editClosed_keepsEnclosed`: the relation is closed under the edits.
- `statement_is_enclosed`: the statement of a query that a program builds, in its own dialect and in
  every other.
-/

namespace QueryBuilder

/-- Every raw text is enclosed. -/
def Rules.enclosing : Rules where
  raw sql _ := Enclosed sql
  apart := True

namespace Query

/-- Every member of the clauses is enclosed. -/
def Encloses (q : Query) (d : Dialect) : Prop :=
  q.Alike (Same Enclosed) d d q

/-- The source is enclosed, if there is one. -/
def SourceEnclosed (q : Query) (d : Dialect) : Prop :=
  ∀ s ∈ q.source, Enclosed (d.source s)

/-- From enclosed members to enclosed members, and from an enclosed source to one. -/
structure KeepsEnclosed (p q : Query) : Prop where
  members (d : Dialect) : p.Encloses d → q.Encloses d
  source (d : Dialect) : p.SourceEnclosed d → q.SourceEnclosed d

variable {p q q' : Query} {d : Dialect}

/-- A query that holds nothing but a source has no members. -/
theorem encloses_onSource (c : Connection) (source : Option Source) (d : Dialect) :
    Encloses { on c with source } d :=
  Alike.onSource _ d d c c source source

/-- The statement of a query with enclosed members and an enclosed source. -/
theorem Encloses.textIn (hq : q.Encloses d) (hsource : q.SourceEnclosed d) :
    Enclosed (q.textIn d) := by
  refine (compositional_enclosed.textIn hq ?_).2
  cases hs : q.source with
  | none => exact .none
  | some s => exact .some ⟨rfl, hsource s hs⟩

namespace KeepsEnclosed

theorem refl (q : Query) : q.KeepsEnclosed q :=
  ⟨fun _ h => h, fun _ h => h⟩

/-- An edit of the members. -/
theorem edit (hq : p.KeepsEnclosed q) (hsource : q'.source = q.source)
    (hmembers : ∀ d, q.Encloses d → q'.Encloses d) : p.KeepsEnclosed q' where
  members d h := hmembers d (hq.members d h)
  source d h := by
    unfold SourceEnclosed
    rw [hsource]
    exact hq.source d h

/-- What is built on a source, or on none, has enclosed members. -/
theorem encloses {c : Connection} {source : Option Source}
    (h : KeepsEnclosed { on c with source } q) (d : Dialect) : q.Encloses d :=
  h.members d (encloses_onSource c source d)

theorem encloses_of_on {c : Connection} (h : (on c).KeepsEnclosed q) (d : Dialect) : q.Encloses d :=
  h.members d (encloses_onSource c none d)

theorem textIn {c : Connection} (h : (on c).KeepsEnclosed q) (d : Dialect) :
    Enclosed (q.textIn d) :=
  (h.encloses_of_on d).textIn (h.source d (by simp [SourceEnclosed, on]))

end KeepsEnclosed

end Query

open Query (KeepsEnclosed)

/-! ## What is written is enclosed -/

variable {sql : String} {vs : List Value}

/-- A sub-query is enclosed, whether it was built or is a raw text. -/
theorem WrittenSub.enclosed (h : WrittenSub .enclosing KeepsEnclosed sql vs) : Enclosed sql := by
  cases h with
  | query hsub => exact hsub.textIn _
  | raw hraw => exact hraw

theorem enclosed_labelled (h : Enclosed sql) {label : String} (hlabel : Enclosed label) :
    Enclosed ("(" ++ sql ++ ") as " ++ label) :=
  (compositional_enclosed.labelled ⟨rfl, h⟩ ⟨rfl, hlabel⟩).2

theorem Enclosed.call (h : Enclosed sql) {function : String} (hfunction : Enclosed function) :
    Enclosed (function ++ "(" ++ sql ++ ")") :=
  (compositional_enclosed.call ⟨rfl, hfunction⟩ ⟨rfl, h⟩).2

/-- The function that reads null as zero has another name in each dialect. -/
theorem enclosed_ifNull (d : Dialect) {expression : String} (h : Enclosed expression) :
    Enclosed (d.ifNull expression "0") := by
  have harguments : Enclosed (expression ++ ", " ++ "0") :=
    (h.append (by decide)).append (by decide)
  have hifnull : Enclosed ("ifnull" ++ "(" ++ (expression ++ ", " ++ "0") ++ ")") :=
    harguments.call (by decide)
  have hcoalesce : Enclosed ("coalesce" ++ "(" ++ (expression ++ ", " ++ "0") ++ ")") :=
    harguments.call (by decide)
  simp only [← String.append_assoc] at hifnull hcoalesce
  cases d with
  | mysql => exact hifnull
  | sqlite => exact hcoalesce
  | plain => exact hcoalesce

/-- An ordering by chance is a call, its seed enclosed. -/
theorem enclosed_random (d : Dialect) {seed : String} (h : Enclosed seed) :
    Enclosed (d.random seed) := by
  have hrand : Enclosed ("rand" ++ "(" ++ seed ++ ")") := h.call (by decide)
  cases d with
  | mysql => exact hrand
  | sqlite => exact (by decide : Enclosed "random()")
  | plain => exact (by decide : Enclosed "RANDOM()")

/-- A column position, in whatever dialect it is written later. -/
theorem WrittenColumn.enclosed {c : Column} (h : WrittenColumn .enclosing KeepsEnclosed c vs)
    (d : Dialect) : Enclosed (d.column c) := by
  cases h with
  | name s => exact enclosed_quoteName d s
  | raw hraw => exact hraw
  | sub hsub => exact hsub.enclosed.parenthesized
  | labelled e label hsub => exact enclosed_labelled hsub.enclosed (enclosed_quote e label)
  -- the name of the function is raw, or the one that counts
  | @call e function column hfunction =>
    have hname : Enclosed function := by
      rcases hfunction with hraw | rfl
      · exact hraw
      · decide
    exact enclosed_ifNull e ((enclosed_quoteName e column).call hname)
  | countAll => exact (by decide : Enclosed "count(*)")

/-- Columns that are written are in relation to themselves. -/
theorem forall₂_writtenColumns {cs : List Column}
    (h : ∀ c ∈ cs, WrittenColumn .enclosing KeepsEnclosed c []) (d : Dialect) :
    List.Forall₂ (Same Enclosed) (cs.map d.column) (cs.map d.column) :=
  forall₂_map_same fun c hc => ⟨rfl, (h c hc).enclosed d⟩

/-- A single column, as a list in relation to itself. -/
theorem WrittenColumn.forall₂ {c : Column} (h : WrittenColumn .enclosing KeepsEnclosed c vs)
    (d : Dialect) : List.Forall₂ (Same Enclosed) ([c].map d.column) ([c].map d.column) :=
  .cons ⟨rfl, h.enclosed d⟩ .nil

/-- A source, its label quoted by the dialect that wrote it. -/
theorem WrittenSource.enclosed {s : Source} (h : WrittenSource .enclosing KeepsEnclosed s vs)
    (d : Dialect) : Enclosed (d.source s) := by
  cases h with
  | table s => exact enclosed_quoteName d s
  | raw hraw => exact hraw
  | labelled e label hsub => exact enclosed_labelled hsub.enclosed (enclosed_quoteName e label)

/-- An entry of an ordering. -/
theorem WrittenSortKey.enclosed {key : SortKey} (h : WrittenSortKey .enclosing KeepsEnclosed key vs)
    (d : Dialect) : Enclosed (d.sortKeyText key) := by
  cases h with
  | column direction hc =>
    exact (compositional_enclosed.sortKey_column ⟨rfl, hc.enclosed d⟩ direction).2
  | raw hraw => exact hraw
  | random e hseed => exact enclosed_random e hseed

/-- An operand is a placeholder or a raw text that the rules allow. -/
theorem enclosed_operand {o : Operand} (h : Rules.enclosing.AllowsOperand o) : Enclosed o.sql := by
  cases o with
  | value v => exact (by decide : Enclosed "?")
  | raw sql => exact h

/-- A predicate, one case for each kind. The operator is known and hence bare, except where a join
is made on it. -/
theorem WrittenPredicate.enclosed {e d : Dialect} {predicate : Predicate}
    (h : WrittenPredicate .enclosing KeepsEnclosed e predicate vs) :
    Same Enclosed (predicateText d predicate) (predicateText d predicate) := by
  have hR := compositional_enclosed
  cases h with
  | compare hc hknows ho =>
    exact hR.compare ⟨rfl, hc.enclosed d⟩ (hR.word (bare_of_knows hknows))
      ⟨rfl, enclosed_operand ho⟩
  | compareColumns hfirst hknows hsecond =>
    exact hR.compareColumns ⟨rfl, hfirst.enclosed d⟩ (hR.word (bare_of_knows hknows))
      ⟨rfl, hsecond.enclosed d⟩
  | on first second hoperator =>
    exact hR.compareColumns ⟨rfl, enclosed_quoteName d first⟩ ⟨rfl, hoperator⟩
      ⟨rfl, enclosed_quoteName d second⟩
  | isNull negated hc => exact hR.isNull negated ⟨rfl, hc.enclosed d⟩
  | raw hraw => exact Compositional.raw ⟨rfl, hraw⟩
  | @isIn negated c os hc hos =>
    have hall : List.Forall₂ (Same Enclosed) (os.map Operand.sql) (os.map Operand.sql) :=
      forall₂_map_same fun o ho => ⟨rfl, enclosed_operand (hos o ho)⟩
    exact hR.isIn negated ⟨rfl, hc.enclosed d⟩ hall
  | isInSub negated hc hsub =>
    exact hR.isIn negated ⟨rfl, hc.enclosed d⟩ (.cons ⟨rfl, hsub.enclosed⟩ .nil)
  | between negated hc hlow hhigh =>
    exact hR.between negated ⟨rfl, hc.enclosed d⟩ ⟨rfl, enclosed_operand hlow⟩
      ⟨rfl, enclosed_operand hhigh⟩
  | betweenColumns negated hc hlow hhigh =>
    exact hR.betweenColumns negated ⟨rfl, hc.enclosed d⟩ ⟨rfl, hlow.enclosed d⟩
      ⟨rfl, hhigh.enclosed d⟩
  | datePart part hc hknows ho =>
    exact hR.datePart part ⟨rfl, hc.enclosed d⟩ (hR.word (bare_of_knows hknows))
      ⟨rfl, enclosed_operand ho⟩
  | group source hnested => exact hR.group (hnested.encloses d).wheres
  | compareQuery hc hknows hsub =>
    exact hR.compareQuery ⟨rfl, hc.enclosed d⟩ (hR.word (bare_of_knows hknows)) ⟨rfl, hsub.textIn d⟩
  | «exists» negated hsub => exact hR.exists negated ⟨rfl, hsub.textIn d⟩

/-! ## Edits -/

namespace Query

variable {q : Query} {d : Dialect}

/-- Orderings and windows leave the source alone. -/
theorem source_updateTail (f : Tail → Tail) : (q.updateTail f).source = q.source := by
  unfold updateTail
  split <;> rfl

/-- What is left of an ordering is as enclosed as before. -/
theorem Encloses.withoutOrdersBy (hq : q.Encloses d) (column : String) :
    (q.withoutOrdersBy column).Encloses d := by
  have horders := hq.tail.orders
  rw [forall₂_same_iff, List.forall_mem_map] at horders
  have hkept : List.Forall₂ (Same Enclosed)
      ((q.tail.orders.filter fun key => !key.targets column).map d.sortKeyText)
      ((q.tail.orders.filter fun key => !key.targets column).map d.sortKeyText) :=
    forall₂_map_same fun key hkey => ⟨rfl, horders key (List.mem_of_mem_filter hkey)⟩
  exact { hq with tail := { hq.tail with orders := hkept } }

end Query

/-- Every edit keeps the members and the source enclosed. -/
theorem editClosed_keepsEnclosed : EditClosed .enclosing KeepsEnclosed where
  refl := KeepsEnclosed.refl
  select hq hcs := hq.edit rfl fun d h => h.select (forall₂_writtenColumns hcs d)
  column hq hc := hq.edit rfl fun d h => (h.addSelect (hc.forall₂ d)).bind _ _ _ _
  distinct hq := hq.edit rfl fun _ h => h.onlyDistinct
  source hq hs _ :=
    ⟨fun d h => ((hq.members d h).fromSource _ _).bind _ _ _ _,
      fun d _ _ heq => Option.some.inj heq ▸ hs.enclosed d⟩
  join kind hq hs _ hinner _ := hq.edit rfl fun d h =>
    (h.bind _ _ _ _).addJoin compositional_enclosed kind ⟨rfl, hs.enclosed d⟩
      (hinner.encloses_of_on d)
  condition connector hq hpredicate := hq.edit rfl fun _ h =>
    (h.bind _ _ _ _).addWhere compositional_enclosed connector hpredicate.enclosed
  group hq hc := hq.edit rfl fun d h => (h.groupBy (hc.forall₂ d)).bind _ _ _ _
  having connector hq hpredicate := hq.edit rfl fun _ h =>
    (h.bind _ _ _ _).addHaving compositional_enclosed connector hpredicate.enclosed
  order hq hkey := hq.edit (Query.source_updateTail _) fun d h =>
    (h.addSortKey ⟨rfl, hkey.enclosed d⟩).bind _ _ _ _
  reorder hq := hq.edit rfl fun _ h => h.reorder
  withoutOrdersBy column hq := hq.edit rfl fun _ h => h.withoutOrdersBy column
  limit count hq := hq.edit (Query.source_updateTail _) fun _ h => h.limit count
  offset count hq := hq.edit (Query.source_updateTail _) fun _ h => h.offset count
  union all hq hsub := hq.edit rfl fun d h =>
    (h.bind _ _ _ _).addUnion compositional_enclosed all ⟨rfl, hsub.textIn d⟩
  loads _ hq := hq.edit rfl fun _ h => { h with }
  values _ _ hq := hq.edit rfl fun _ h => { h with }
  drop part _ hq := by
    refine ⟨fun d h => (hq.members d h).drop part, fun d h => ?_⟩
    cases part with
    | source => simp [Query.SourceEnclosed, Query.drop]
    | _ => exact hq.source d h
  -- nothing is left of the query before
  fresh {p q} _ :=
    ⟨fun d _ => Query.encloses_onSource q.connection none d,
      fun d _ => by simp [Query.SourceEnclosed, Query.fresh, Query.on]⟩

/-! ## What a program builds -/

variable {connection : Connection} {steps : List Step} {q : Query}

/-- Whatever a program builds from names of any characters and from raw texts that are enclosed: a
scan of its statement ends outside of all identifiers and all parentheses, and closes none that it
did not open. So does a scan of the statement in any dialect. -/
theorem statement_is_enclosed (hallows : Rules.enclosing.AllowsSteps steps (.on connection))
    (hrun : runSteps steps (.on connection) = .ok q) :
    (ClosesQuotes q.sql ∧ depthAfter none 0 q.sql.toList = some 0) ∧
      ∀ d, ClosesQuotes (q.textIn d) ∧ depthAfter none 0 (q.textIn d).toList = some 0 := by
  have hkeeps : (Query.on connection).KeepsEnclosed q :=
    editClosed_keepsEnclosed.stepsKeep steps (KeepsEnclosed.refl _) hallows hrun
  have henclosed : ∀ d, ClosesQuotes (q.textIn d) ∧
      depthAfter none 0 (q.textIn d).toList = some 0 :=
    fun d => ⟨(hkeeps.textIn d).closes, (hkeeps.textIn d).balanced⟩
  exact ⟨henclosed q.dialect, henclosed⟩

/-- Names with quotation marks, parentheses, dots, keywords and question marks, at every kind of
place. -/
def hostileProgram : List Step :=
  [.source (.table "users\x60 (x\" as u\x60("),
    .select [.name "a\x60.b?) as \"c(", .raw "count(*) as \")\""],
    .joinWith (.table ")") .left [.on .and "t.)" "=" "(", .join (.table "\"") "x\x60" "<=>" "y"],
    .group .or
      [.compare .and (.column (.name ") or 1 = 1 -- ")) (some "=") (.operand (.value (.text "")))],
    .exists .and false (.closure [.sourceAs "p)" "q(", .whereRaw .and "f(\"(\", ?)" [.text "x"]]),
    .selectNested (.built (some .sqlite) [.source (.table "\"(")]) "label)",
    .union true (.closure [.source (.table "((")]),
    .orderBy (.name ")\x60(") .descending]

/-- The raw texts of the program are enclosed; of its names nothing has to be shown. -/
theorem allowsSteps_hostileProgram : Rules.enclosing.AllowsSteps hostileProgram (.on {}) := by
  have hcount : Enclosed "count(*) as \")\"" := by decide
  have hcall : Enclosed "f(\"(\", ?)" := by decide
  have hequals : Enclosed "=" := by decide
  have hspaceship : Enclosed "<=>" := by decide
  have hreplacing : ∀ q, Rules.enclosing.AllowsReplacing q := fun q => .inl trivial
  have hcolumns : ∀ c ∈ [Column.name "a\x60.b?) as \"c(", .raw "count(*) as \")\""],
      Rules.enclosing.AllowsColumn c := by
    rw [List.forall_mem_cons, List.forall_mem_singleton]
    exact ⟨trivial, hcount⟩
  refine Rules.allowsSteps_cons ⟨trivial, hreplacing _⟩ rfl ?_
  refine Rules.allowsSteps_cons hcolumns rfl ?_
  refine Rules.allowsSteps_cons ⟨trivial, hequals, ⟨trivial, hspaceship⟩, trivial⟩ rfl ?_
  refine Rules.allowsSteps_cons (Rules.allowsSteps_cons ⟨trivial, trivial⟩ rfl trivial) rfl ?_
  refine Rules.allowsSteps_cons
    (Rules.allowsSteps_cons (hreplacing _) rfl (Rules.allowsSteps_cons hcall rfl trivial)) rfl ?_
  refine Rules.allowsSteps_cons (Rules.allowsSteps_cons ⟨trivial, hreplacing _⟩ rfl trivial) rfl ?_
  refine Rules.allowsSteps_cons (Rules.allowsSteps_cons ⟨trivial, hreplacing _⟩ rfl trivial) rfl ?_
  exact Rules.allowsSteps_cons trivial rfl trivial

/-- The program has hostile names at every kind of place, and its statement is enclosed. -/
theorem statement_is_enclosed_hostile :
    ∃ q, runSteps hostileProgram (.on {}) = .ok q ∧ q.unions.length = 1 ∧ ClosesQuotes q.sql ∧
      depthAfter none 0 q.sql.toList = some 0 := by
  obtain ⟨q, hq, hunions⟩ : ∃ q, runSteps hostileProgram (.on {}) = .ok q ∧ q.unions.length = 1 :=
    ⟨_, rfl, rfl⟩
  have henclosed := statement_is_enclosed allowsSteps_hostileProgram hq
  exact ⟨q, hq, hunions, henclosed.1.1, henclosed.1.2⟩

end QueryBuilder
