import Mathlib.Algebra.Order.BigOperators.Group.List
import Mathlib.Algebra.Order.Group.Nat
import QueryBuilder.Proofs.DerivedStatements
import QueryBuilder.Proofs.Sessions

/-!
# Aggregates over unions

An aggregate over a union selects from the union as a derived table. The table is not quite the
union: its first select is given the aggregated columns if it names none, and without groups it
loses its orderings, also where a window makes them matter.

- `Query.aggregated`: the query whose text the derived table is.
- `columns_append_ne`, `Query.selectText_filter_iff`: selects with other columns, or with fewer
  entries in their ordering, have other texts.
- `Query.aggregated_sql_iff`: when the derived table is the union itself.
- `union_aggregate_sent`: what is sent.
-/

namespace QueryBuilder

/-! ## Texts that differ -/

/-- The length of a joined text: that of each piece with a separator, less the one that is missing
at the end. -/
theorem length_join (separator : String) (ts : List String) :
    (Text.join separator ts).length =
      (ts.map fun t => t.length + separator.length).sum - separator.length := by
  induction ts with
  | nil => simp [Text.join]
  | cons t ts ih =>
    cases ts with
    | nil => simp
    | cons u us =>
      rw [Text.join_cons_cons, String.length_append, String.length_append, ih]
      simp only [List.map_cons, List.sum_cons]
      omega

/-- A longer fragment makes a longer text. -/
theorem length_concatenate_lt {short long : String} (h : short.length < long.length)
    (front back : List String) :
    (concatenate (front ++ short :: back)).length <
      (concatenate (front ++ long :: back)).length := by
  have hlong : (long :: back).filter (· ≠ "") = long :: back.filter (· ≠ "") := by
    refine List.filter_cons_of_pos (decide_eq_true ?_)
    rintro rfl
    exact absurd h (Nat.not_lt_zero _)
  have hword : (" " : String).length = 1 := rfl
  -- an empty fragment is left out together with its space
  by_cases hempty : short = ""
  · have hshort : (short :: back).filter (· ≠ "") = back.filter (· ≠ "") :=
      List.filter_cons_of_neg (by simpa using hempty)
    simp only [concatenate, length_join, List.filter_append, hlong, hshort, hword, List.map_append,
      List.sum_append, List.map_cons, List.sum_cons]
    omega
  · have hshort : (short :: back).filter (· ≠ "") = short :: back.filter (· ≠ "") :=
      List.filter_cons_of_pos (decide_eq_true hempty)
    simp only [concatenate, length_join, List.filter_append, hlong, hshort, hword, List.map_append,
      List.sum_append, List.map_cons, List.sum_cons]
    omega

/-- An ordering of which an entry is dropped has a shorter text. -/
theorem Dialect.length_ordersText_lt (d : Dialect) {orders : List SortKey} {keep : SortKey → Bool}
    {key : SortKey} (hmem : key ∈ orders) (hdropped : keep key = false) :
    (d.ordersText (orders.filter keep)).length < (d.ordersText orders).length := by
  obtain ⟨front, back, rfl⟩ := List.append_of_mem hmem
  have hkept : (front ++ key :: back).filter keep = front.filter keep ++ back.filter keep := by
    rw [List.filter_append, List.filter_cons_of_neg (by simpa using hdropped)]
  -- dropping entries makes no text longer
  have hsum : ∀ keys : List SortKey,
      (((keys.filter keep).map d.sortKeyText).map fun t => t.length + 2).sum ≤
        ((keys.map d.sortKeyText).map fun t => t.length + 2).sum := fun keys =>
    ((List.filter_sublist.map _).map _).sum_le_sum fun _ _ => Nat.zero_le _
  have hfront := hsum front
  have hback := hsum back
  have hcomma : (", " : String).length = 2 := rfl
  have hlong : d.ordersText (front ++ key :: back) =
      "order by " ++ Text.join ", " ((front ++ key :: back).map d.sortKeyText) := if_neg (by simp)
  have hword : ("order by " : String).length = 9 := rfl
  rw [hkept, hlong, String.length_append, hword]
  -- if no entry is left, the words in front of them go too
  cases hkeys : front.filter keep ++ back.filter keep with
  | nil =>
    have hnone : (d.ordersText []).length = 0 := rfl
    omega
  | cons first rest =>
    have hshort : d.ordersText (first :: rest) =
        "order by " ++ Text.join ", " ((first :: rest).map d.sortKeyText) := if_neg (by simp)
    rw [hshort, String.length_append, hword, ← hkeys]
    have hpos : 0 < (((front.filter keep ++ back.filter keep).map d.sortKeyText).map
        fun t => t.length + 2).sum := by
      rw [hkeys, List.map_cons, List.map_cons, List.sum_cons]
      omega
    simp only [length_join, hcomma, List.map_append, List.map_cons, List.sum_append, List.sum_cons]
      at hpos ⊢
    omega

/-- Fragments of which none starts with a character do not start with it together. -/
theorem head?_concatenate_ne {c : Char} {ts : List String} (h : ∀ t ∈ ts, t.toList.head? ≠ some c) :
    (concatenate ts).toList.head? ≠ some c := by
  induction ts with
  | nil => simp [concatenate]
  | cons t ts ih =>
    rw [List.forall_mem_cons] at h
    rw [concatenate_cons, String.toList_append, String.toList_append, List.append_assoc,
      List.head?_append]
    -- an empty fragment leaves the first character to those behind it
    cases hhead : t.toList.head? with
    | some a =>
      rw [Option.some_or]
      exact hhead ▸ h.1
    | none =>
      have hempty : t = "" := String.toList_eq_nil_iff.mp (List.head?_eq_none_iff.mp hhead)
      have hgap : gap t ts = "" := if_pos (.inl hempty)
      rw [hgap]
      exact ih h.2

/-- What is not blank stays in front. -/
theorem head?_trim {s : String} {c : Char} (hs : s.toList.head? = some c)
    (hc : Text.isBlank c = false) : (Text.trim s).toList.head? = some c := by
  -- `c` is no blank, so it stands neither in the blanks in front nor in those behind
  obtain ⟨front, back, hsplit, hfront, hback⟩ := exists_blanks_around s
  have hnone : ∀ cs : List Char, (∀ b ∈ cs, Text.isBlank b = true) → c ∉ cs := by
    intro cs hcs hmem
    rw [hcs c hmem] at hc
    cases hc
  rw [hsplit, List.append_assoc, List.head?_append, List.head?_append] at hs
  have hmem : ∀ {cs : List Char}, (∀ b ∈ cs, Text.isBlank b = true) → cs.head? ≠ some c :=
    fun hcs hhead => hnone _ hcs (List.mem_of_mem_head? hhead)
  cases hf : front.head? with
  | some a =>
    rw [hf, Option.some_or] at hs
    exact absurd (hf.trans hs) (hmem hfront)
  | none =>
    rw [hf, Option.none_or] at hs
    cases ht : (Text.trim s).toList.head? with
    | some a =>
      rw [ht, Option.some_or] at hs
      exact hs
    | none =>
      rw [ht, Option.none_or] at hs
      exact absurd hs (hmem hback)

/-! ## The columns of a select -/

/-- A text without the mark is its only piece. -/
theorem eq_of_pieces_eq_singleton {mark : Char} {cs piece : List Char}
    (h : Text.pieces mark cs = [piece]) : cs = piece := by
  induction cs generalizing piece with
  | nil => exact (List.cons.inj h).1
  | cons c cs ih =>
    rw [Text.pieces] at h
    -- at a mark there would be two pieces
    split at h
    · exact absurd (List.cons.inj h).2 (Text.pieces_ne_nil mark cs)
    · cases hcs : Text.pieces mark cs with
      | nil => exact absurd hcs (Text.pieces_ne_nil mark cs)
      | cons first rest =>
        rw [hcs] at h
        obtain ⟨rfl, rfl⟩ := List.cons.inj h
        rw [ih hcs]

/-- A dotted name other than the star starts with a quotation mark, or with a star and a dot. -/
theorem quoteDotted_cases (d : Dialect) (cs : List Char) :
    cs = ['*'] ∨ ∃ rest, (d.quoteDotted cs).toList = d.quoteMark :: rest ∨
      (d.quoteDotted cs).toList = '*' :: '.' :: rest := by
  unfold Dialect.quoteDotted
  cases hcs : Text.pieces '.' cs with
  | nil => exact absurd hcs (Text.pieces_ne_nil '.' cs)
  | cons piece pieces =>
    -- a star alone is written without marks, any other piece within them
    by_cases hstar : piece = ['*']
    · subst hstar
      cases pieces with
      | nil => exact .inl (eq_of_pieces_eq_singleton hcs)
      | cons next pieces =>
        refine .inr ⟨(Text.join "." ((next :: pieces).map fun part =>
          String.ofList (d.quoteChars part))).toList, .inr ?_⟩
        simp [Dialect.quoteChars]
    · refine .inr ?_
      have hquoted : d.quoteChars piece =
          d.quoteMark :: (doubleMark d.quoteMark piece ++ [d.quoteMark]) := if_neg hstar
      cases pieces with
      | nil => exact ⟨_,
        .inl (by rw [List.map_singleton, Text.join_singleton, String.toList_ofList, hquoted])⟩
      | cons next pieces =>
        rw [List.map_cons, List.map_cons, Text.join_cons_cons, hquoted, String.append_assoc,
          String.toList_append, String.toList_ofList, List.cons_append]
        exact ⟨_, .inl rfl⟩

/-- A name other than the star starts with a quotation mark, or with a star that something
follows. -/
theorem quoteName_cases (d : Dialect) (s : String) :
    s = "*" ∨ ∃ rest, (d.quoteName s).toList = d.quoteMark :: rest ∨
      (d.quoteName s).toList = '*' :: '.' :: rest ∨
      (d.quoteName s).toList = '*' :: ' ' :: 'a' :: rest := by
  unfold Dialect.quoteName
  split
  · rcases quoteDotted_cases d s.toList with hstar | ⟨rest, hmark | hdot⟩
    · exact .inl (String.toList_inj.mp hstar)
    · exact .inr ⟨rest, .inl hmark⟩
    · exact .inr ⟨rest, .inr (.inl hdot)⟩
  · -- with an alias, a star is followed by the word for it
    next name label _ =>
    refine .inr ?_
    unfold Dialect.quoteWithAlias
    rw [String.append_assoc, String.toList_append]
    rcases quoteDotted_cases d name with rfl | ⟨rest, hmark | hdot⟩
    · have hstar : (d.quoteDotted ['*']).toList = ['*'] := by cases d <;> rfl
      rw [hstar, String.toList_append]
      exact ⟨_, .inr (.inr rfl)⟩
    · rw [hmark]
      exact ⟨_, .inl rfl⟩
    · rw [hdot]
      exact ⟨_, .inr (.inl rfl)⟩

/-- Columns other than the star alone start with a quotation mark, or with a star that something
other than a clause follows. -/
theorem columns_cases (d : Dialect) (name : String) (names : List String) :
    name :: names = ["*"] ∨ ∃ rest,
      (d.columns ((name :: names).map Column.name)).toList = d.quoteMark :: rest ∨
      (d.columns ((name :: names).map Column.name)).toList = '*' :: '.' :: rest ∨
      (d.columns ((name :: names).map Column.name)).toList = '*' :: ',' :: rest ∨
      (d.columns ((name :: names).map Column.name)).toList = '*' :: ' ' :: 'a' :: rest := by
  obtain ⟨more, hcolumns, hmore⟩ : ∃ more,
      (d.columns ((name :: names).map Column.name)).toList = (d.quoteName name).toList ++ more ∧
        (names = [] ∨ ∃ rest, more = ',' :: rest) := by
    cases names with
    | nil => exact ⟨[], by simp [Dialect.columns, Dialect.column], .inl rfl⟩
    | cons next names =>
      refine ⟨", ".toList ++ (d.columns ((next :: names).map Column.name)).toList, ?_,
        .inr ⟨_, rfl⟩⟩
      simp [Dialect.columns, Dialect.column]
  rw [hcolumns]
  rcases quoteName_cases d name with rfl | ⟨rest, hname | hname | hname⟩
  · rcases hmore with rfl | ⟨rest, rfl⟩
    · exact .inl rfl
    · have hstar : (d.quoteName "*").toList = ['*'] := by cases d <;> rfl
      exact .inr ⟨rest, .inr (.inr (.inl (by rw [hstar, List.singleton_append])))⟩
  · exact .inr ⟨rest ++ more, .inl (by rw [hname, List.cons_append])⟩
  · exact .inr ⟨rest ++ more, .inr (.inl (by rw [hname, List.cons_append, List.cons_append]))⟩
  · refine .inr ⟨rest ++ more, .inr (.inr (.inr ?_))⟩
    rw [hname, List.cons_append, List.cons_append, List.cons_append]

/-- What may follow the columns of a select: nothing, or a space and a clause. -/
def FollowsColumns (s : String) : Prop :=
  s = "" ∨ ∃ clauses, s = " " ++ clauses ∧ clauses.toList.head? ≠ some 'a'

/-- Columns other than the star alone are not the star, whatever clauses follow. -/
theorem columns_append_ne {d : Dialect} {columns : List String} (hsome : columns ≠ [])
    (hstar : columns ≠ ["*"]) (front : String) {back : String} (hback : FollowsColumns back) :
    d.columns (columns.map Column.name) ++ front ≠ "*" ++ back := by
  obtain ⟨name, names, rfl⟩ := List.exists_cons_of_ne_nil hsome
  intro heq
  have hlists : (d.columns ((name :: names).map Column.name)).toList ++ front.toList =
      '*' :: back.toList := by
    have hlists := congrArg String.toList heq
    rwa [String.toList_append, String.toList_append] at hlists
  obtain ⟨rest, hcolumns⟩ := (columns_cases d name names).resolve_left hstar
  -- behind the star there is nothing, or a space and another letter than that of an alias
  have hafter : back.toList = [] ∨ ∃ cs, back.toList = ' ' :: cs ∧ cs.head? ≠ some 'a' := by
    rcases hback with rfl | ⟨clauses, rfl, hclauses⟩
    · exact .inl rfl
    · exact .inr ⟨clauses.toList, by rw [String.toList_append]; rfl, hclauses⟩
  rcases hcolumns with hshape | hshape | hshape | hshape
  · rw [hshape] at hlists
    have hmark : d.quoteMark = '*' := (List.cons.inj hlists).1
    cases d <;> exact absurd hmark (by decide)
  all_goals
    rw [hshape] at hlists
    have htail := (List.cons.inj hlists).2
    rcases hafter with hnone | ⟨cs, hspace, hhead⟩
    · rw [hnone] at htail
      cases htail
    · rw [hspace] at htail
      first
        | exact absurd (List.cons.inj htail).1 (by decide)
        | exact hhead ((List.cons.inj htail).2 ▸ rfl)

/-! ## The clauses of a select -/

/-- Joins start with a word for their kind, and no such word starts with `a`. -/
theorem head?_joinsText_ne (d : Dialect) (joins : List Join) :
    (joinsText d joins).toList.head? ≠ some 'a' := by
  cases joins with
  | nil => simp [joinsText, joinTexts]
  | cons j joins =>
    obtain ⟨kind, source, conditions, inner⟩ := j
    -- the text of a join starts with the word for its kind
    obtain ⟨c, hkind, hblank, hne⟩ : ∃ c, kind.sql.toList.head? = some c ∧
        Text.isBlank c = false ∧ c ≠ 'a' := by
      cases kind <;> exact ⟨_, rfl, by decide, by decide⟩
    have hfront : ∀ rest : String, (kind.sql ++ rest).toList.head? = some c := by
      intro rest
      rw [String.toList_append, List.head?_append, hkind, Option.some_or]
    obtain ⟨first, rest, hjoins, hfirst⟩ : ∃ first rest,
        joinTexts d (⟨kind, source, conditions, inner⟩ :: joins) = first :: rest ∧
          first.toList.head? = some c := by
      refine ⟨_, _, by rw [joinTexts], head?_trim ?_ hblank⟩
      rw [String.append_assoc, String.append_assoc, String.append_assoc]
      exact hfront _
    have hhead : (joinsText d (⟨kind, source, conditions, inner⟩ :: joins)).toList.head? =
        some c := by
      unfold joinsText
      rw [hjoins]
      cases rest with
      | nil => exact hfirst
      | cons next rest =>
        rw [Text.join_cons_cons, String.append_assoc, String.toList_append,
          List.head?_append, hfirst, Option.some_or]
    rw [hhead]
    exact fun heq => hne (Option.some.inj heq)

/-- A clause behind a keyword starts as the keyword does. -/
theorem head?_keyword_ne {word : String} {c : Char} (h : (word ++ " ").toList.head? = some c)
    (hc : c ≠ 'a') (text : String) : (keyword word text).toList.head? ≠ some 'a' := by
  unfold keyword
  split
  · simp
  · rw [String.toList_append, List.head?_append, h, Option.some_or]
    exact fun heq => hc (Option.some.inj heq)

namespace Query

/-- The select of a query, with columns and a tail in the place of its own. -/
def selectText (q : Query) (columns : List Column) (tail : Tail) : String :=
  concatenate (q.dialect.columnsText q.distinct columns :: q.clausesBehind tail)

/-- No clause starts like an alias. -/
theorem head?_clausesBehind_ne (q : Query) (tail : Tail) :
    ∀ t ∈ q.clausesBehind tail, t.toList.head? ≠ some 'a' := by
  have hsource : (q.dialect.sourceText q.source).toList.head? ≠ some 'a' := by
    cases q.source <;> simp [Dialect.sourceText]
  have hgroups : (q.dialect.groupsText q.groups).toList.head? ≠ some 'a' := by
    unfold Dialect.groupsText
    split <;> simp
  have horders : (q.dialect.ordersText tail.orders).toList.head? ≠ some 'a' := by
    unfold Dialect.ordersText
    split <;> simp
  have hlimit : (Dialect.limitText tail.limit).toList.head? ≠ some 'a' := by
    cases tail.limit <;> simp [Dialect.limitText]
  have hoffset : (Dialect.offsetText tail.offset).toList.head? ≠ some 'a' := by
    cases tail.offset <;> simp [Dialect.offsetText]
  simp only [clausesBehind, List.forall_mem_cons]
  exact ⟨hsource, head?_joinsText_ne _ _, head?_keyword_ne rfl (by decide) _, hgroups,
    head?_keyword_ne rfl (by decide) _, horders, hlimit, hoffset, by simp⟩

/-- The columns of a select, and what follows them. -/
theorem selectText_eq (q : Query) (columns : List Column) (tail : Tail) : ∃ back,
    FollowsColumns back ∧
      q.selectText columns tail = q.dialect.columnsText q.distinct columns ++ back := by
  refine ⟨gap (q.dialect.columnsText q.distinct columns) (q.clausesBehind tail) ++
    concatenate (q.clausesBehind tail), ?_, ?_⟩
  · unfold gap
    split
    · next hnone =>
      have hselection : q.dialect.columnsText q.distinct columns ≠ "" := by
        intro hempty
        have hlist := congrArg String.toList hempty
        unfold Dialect.columnsText at hlist
        split at hlist <;> simp at hlist
      refine .inl ?_
      rw [concatenate, hnone.resolve_left hselection]
      rfl
    · exact .inr ⟨_, rfl, head?_concatenate_ne (q.head?_clausesBehind_ne tail)⟩
  · rw [selectText, concatenate_cons, String.append_assoc]

/-! ## The derived table -/

/-- What an aggregate over a union selects from: the union, with the aggregated columns in a first
select that names none, and without the orderings of the first select unless it is grouped. -/
def aggregated (q : Query) (columns : List String) : Query :=
  { q with
    columns := if q.columns.isEmpty then columns.map Column.name else q.columns
    tail := if q.groups.isEmpty then { q.tail with orders := [] } else q.tail
    bindings := if q.groups.isEmpty then q.bindings.clear .orders else q.bindings
    eagerLoads := [] }

variable {q : Query}

/-- An aggregate over a union keeps the union but for its first select. -/
theorem aggregateQuery_eq (hunion : q.isUnion = true) (function : String) (columns : List String) :
    q.aggregateQuery function columns =
      { q.aggregated columns with aggregate := some ⟨function, columns.map Column.name⟩ } := by
  unfold aggregateQuery aggregated
  rw [if_pos hunion, computing_eq]
  cases hcolumns : q.columns.isEmpty <;> cases hgroups : q.groups.isEmpty <;>
    simp [without, drop, withoutOrders, hcolumns, hgroups]

/-- The statement of a union. -/
theorem sql_union (hunion : q.isUnion = true) (hplain : q.aggregate = none) :
    q.sql = "(" ++ q.selectText q.columns q.tail ++ ")" ++ " " ++
      q.dialect.unionsText (unionTexts q.dialect q.unions) q.unionTail := by
  have hnonempty : ¬ q.unions.isEmpty = true := by simpa [isUnion] using hunion
  rw [sql, textIn_eq_body (.inl hplain), body_eq, if_neg hnonempty, hplain]
  rfl

/-- The columns that an aggregate fills in are those of the union already. -/
theorem columnsText_aggregated {columns : List String}
    (h : q.columns ≠ [] ∨ columns = [] ∨ columns = ["*"]) :
    q.dialect.columnsText q.distinct (q.aggregated columns).columns =
      q.dialect.columnsText q.distinct q.columns := by
  show q.dialect.columnsText q.distinct (if q.columns.isEmpty then _ else _) = _
  split
  · next hempty =>
    rw [List.isEmpty_iff] at hempty
    rcases h with h | rfl | rfl
    · exact absurd hempty h
    · rw [hempty]
      rfl
    · rw [hempty]
      rfl
  · rfl

/-- The selects of two unions that are alike but for their first select. -/
theorem selectText_inj {columns : List String} (hunion : q.isUnion = true)
    (hplain : q.aggregate = none) (h : (q.aggregated columns).sql = q.sql) :
    q.selectText (q.aggregated columns).columns (q.aggregated columns).tail =
      q.selectText q.columns q.tail := by
  have haggregated : (q.aggregated columns).sql =
      "(" ++ q.selectText (q.aggregated columns).columns (q.aggregated columns).tail ++ ")" ++
        " " ++ q.dialect.unionsText (unionTexts q.dialect q.unions) q.unionTail :=
    sql_union (q := q.aggregated columns) hunion hplain
  rw [haggregated, sql_union hunion hplain] at h
  simpa only [String.append_left_inj, String.append_right_inj] using h

/-- Columns that are filled in change the select, unless they are the star that stands there
anyway. -/
theorem columns_of_selectText_eq {columns : List String} {tail : Tail}
    (h : q.selectText (q.aggregated columns).columns tail = q.selectText q.columns q.tail) :
    q.columns ≠ [] ∨ columns = [] ∨ columns = ["*"] := by
  refine Classical.byContradiction fun hchanged => ?_
  simp only [not_or, not_not, ne_eq] at hchanged
  obtain ⟨hnone, hsome, hstar⟩ := hchanged
  -- the columns are filled in where the star would stand
  obtain ⟨back, _, htext⟩ := q.selectText_eq (q.aggregated columns).columns tail
  obtain ⟨back', hback', htext'⟩ := q.selectText_eq q.columns q.tail
  have hcolumns : (q.aggregated columns).columns = columns.map Column.name :=
    if_pos (by rw [hnone]; rfl)
  have hfilled : (columns.map Column.name).isEmpty = false := by simpa using hsome
  have hdefault : q.dialect.columns [Column.star] = "*" := by cases q.dialect <;> rfl
  rw [htext, htext', hcolumns, hnone, Dialect.columnsText, Dialect.columnsText, hfilled,
    if_neg Bool.false_ne_true, if_pos List.isEmpty_nil, hdefault, String.append_assoc,
    String.append_assoc] at h
  exact columns_append_ne hsome hstar back hback' ((String.append_right_inj _).mp h)

/-- Entries of an ordering that are dropped are missed. -/
theorem selectText_filter_iff (q : Query) (columns : List Column) (tail : Tail)
    (keep : SortKey → Bool) :
    q.selectText columns { tail with orders := tail.orders.filter keep } =
      q.selectText columns tail ↔ ∀ key ∈ tail.orders, keep key = true := by
  constructor
  · intro h key hmem
    refine Classical.byContradiction fun hdropped => ?_
    -- a text that lost an entry is shorter, hence another one
    have hless := length_concatenate_lt
      (q.dialect.length_ordersText_lt hmem (by simpa using hdropped))
      [q.dialect.columnsText q.distinct columns, q.dialect.sourceText q.source,
        joinsText q.dialect q.joins, keyword "where" (conditionsText q.dialect q.wheres),
        q.dialect.groupsText q.groups,
        keyword "having" (conditionsText q.dialect q.havings)]
      [Dialect.limitText tail.limit, Dialect.offsetText tail.offset]
    exact absurd (congrArg String.length h) (Nat.ne_of_lt hless)
  · intro hkept
    rw [List.filter_eq_self.mpr hkept]

/-- An ordering that is dropped without a trace was none. -/
theorem orders_of_selectText_eq {columns : List Column}
    (h : q.selectText columns { q.tail with orders := [] } = q.selectText columns q.tail) :
    q.tail.orders = [] := by
  have hnone : q.tail.orders.filter (fun _ => false) = [] := List.filter_false _
  rw [← hnone] at h
  have hkept := (q.selectText_filter_iff columns q.tail _).mp h
  exact List.eq_nil_iff_forall_not_mem.mpr fun key hmem => Bool.false_ne_true (hkept key hmem)

/-- The derived table is the union itself exactly if no column is filled in that changes the first
select, and no ordering of it is dropped. -/
theorem aggregated_sql_iff (hunion : q.isUnion = true) (hplain : q.aggregate = none)
    (columns : List String) :
    (q.aggregated columns).sql = q.sql ↔
      (q.columns ≠ [] ∨ columns = [] ∨ columns = ["*"]) ∧ (q.groups ≠ [] ∨ q.tail.orders = []) := by
  constructor
  · intro hsql
    -- behind the first select the two texts are the same
    have hselect := selectText_inj hunion hplain hsql
    have hcolumns := columns_of_selectText_eq hselect
    refine ⟨hcolumns, ?_⟩
    by_cases hgroups : q.groups = []
    · have htail : (q.aggregated columns).tail = { q.tail with orders := [] } :=
        if_pos (by rw [hgroups]; rfl)
      rw [selectText, columnsText_aggregated hcolumns, htail] at hselect
      exact .inr (orders_of_selectText_eq hselect)
    · exact .inl hgroups
  · rintro ⟨hcolumns, horders⟩
    have htail : (q.aggregated columns).tail = q.tail := by
      show (if q.groups.isEmpty then { q.tail with orders := [] } else q.tail) = q.tail
      split
      · next hempty =>
        have hnone := horders.resolve_left (by simpa using hempty)
        rw [← hnone]
      · rfl
    rw [sql_union hunion hplain, sql_union (q := q.aggregated columns) hunion hplain]
    show "(" ++ q.selectText (q.aggregated columns).columns (q.aggregated columns).tail ++
      ")" ++ _ ++ _ = _
    rw [htail, selectText, columnsText_aggregated hcolumns]
    rfl

end Query

/-- An aggregate over a union, with an executor. One select is sent: the aggregate, from a derived
table that is the union but for what it fills into the columns of the first select and drops of its
orderings. So the aggregate is one over the union as it stands exactly if nothing is filled in that
changes the first select and nothing is dropped. -/
theorem union_aggregate_sent {q : Query} (hunion : q.isUnion = true) (hplain : q.aggregate = none)
    (hattached : q.connection.attached = true) (function : String) (columns : List String)
    (s : Session) :
    (q.compute function columns s).2 =
      s.sending
        (q.dialect.aggregateText q.distinct ⟨function, columns.map Column.name⟩ ++ " from (" ++
          (q.aggregated columns).sql ++ ") as " ++ q.dialect.quoteName "temp_table")
        (q.aggregated columns).values ∧
      ((q.aggregated columns).sql = q.sql ↔
        (q.columns ≠ [] ∨ columns = [] ∨ columns = ["*"]) ∧
          (q.groups ≠ [] ∨ q.tail.orders = [])) := by
  refine ⟨?_, Query.aggregated_sql_iff hunion hplain columns⟩
  have hsql := Query.sql_withAggregate (q := q.aggregated columns) hunion hplain
    ⟨function, columns.map Column.name⟩
  have hfetch : (q.aggregateQuery function columns).fetch s = (s.answer, s.sending
      (q.dialect.aggregateText q.distinct ⟨function, columns.map Column.name⟩ ++ " from (" ++
        (q.aggregated columns).sql ++ ") as " ++ q.dialect.quoteName "temp_table")
      (q.aggregated columns).values) := by
    rw [Query.aggregateQuery_eq hunion, Query.fetch_of_no_loads rfl, Query.fetchBase, hsql]
    exact Connection.query_attached hattached _ _ s
  -- what is sent is the same whatever the answer
  unfold Query.compute
  cases hanswer : s.answer with
  | ok rows =>
    rw [hanswer] at hfetch
    rw [bind_apply_ok hfetch]
    rfl
  | error why =>
    rw [hanswer] at hfetch
    rw [bind_apply_error hfetch]

/-- The three oldest users and all admins. -/
def oldestAndAdmins : Query :=
  let users :=
    ((Query.table { attached := true } "users").orderBy (.name "age") .descending).limit 3
  { users with unions := [⟨false, Query.table { attached := true } "admins"⟩] }

/-- The greatest age is not asked for of the union as it stands. -/
theorem union_aggregate_sent_oldest :
    oldestAndAdmins.isUnion = true ∧ ∃ sql vs,
      (oldestAndAdmins.compute "max" ["age"] {}).2.sent = [.query sql vs] ∧
        (oldestAndAdmins.aggregated ["age"]).sql ≠ oldestAndAdmins.sql := by
  obtain ⟨hsent, hiff⟩ := union_aggregate_sent (q := oldestAndAdmins) rfl rfl rfl "max" ["age"] {}
  refine ⟨rfl, _, _, congrArg Session.sent hsent, ?_⟩
  rw [ne_eq, hiff]
  decide

/-- The greatest age of three users and all admins, asked for of some three users. -/
theorem unordered_union_aggregate_oldest :
    oldestAndAdmins.sql =
      "(select * from \x60users\x60 order by \x60age\x60 desc limit 3) union " ++
        "(select * from \x60admins\x60)" ∧
      (oldestAndAdmins.compute "max" ["age"] {}).2.sent =
        [.query ("select max(\x60age\x60) as aggregate from " ++
          "((select \x60age\x60 from \x60users\x60 limit 3) " ++
          "union (select * from \x60admins\x60)) as \x60temp_table\x60") []] :=
  ⟨by decide +kernel, rfl⟩

end QueryBuilder
