import Mathlib.Data.List.Forall2
import QueryBuilder.Query.Write
import QueryBuilder.Proofs.Alignment

/-!
# The parts of a write

An update or a delete is put together from parts that bind values: its joins, its assignments and
its conditions. It is trimmed when it is done, and so is the select of row numbers inside it, so a
part may lose blanks at its end, and nothing else.

- `ShownAs`: what is left of a text when blanks are cut off at its end.
- `InOrder.of_append_blanks`: where the cut falls among texts that stand in order.
- `Shows`: parts stand in a statement one after the other, each with one placeholder for each of its
  values. `Shows.trim`: they still do when the statement is trimmed.
- `SimpleTable`, `writtenAlias_quoteName`: the alias that is read back from a written table is the
  one given.
- `Query.clausePart`: a clause as a part. `Query.shows_byRowIdText`: the joins and the conditions
  inside the condition on row numbers.
- `Query.behindValues`: what is filed for clauses that a write does not have.
-/

namespace QueryBuilder

/-! ## Blanks at the end -/

/-- A text of nothing but blanks. -/
def AllBlank (s : String) : Prop :=
  ∀ c ∈ s.toList, Text.isBlank c = true

theorem allBlank_empty : AllBlank "" := by
  intro c hc
  simp at hc

theorem allBlank_append {s t : String} : AllBlank (s ++ t) ↔ AllBlank s ∧ AllBlank t := by
  unfold AllBlank
  rw [String.toList_append]
  exact List.forall_mem_append

/-- What is left of a text when blanks are cut off at its end. -/
def ShownAs (text shown : String) : Prop :=
  ∃ blanks, AllBlank blanks ∧ text = shown ++ blanks

namespace ShownAs

variable {text shown less : String} {n : Nat}

theorem refl (text : String) : ShownAs text text :=
  ⟨"", allBlank_empty, String.append_empty.symm⟩

theorem trans (h : ShownAs text shown) (h' : ShownAs shown less) : ShownAs text less := by
  obtain ⟨blanks, hblanks, rfl⟩ := h
  obtain ⟨more, hmore, rfl⟩ := h'
  exact ⟨more ++ blanks, allBlank_append.mpr ⟨hmore, hblanks⟩, String.append_assoc⟩

/-- Blanks neither quote nor mark a place, wherever they stand. -/
theorem carries (h : ShownAs text shown) (htext : Carries text n) : Carries shown n := by
  obtain ⟨blanks, hblanks, rfl⟩ := h
  have hlist : String.ofList (shown.toList ++ blanks.toList) = shown ++ blanks := by
    rw [← String.toList_append, String.ofList_toList]
  rw [← hlist] at htext
  have hshown := Carries.of_append_inert (inert_of_isBlank hblanks) htext
  rwa [String.ofList_toList] at hshown

end ShownAs

/-- A text that does not start with a blank is trimmed at its end only. -/
theorem shownAs_trim {s : String} {c : Char} (hs : s.toList.head? = some c)
    (hc : Text.isBlank c = false) : ShownAs s (Text.trim s) := by
  -- the front stays, for the first character is no blank
  have hleft : Text.dropBlanks s.toList = s.toList := by
    obtain ⟨cs, hcs⟩ := List.head?_eq_some_iff.mp hs
    rw [hcs]
    exact List.dropWhile_cons_of_neg (by simp [hc])
  refine ⟨String.ofList (s.toList.reverse.takeWhile Text.isBlank).reverse, ?_, ?_⟩
  · intro d hd
    rw [String.toList_ofList, List.mem_reverse] at hd
    exact List.all_eq_true.mp List.all_takeWhile d hd
  · unfold Text.trim Text.dropBlanksRight
    rw [hleft, ← String.ofList_append, Text.dropBlanks, ← List.reverse_append,
      List.takeWhile_append_dropWhile, List.reverse_reverse, String.ofList_toList]

/-- Two ways to cut one text: one of the front parts is the beginning of the other. -/
theorem append_eq_append_cases {a b c d : String} (h : a ++ b = c ++ d) :
    (∃ e, c = a ++ e ∧ b = e ++ d) ∨ ∃ e, a = c ++ e ∧ d = e ++ b := by
  have hlists : a.toList ++ b.toList = c.toList ++ d.toList := by
    rw [← String.toList_append, h, String.toList_append]
  rcases List.append_eq_append_iff.mp hlists with ⟨e, hc, hb⟩ | ⟨e, ha, hd⟩
  · refine .inl ⟨String.ofList e, String.toList_inj.mp ?_, String.toList_inj.mp ?_⟩
    · rw [String.toList_append, String.toList_ofList, hc]
    · rw [String.toList_append, String.toList_ofList, hb]
  · refine .inr ⟨String.ofList e, String.toList_inj.mp ?_, String.toList_inj.mp ?_⟩
    · rw [String.toList_append, String.toList_ofList, ha]
    · rw [String.toList_append, String.toList_ofList, hd]

/-- Without the blanks at its end a statement shows the same texts, the last ones perhaps without
the blanks at their ends. -/
theorem InOrder.of_append_blanks {ts : List String} {s blanks : String} (hblanks : AllBlank blanks)
    (h : InOrder ts (s ++ blanks)) : ∃ shown, List.Forall₂ ShownAs ts shown ∧ InOrder shown s := by
  induction ts generalizing s blanks with
  | nil =>
    have hshown : ShownAs (s ++ blanks) s := ⟨blanks, hblanks, rfl⟩
    exact ⟨[], .nil, hshown.carries h⟩
  | cons t ts ih =>
    obtain ⟨front, rest, hfront, heq, hrest⟩ := h
    rcases append_eq_append_cases heq with ⟨cut, hcut, hbehind⟩ | ⟨kept, hkept, hrests⟩
    · -- the cut falls in `t` or in front of it, so there are only blanks behind `t`
      obtain ⟨hcutBlank, hrestBlank⟩ := allBlank_append.mp (hbehind ▸ hblanks)
      rw [← String.empty_append (s := rest)] at hrest
      obtain ⟨shown, hshown, horder⟩ := ih hrestBlank hrest
      rcases append_eq_append_cases hcut with ⟨stump, hs, ht⟩ | ⟨gone, hfronts, hgone⟩
      · exact ⟨stump :: shown, .cons ⟨cut, hcutBlank, ht⟩ hshown, front, "", hfront,
          by rw [hs, String.append_empty], horder⟩
      · -- nothing is left of `t`
        obtain ⟨hgoneBlank, htBlank⟩ := allBlank_append.mp (hgone ▸ hcutBlank)
        have hs : Carries s 0 := ShownAs.carries ⟨gone, hgoneBlank, hfronts⟩ hfront
        exact ⟨"" :: shown, .cons ⟨t, htBlank, String.empty_append.symm⟩ hshown, s, "", hs,
          by rw [String.append_empty, String.append_empty], horder⟩
    · -- the cut falls behind `t`
      obtain ⟨shown, hshown, horder⟩ := ih hblanks (hrests ▸ hrest)
      exact ⟨t :: shown, .cons (.refl t) hshown, front, kept, hfront, hkept, horder⟩

/-! ## Parts of a statement -/

/-- A part is shown in a statement by this text: the text of the part, perhaps without blanks at its
end, with one placeholder for each value of the part. -/
structure Statement.ShownBy (part : Statement) (text : String) : Prop where
  shown : ShownAs part.sql text
  carries : Carries text part.values.length

/-- Parts stand in a statement one after the other, with nothing between and around them that a
value could belong to. -/
def Shows (sql : String) (parts : List Statement) : Prop :=
  ∃ texts, List.Forall₂ Statement.ShownBy parts texts ∧ InOrder texts sql

namespace Shows

variable {sql rest front : String} {part : Statement} {parts : List Statement}

theorem nil (h : Carries sql 0) : Shows sql [] :=
  ⟨[], .nil, h⟩

theorem cons (hfront : Carries front 0) (hpart : Carries part.sql part.values.length)
    (h : Shows rest parts) : Shows (front ++ part.sql ++ rest) (part :: parts) := by
  obtain ⟨texts, hshown, horder⟩ := h
  exact ⟨part.sql :: texts, .cons ⟨.refl part.sql, hpart⟩ hshown, front, rest, hfront, rfl, horder⟩

theorem after (hfront : Carries front 0) (h : Shows rest parts) : Shows (front ++ rest) parts := by
  obtain ⟨texts, hshown, horder⟩ := h
  exact ⟨texts, hshown, horder.after hfront⟩

theorem before (h : Shows sql parts) (hrest : Carries rest 0) : Shows (sql ++ rest) parts := by
  obtain ⟨texts, hshown, horder⟩ := h
  exact ⟨texts, hshown, horder.before hrest⟩

/-- A part without text stands anywhere. -/
theorem cons_empty (hempty : part.sql = "") (hnone : part.values = []) (h : Shows sql parts) :
    Shows sql (part :: parts) := by
  have hpart : Carries part.sql part.values.length := by
    rw [hempty, hnone]
    exact carries_empty
  have hcons := cons carries_empty hpart h
  rwa [hempty, String.empty_append, String.empty_append] at hcons

/-- The parts are still there when blanks are cut off at the end of the statement. -/
theorem shownAs {shown : String} (h : Shows sql parts) (hshown : ShownAs sql shown) :
    Shows shown parts := by
  obtain ⟨texts, hparts, horder⟩ := h
  obtain ⟨blanks, hblanks, rfl⟩ := hshown
  obtain ⟨less, hless, horder'⟩ := horder.of_append_blanks hblanks
  refine ⟨less, ?_, horder'⟩
  -- the order is settled; what is left is the parts one by one
  clear horder horder'
  induction hparts generalizing less with
  | nil =>
    cases hless
    exact .nil
  | cons hpart _ ih =>
    cases hless with
    | cons htext hless =>
      exact .cons ⟨hpart.shown.trans htext, htext.carries hpart.carries⟩ (ih _ hless)

/-- A statement that starts with a word is trimmed at its end only. -/
theorem trim {c : Char} (h : Shows (front ++ rest) parts) (hfront : front.toList.head? = some c)
    (hc : Text.isBlank c = false) : Shows (Text.trim (front ++ rest)) parts := by
  refine h.shownAs (shownAs_trim ?_ hc)
  rw [String.toList_append, List.head?_append, hfront]
  rfl

/-- A statement carries what its parts bind. -/
theorem carries (h : Shows sql parts) : Carries sql (parts.flatMap Statement.values).length := by
  obtain ⟨texts, hparts, horder⟩ := h
  refine horder.carries ?_
  clear horder
  induction hparts with
  | nil => exact CarriesAll.nil
  | cons hpart _ ih =>
    rw [List.flatMap_cons, List.length_append]
    exact CarriesAll.cons hpart.carries ih

end Shows

/-! ## The alias of a table -/

/-- A table's name, alone or with an alias, neither of them with a blank in it. -/
def SimpleTable (table : String) : Prop :=
  (∀ c ∈ table.toList, Text.isBlank c = false) ∨
    ∃ name label : String, table = name ++ " as " ++ label ∧
      (∀ c ∈ name.toList, Text.isBlank c = false) ∧ ∀ c ∈ label.toList, Text.isBlank c = false

section Aliases

variable {name label cs : List Char}

/-- The separator of an alias starts with a blank, so another character belongs to the name. -/
theorem splitAlias_unblank {c : Char} (hc : Text.isBlank c = false) (cs : List Char) :
    splitAlias (c :: cs) = (splitAlias cs).map fun (name, rest) => (c :: name, rest) := by
  rw [splitAlias_cons, hc]
  rfl

/-- A name ends where an alias follows. -/
theorem splitAlias_space (hlabel : aliasAfter? cs = some label) :
    splitAlias (' ' :: cs) = some ([], label) := by
  have hblank : Text.isBlank ' ' = true := by decide
  rw [splitAlias_cons, hblank, if_pos rfl, hlabel]

/-- A name without blanks has no alias. -/
theorem splitAlias_of_unblank (h : ∀ c ∈ cs, Text.isBlank c = false) : splitAlias cs = none := by
  induction cs with
  | nil => rfl
  | cons c cs ih =>
    have hc : Text.isBlank c = false := h c List.mem_cons_self
    rw [splitAlias_unblank hc, ih fun e he => h e (List.mem_cons_of_mem c he)]
    rfl

/-- A name and a label without blanks are read apart. -/
theorem splitAlias_of_alias (hname : ∀ c ∈ name, Text.isBlank c = false)
    (hlabel : ∀ c ∈ label, Text.isBlank c = false) :
    splitAlias (name ++ ' ' :: 'a' :: 's' :: ' ' :: label) = some (name, label) := by
  induction name with
  | nil =>
    have hdrop : Text.dropBlanks label = label := by
      unfold Text.dropBlanks
      cases label with
      | nil => rfl
      | cons c cs => rw [List.dropWhile_cons_of_neg (by simp [hlabel c List.mem_cons_self])]
    -- the letters of the separator follow at once, and the blank behind them is the only one
    have hword : Text.dropBlanks ('a' :: 's' :: ' ' :: label) = 'a' :: 's' :: ' ' :: label :=
      List.dropWhile_cons_of_neg (by decide)
    have hblank : Text.isBlank ' ' = true := by decide
    have hsome : aliasAfter? ('a' :: 's' :: ' ' :: label) = some label := by
      unfold aliasAfter?
      rw [hword]
      simp [hblank, hdrop]
    exact splitAlias_space hsome
  | cons c name ih =>
    have hc : Text.isBlank c = false := hname c List.mem_cons_self
    rw [List.cons_append, splitAlias_unblank hc, ih fun e he => hname e (List.mem_cons_of_mem c he)]
    rfl

/-- A word is not found where its first character is missing. -/
theorem afterLastExact_of_notMem {c : Char} (word : List Char) (h : c ∉ cs) :
    Text.afterLastExact (c :: word) cs = none := by
  induction cs with
  | nil => rfl
  | cons d cs ih =>
    obtain ⟨hd, hcs⟩ := List.ne_and_not_mem_of_not_mem_cons h
    rw [Text.afterLastExact, ih hcs]
    simp [List.isPrefixOf, hd]

/-- A label without a space is what follows the last separator. -/
theorem afterLastExact_label (front : List Char) (h : ' ' ∉ label) :
    Text.afterLastExact [' ', 'a', 's', ' '] (front ++ ' ' :: 'a' :: 's' :: ' ' :: label) =
      some label := by
  induction front with
  | nil =>
    have hnone : Text.afterLastExact [' ', 'a', 's', ' '] label = none :=
      afterLastExact_of_notMem _ h
    -- the space at the end of the separator cannot be the beginning of another one
    have hprefix : [' ', 'a', 's', ' '].isPrefixOf (' ' :: label) = false := by
      rw [Bool.eq_false_iff]
      intro hword
      obtain ⟨rest, hrest⟩ := List.isPrefixOf_iff_prefix.mp hword
      refine h ?_
      rw [← (List.cons.inj hrest).2]
      simp
    simp [Text.afterLastExact, hnone, hprefix]
  | cons c front ih => rw [List.cons_append, Text.afterLastExact, ih]

/-- Doubling the mark adds no other characters. -/
theorem mem_doubleMark {mark c : Char} (h : c ∈ doubleMark mark cs) : c ∈ cs := by
  induction cs with
  | nil => exact h
  | cons d cs ih =>
    rw [doubleMark] at h
    split at h
    · rcases List.mem_cons.mp h with rfl | h
      · exact List.mem_cons_self
      · exact (List.mem_cons.mp h).elim (fun hc => hc ▸ List.mem_cons_self)
          fun hc => List.mem_cons_of_mem d (ih hc)
    · exact (List.mem_cons.mp h).elim (fun hc => hc ▸ List.mem_cons_self)
        fun hc => List.mem_cons_of_mem d (ih hc)

/-- Quoting adds quotation marks and no other characters. -/
theorem mem_quoteChars {d : Dialect} {c : Char} (h : c ∈ d.quoteChars cs) :
    c = d.quoteMark ∨ c ∈ cs := by
  unfold Dialect.quoteChars at h
  split at h
  · exact .inr h
  · rw [List.cons_append, List.mem_cons, List.mem_append, List.mem_singleton] at h
    rcases h with h | h | h
    · exact .inl h
    · exact .inr (mem_doubleMark h)
    · exact .inl h

/-- The segments of a name have the characters of the name. -/
theorem mem_pieces {mark c : Char} {piece : List Char} (hpiece : piece ∈ Text.pieces mark cs)
    (hc : c ∈ piece) : c ∈ cs := by
  -- a character goes to the first segment of what is behind it, or is a dot
  induction cs generalizing piece with
  | nil =>
    rw [Text.pieces, List.mem_singleton] at hpiece
    rwa [hpiece] at hc
  | cons d cs ih =>
    rw [Text.pieces] at hpiece
    split at hpiece
    · rcases List.mem_cons.mp hpiece with rfl | hpiece
      · exact absurd hc List.not_mem_nil
      · exact List.mem_cons_of_mem d (ih hpiece hc)
    · split at hpiece
      · next hnil => exact absurd hnil (Text.pieces_ne_nil mark cs)
      · next first rest hcons =>
        rw [hcons] at ih
        rcases List.mem_cons.mp hpiece with rfl | hpiece
        · rcases List.mem_cons.mp hc with rfl | hc
          · exact List.mem_cons_self
          · exact List.mem_cons_of_mem d (ih List.mem_cons_self hc)
        · exact List.mem_cons_of_mem d (ih (List.mem_cons_of_mem first hpiece) hc)

/-- A character of joined texts is one of the separator or of one of the texts. -/
theorem mem_join {separator : String} {ts : List String} {c : Char}
    (h : c ∈ (Text.join separator ts).toList) : c ∈ separator.toList ∨ ∃ t ∈ ts, c ∈ t.toList := by
  induction ts with
  | nil => exact absurd h (by simp)
  | cons t ts ih =>
    cases ts with
    | nil => exact .inr ⟨t, List.mem_cons_self, h⟩
    | cons u us =>
      rw [Text.join_cons_cons, String.toList_append, String.toList_append, List.mem_append,
        List.mem_append] at h
      rcases h with (h | h) | h
      · exact .inr ⟨t, List.mem_cons_self, h⟩
      · exact .inl h
      · refine (ih h).imp_right ?_
        rintro ⟨v, hv, hc⟩
        exact ⟨v, List.mem_cons_of_mem t hv, hc⟩

theorem ne_quoteMark (d : Dialect) : ' ' ≠ d.quoteMark := by
  cases d <;> decide

/-- A quoted identifier without a space has none when it is written. -/
theorem notMem_quoteChars {d : Dialect} (h : ' ' ∉ cs) : ' ' ∉ d.quoteChars cs := by
  intro hmem
  rcases mem_quoteChars hmem with hmark | hcs
  · exact ne_quoteMark d hmark
  · exact h hcs

/-- Neither has a name in segments, which are joined by dots. -/
theorem notMem_quoteDotted {d : Dialect} (h : ' ' ∉ cs) : ' ' ∉ (d.quoteDotted cs).toList := by
  intro hmem
  rcases mem_join hmem with hdot | ⟨t, ht, hc⟩
  · exact absurd hdot (by decide)
  · obtain ⟨piece, hpiece, rfl⟩ := List.mem_map.mp ht
    rw [String.toList_ofList] at hc
    exact notMem_quoteChars (fun hspace => h (mem_pieces hpiece hspace)) hc

end Aliases

theorem notMem_of_unblank {cs : List Char} (h : ∀ c ∈ cs, Text.isBlank c = false) : ' ' ∉ cs := by
  intro hmem
  exact absurd (h ' ' hmem) (by decide)

/-- The name that the columns of a table are written under: its quoted alias, or without one the
quoted table. -/
def Dialect.quoteOwner (d : Dialect) (table : String) : String :=
  match splitAlias table.toList with
  | none => d.quoteName table
  | some (_, label) => String.ofList (d.quoteChars label)

/-- Behind the last separator of a simple table, as it is written, stands its quoted alias. -/
theorem writtenAlias_quoteName {table : String} (h : SimpleTable table) (d : Dialect) :
    Query.writtenAlias (d.quoteName table) = d.quoteOwner table := by
  rcases h with hplain | ⟨name, label, rfl, hname, hlabel⟩
  · have hsplit : splitAlias table.toList = none := splitAlias_of_unblank hplain
    have hquoted : d.quoteName table = d.quoteDotted table.toList := by
      unfold Dialect.quoteName
      rw [hsplit]
    have hnone : Text.afterLastExact " as ".toList (d.quoteDotted table.toList).toList = none :=
      afterLastExact_of_notMem _ (notMem_quoteDotted (notMem_of_unblank hplain))
    unfold Query.writtenAlias Dialect.quoteOwner
    rw [hsplit, hquoted, hnone]
  · have hsplit : splitAlias (name ++ " as " ++ label).toList =
        some (name.toList, label.toList) := by
      have hlist : (name ++ " as " ++ label).toList =
          name.toList ++ ' ' :: 'a' :: 's' :: ' ' :: label.toList := by
        simp
      rw [hlist, splitAlias_of_alias hname hlabel]
    have hwritten : (d.quoteName (name ++ " as " ++ label)).toList =
        (d.quoteDotted name.toList).toList ++
          ' ' :: 'a' :: 's' :: ' ' :: d.quoteChars label.toList := by
      unfold Dialect.quoteName
      rw [hsplit]
      simp [Dialect.quoteWithAlias]
    have hsome : Text.afterLastExact " as ".toList (d.quoteName (name ++ " as " ++ label)).toList =
        some (d.quoteChars label.toList) := by
      rw [hwritten]
      exact afterLastExact_label _ (notMem_quoteChars (notMem_of_unblank hlabel))
    unfold Query.writtenAlias Dialect.quoteOwner
    rw [hsplit, hsome]

/-- The alias that is read back from a written table carries nothing. -/
theorem carries_writtenAlias {table : String} (h : SimpleTable table) (d : Dialect) :
    Carries (Query.writtenAlias (d.quoteName table)) 0 := by
  rw [writtenAlias_quoteName h]
  unfold Dialect.quoteOwner
  split
  · exact carries_quoteName d table
  · exact carries_quoteChars d _

/-! ## Joins and conditions -/

/-- The clauses behind the conditions: a write has none of them. -/
def Clause.behindWheres : List Clause :=
  [.groups, .havings, .orders, .unions, .unionOrders]

namespace Query

/-- A clause as a part of a statement. -/
def clausePart (q : Query) (c : Clause) : Statement :=
  ⟨q.clauseText q.dialect c, (q.bindings.get c).flatMap Value.leaves⟩

variable {q : Query} {table : String}

/-- A write goes to the table that the query is on, quoted. -/
theorem target_ok (hsource : q.source = some (.table table)) :
    q.target = .ok (q.dialect.quoteName table) := by
  unfold target
  rw [hsource]
  rfl

/-- Nothing is bound for a table. -/
theorem count_source (h : q.Aligned q.dialect) (hsource : q.source = some (.table table)) :
    q.bindings.count .source = 0 := by
  have hentries : CarriesAll ((q.source.map q.dialect.source).toList) (q.bindings.count .source) :=
    h.alignedAt .source
  rw [hsource] at hentries
  have hnone : placeholders (q.dialect.source (.table table)) = 0 :=
    (carries_source_table q.dialect table).count
  have hcount := hentries.count
  simp only [Option.map_some, Option.toList_some, List.map_cons, List.map_nil, hnone,
    List.sum_cons, List.sum_nil] at hcount
  omega

/-- What a write binds for the clauses that it does not have. -/
def behindValues (q : Query) : List Value :=
  Clause.behindWheres.flatMap fun c => (q.clausePart c).values

/-- Nothing is filed for clauses that a write does not have, exactly if each of them counts
nothing. -/
theorem behindValues_eq_nil_iff :
    q.behindValues = [] ↔ ∀ c ∈ Clause.behindWheres, q.bindings.count c = 0 := by
  unfold behindValues
  rw [List.flatMap_eq_nil_iff]
  exact forall₂_congr fun c _ => List.length_eq_zero_iff.symm

/-- A source that counts nothing binds nothing. -/
theorem clausePart_source (hsource : q.bindings.count .source = 0) :
    (q.clausePart .source).values = [] :=
  List.length_eq_zero_iff.mp hsource

/-- All values but those of the columns, when none are bound for the source. -/
theorem flattenExcept_columns (hsource : q.bindings.count .source = 0) :
    q.bindings.flattenExcept [.columns] =
      (q.clausePart .joins).values ++ ((q.clausePart .wheres).values ++ q.behindValues) := by
  show (q.clausePart .source).values ++ _ = _
  rw [clausePart_source hsource]
  rfl

/-- The same without those of the joins. -/
theorem flattenExcept_columns_joins (hsource : q.bindings.count .source = 0) :
    q.bindings.flattenExcept [.columns, .joins] =
      (q.clausePart .wheres).values ++ q.behindValues := by
  show (q.clausePart .source).values ++ _ = _
  rw [clausePart_source hsource]
  rfl

/-- A clause of an aligned query carries what is filed for it. -/
theorem carries_clausePart (h : q.Aligned q.dialect) (c : Clause) :
    Carries (q.clausePart c).sql (q.clausePart c).values.length :=
  h.carries_clause c

/-- Without joins there is neither a text of joins nor a value for it. -/
theorem clausePart_joins_of_none (h : q.Aligned q.dialect) (hjoins : q.joins = []) :
    (q.clausePart .joins).sql = "" ∧ (q.clausePart .joins).values = [] := by
  have hall : CarriesAll (joinTexts q.dialect q.joins) (q.bindings.count .joins) :=
    h.alignedAt .joins
  rw [hjoins] at hall
  constructor
  · show joinsText q.dialect q.joins = ""
    rw [hjoins]
    rfl
  · exact List.length_eq_zero_iff.mp hall.count.symm

theorem shows_wheres (h : q.Aligned q.dialect) :
    Shows (" " ++ q.whereText) [q.clausePart .wheres] := by
  have hshows := Shows.cons carries_space (carries_clausePart h .wheres) (.nil carries_empty)
  rwa [String.append_empty] at hshows

/-- The joins and behind them the conditions. -/
theorem shows_joins_wheres (h : q.Aligned q.dialect) {front : String} (hfront : Carries front 0) :
    Shows (front ++ joinsText q.dialect q.joins ++ " " ++ q.whereText)
      [q.clausePart .joins, q.clausePart .wheres] := by
  have hshows := Shows.cons hfront (carries_clausePart h .joins) (shows_wheres h)
  rwa [← String.append_assoc] at hshows

/-- The joins and the conditions have moved into the condition on row numbers. -/
theorem shows_byRowIdText (h : q.Aligned q.dialect) (htable : Carries table 0)
    (halias : Carries (writtenAlias table) 0) :
    Shows (q.byRowIdText table) [q.clausePart .joins, q.clausePart .wheres] := by
  have hselect : Carries "select " 0 := by decide
  have hfrom : Carries ".rowid from " 0 := by decide
  have hopening := (((halias.append hfrom).append htable).append carries_space)
  -- the select of row numbers is trimmed on its own, before the parentheses are put around it
  have hinner : Shows (q.rowIdText table) [q.clausePart .joins, q.clausePart .wheres] := by
    have hshows := ((shows_joins_wheres h hopening).after hselect).trim (c := 's') rfl (by decide)
    unfold rowIdText
    simpa only [String.append_assoc] using hshows
  have hwhere : Carries "where " 0 := by decide
  have hin : Carries " in (" 0 := by decide
  have hbefore := (hwhere.append (carries_quote q.dialect "rowid")).append hin
  exact (hinner.after hbefore).before (by decide)

end Query

end QueryBuilder
