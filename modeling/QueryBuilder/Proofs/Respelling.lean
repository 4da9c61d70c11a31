import QueryBuilder.Proofs.ClauseText
import QueryBuilder.Proofs.Composition

/-!
# One text in two spellings

Identifiers stand between back-ticks in one dialect and between double quotes in another. A text in
the second spelling has a double quote wherever the first has a back-tick, and is the same character
by character elsewhere; the first has no double quote, so that nothing is lost.

- `Respelling`: two characters at the same place. `Respelled s t`: two texts.
- `compositional_respelled`: texts that are put together are respelled as their parts are.
- `respelled_quoteName`, `respelled_quote`: so is a name, quoted by each dialect, although the mark
  of the dialect is doubled inside it.
- `respelled_qualifier`: so is the name that is read back out of a source.
-/

namespace QueryBuilder

/-- Two characters at the same place of a text in two spellings. -/
inductive Respelling : Char → Char → Prop
  | quote : Respelling '\x60' '"'
  | same {c : Char} : Source.isQuoteMark c = false → Respelling c c

/-- The second text is the first with every back-tick replaced by a double quote; the first has no
double quote. -/
def Respelled (s t : String) : Prop :=
  List.Forall₂ Respelling s.toList t.toList

/-- A character with the other quotation mark. -/
def respellChar (c : Char) : Char :=
  if c = '\x60' then '"' else c

/-- A text with every back-tick replaced by a double quote. -/
def respell (s : String) : String :=
  String.ofList (s.toList.map respellChar)

/-- A text without quotation marks. -/
def Unmarked (s : String) : Prop :=
  ∀ c ∈ s.toList, Source.isQuoteMark c = false

-- over the characters of the text, not over all characters
instance (s : String) : Decidable (Unmarked s) :=
  List.decidableBAll _ s.toList

/-! ## Characters -/

namespace Respelling

variable {c c' : Char}

/-- The second spelling is determined by the first. -/
theorem eq_respellChar (h : Respelling c c') : c' = respellChar c := by
  cases h with
  | quote => rfl
  | same hc =>
    have hne : c ≠ '\x60' := by
      rintro rfl
      exact absurd hc (by decide)
    rw [respellChar, if_neg hne]

theorem isQuoteMark (h : Respelling c c') : Source.isQuoteMark c' = Source.isQuoteMark c := by
  cases h <;> rfl

theorem isBlank (h : Respelling c c') : Text.isBlank c' = Text.isBlank c := by
  cases h <;> rfl

/-- Neither quotation mark is the long s. -/
theorem longS_iff (h : Respelling c c') : c'.toNat = 0x17F ↔ c.toNat = 0x17F := by
  cases h with
  | quote => decide
  | same _ => rfl

/-- The two spellings agree at the characters that are no quotation marks. -/
theorem eq_iff (h : Respelling c c') {x : Char} (hx : Source.isQuoteMark x = false) :
    c' = x ↔ c = x := by
  cases h with
  | quote =>
    constructor <;> rintro rfl <;> exact absurd hx (by decide)
  | same _ => rfl

/-- The quotation marks are those of the two dialects. -/
theorem eq_quoteMark_iff (h : Respelling c c') :
    c' = Dialect.sqlite.quoteMark ↔ c = Dialect.mysql.quoteMark := by
  cases h with
  | quote => decide
  | same hc => constructor <;> rintro rfl <;> exact absurd hc (by decide)

/-- Quotation marks have no other case. -/
theorem toLower_eq_iff (h : Respelling c c') {x : Char} (hx : Source.isQuoteMark x = false) :
    c'.toLower = x ↔ c.toLower = x := by
  cases h with
  | quote => constructor <;> rintro rfl <;> exact absurd hx (by decide)
  | same _ => rfl

end Respelling

/-! ## Character lists -/

section Lists

variable {cs cs' : List Char}

/-- Items that a test judges alike are dropped alike. -/
theorem forall₂_dropWhile {α β : Type} {R : α → β → Prop} {p : α → Bool} {p' : β → Bool}
    (hp : ∀ {a b}, R a b → p' b = p a) {as : List α} {bs : List β} (h : List.Forall₂ R as bs) :
    List.Forall₂ R (as.dropWhile p) (bs.dropWhile p') := by
  induction h with
  | nil => exact .nil
  | @cons a b as bs hab hrest ih =>
    rw [List.dropWhile_cons, List.dropWhile_cons, hp hab]
    split
    · exact ih
    · exact .cons hab hrest

/-- Blanks in front are dropped alike. -/
theorem respelled_dropBlanks (h : List.Forall₂ Respelling cs cs') :
    List.Forall₂ Respelling (Text.dropBlanks cs) (Text.dropBlanks cs') :=
  forall₂_dropWhile (R := Respelling) (fun hc => hc.isBlank) h

/-- A word is met in both spellings at the same places. -/
theorem respelled_map_toLower_eq_iff {word : List Char}
    (hword : ∀ c ∈ word, Source.isQuoteMark c = false) (h : List.Forall₂ Respelling cs cs') :
    cs'.map Char.toLower = word ↔ cs.map Char.toLower = word := by
  induction h generalizing word with
  | nil => rfl
  | cons hc _ ih =>
    cases word with
    | nil => simp
    | cons w word =>
      rw [List.forall_mem_cons] at hword
      rw [List.map_cons, List.map_cons, List.cons.injEq, List.cons.injEq, hc.toLower_eq_iff hword.1,
        ih hword.2]

/-- A word in front is taken away on both sides or on neither. -/
theorem respelled_dropWord {word : List Char} (hword : ∀ c ∈ word, Source.isQuoteMark c = false)
    (h : List.Forall₂ Respelling cs cs') :
    Option.Rel (List.Forall₂ Respelling) (dropWord word cs) (dropWord word cs') := by
  have hfront := List.forall₂_take word.length h
  unfold dropWord
  by_cases hmet : (cs.take word.length).map Char.toLower = word
  · rw [if_pos hmet, if_pos ((respelled_map_toLower_eq_iff hword hfront).mpr hmet)]
    exact .some (List.forall₂_drop _ h)
  · rw [if_neg hmet, if_neg fun hmet' =>
      hmet ((respelled_map_toLower_eq_iff hword hfront).mp hmet')]
    exact .none

/-- What stands behind the last occurrence of a word does so in both spellings. -/
theorem respelled_afterLast {word : List Char} (hword : ∀ c ∈ word, Source.isQuoteMark c = false)
    (h : List.Forall₂ Respelling cs cs') :
    Option.Rel (List.Forall₂ Respelling) (Text.afterLast word cs) (Text.afterLast word cs') := by
  induction h with
  | nil => exact .none
  | @cons c c' cs cs' hc hrest ih =>
    have hall : List.Forall₂ Respelling (c :: cs) (c' :: cs') := .cons hc hrest
    have hmet := respelled_map_toLower_eq_iff hword (List.forall₂_take word.length hall)
    rw [Text.afterLast, Text.afterLast]
    -- a later occurrence comes first; only without one is this place looked at
    match Text.afterLast word cs, Text.afterLast word cs', ih with
    | _, _, .some hlater => exact .some hlater
    | _, _, .none =>
      simp only [eq_comm (a := word), hmet]
      split
      · exact .some (List.forall₂_drop word.length hall)
      · exact .none

/-- A name is cut into segments at the same places. -/
theorem respelled_pieces {x : Char} (hx : Source.isQuoteMark x = false)
    (h : List.Forall₂ Respelling cs cs') :
    List.Forall₂ (List.Forall₂ Respelling) (Text.pieces x cs) (Text.pieces x cs') := by
  induction h with
  | nil => exact .cons .nil .nil
  | @cons c c' cs cs' hc hrest ih =>
    rw [Text.pieces, Text.pieces]
    simp only [hc.eq_iff hx]
    split
    · exact .cons .nil ih
    · -- the character joins the first segment of what is behind it
      generalize Text.pieces x cs = rest at ih ⊢
      generalize Text.pieces x cs' = rest' at ih ⊢
      cases ih with
      | nil => exact .cons (.cons hc .nil) .nil
      | cons hpiece hrest => exact .cons (.cons hc hpiece) hrest

/-- The alias separator stands at the same place in both spellings. -/
theorem respelled_aliasAfter (h : List.Forall₂ Respelling cs cs') :
    Option.Rel (List.Forall₂ Respelling) (aliasAfter? cs) (aliasAfter? cs') := by
  unfold aliasAfter?
  -- three characters are read, and then the blanks behind them
  match Text.dropBlanks cs, Text.dropBlanks cs', respelled_dropBlanks h with
  | _, _, .nil => exact .none
  | _, _, .cons _ .nil => exact .none
  | _, _, .cons _ (.cons _ .nil) => exact .none
  | _, _, .cons ha (.cons hs (.cons hblank hrest)) =>
    simp only [ha.eq_iff (x := 'a') (by decide), ha.eq_iff (x := 'A') (by decide),
      hs.eq_iff (x := 's') (by decide), hs.eq_iff (x := 'S') (by decide), hs.longS_iff,
        hblank.isBlank]
    split
    · exact .some (respelled_dropBlanks hrest)
    · exact .none

/-- A name is cut at its alias separator in both spellings, or in none. -/
theorem respelled_splitAlias (h : List.Forall₂ Respelling cs cs') :
    Option.Rel (fun p p' => List.Forall₂ Respelling p.1 p'.1 ∧ List.Forall₂ Respelling p.2 p'.2)
      (splitAlias cs) (splitAlias cs') := by
  induction h with
  | nil => exact .none
  | @cons c c' cs cs' hc hrest ih =>
    have hfound : Option.Rel (List.Forall₂ Respelling)
        (if Text.isBlank c then aliasAfter? cs else none)
        (if Text.isBlank c' then aliasAfter? cs' else none) := by
      rw [hc.isBlank]
      split
      · exact respelled_aliasAfter hrest
      · exact .none
    rw [splitAlias_cons, splitAlias_cons]
    match (if Text.isBlank c then aliasAfter? cs else none),
      (if Text.isBlank c' then aliasAfter? cs' else none), hfound with
    | _, _, .some hrest => exact .some ⟨.nil, hrest⟩
    | _, _, .none =>
      match splitAlias cs, splitAlias cs', ih with
      | _, _, .none => exact .none
      | _, _, .some ⟨hname, hrest⟩ => exact .some ⟨.cons hc hname, hrest⟩

/-- The mark that is doubled inside an identifier is that of its dialect. -/
theorem respelled_doubleMark (h : List.Forall₂ Respelling cs cs') :
    List.Forall₂ Respelling (doubleMark Dialect.mysql.quoteMark cs)
      (doubleMark Dialect.sqlite.quoteMark cs') := by
  induction h with
  | nil => exact .nil
  | cons hc _ ih =>
    rw [doubleMark, doubleMark]
    simp only [hc.eq_quoteMark_iff]
    split
    · exact .cons hc (.cons hc ih)
    · exact .cons hc ih

/-- An identifier is quoted by each dialect, and a star by neither. -/
theorem respelled_quoteChars (h : List.Forall₂ Respelling cs cs') :
    List.Forall₂ Respelling (Dialect.mysql.quoteChars cs) (Dialect.sqlite.quoteChars cs') := by
  have hstar : cs' = ['*'] ↔ cs = ['*'] := by
    cases h with
    | nil => simp
    | cons hc hrest =>
      rw [List.cons.injEq, List.cons.injEq, hc.eq_iff (by decide)]
      cases hrest <;> simp
  unfold Dialect.quoteChars
  simp only [hstar]
  split
  · exact h
  · have hmark : List.Forall₂ Respelling [Dialect.mysql.quoteMark] [Dialect.sqlite.quoteMark] :=
      .cons .quote .nil
    exact List.rel_append (.cons .quote (respelled_doubleMark h)) hmark

end Lists

/-! ## Texts -/

namespace Respelled

variable {s t : String}

theorem ofList {cs cs' : List Char} (h : List.Forall₂ Respelling cs cs') :
    Respelled (String.ofList cs) (String.ofList cs') := by
  rwa [Respelled, String.toList_ofList, String.toList_ofList]

/-- The second spelling is the text with every back-tick replaced. -/
theorem eq_respell (h : Respelled s t) : t = respell s := by
  have hchars : t.toList = s.toList.map respellChar := by
    unfold Respelled at h
    generalize t.toList = cs' at h
    generalize s.toList = cs at h
    induction h with
    | nil => rfl
    | cons hc _ ih => rw [List.map_cons, ← hc.eq_respellChar, ih]
  rw [respell, ← hchars, String.ofList_toList]

/-- A text without marks is spelled in one way. -/
theorem of_unmarked (h : Unmarked s) : Respelled s s :=
  List.forall₂_same.mpr fun c hc => .same (h c hc)

/-- A text without quotation marks is met in both spellings. -/
theorem eq_iff_of_unmarked (h : Respelled s t) {x : String} (hx : Unmarked x) : t = x ↔ s = x := by
  unfold Respelled at h
  unfold Unmarked at hx
  rw [← String.toList_inj, ← String.toList_inj]
  generalize t.toList = cs' at h
  generalize s.toList = cs at h
  generalize x.toList = xs at hx
  induction h generalizing xs with
  | nil => rfl
  | cons hc _ ih =>
    cases xs with
    | nil => simp
    | cons x xs =>
      rw [List.forall_mem_cons] at hx
      rw [List.cons.injEq, List.cons.injEq, hc.eq_iff hx.1, ih xs hx.2]

theorem append {s' t' : String} (hs : Respelled s t) (hs' : Respelled s' t') :
    Respelled (s ++ s') (t ++ t') := by
  rw [Respelled, String.toList_append, String.toList_append]
  exact List.rel_append hs hs'

/-- Trimming looks at blanks only. -/
theorem trim (h : Respelled s t) : Respelled (Text.trim s) (Text.trim t) := by
  refine ofList (List.rel_reverse ?_)
  exact respelled_dropBlanks (List.rel_reverse (respelled_dropBlanks h))

/-- The connector that is taken off has no marks, so it is met in both spellings. -/
theorem dropConnector (h : Respelled s t) : Respelled (dropConnector s) (dropConnector t) := by
  have hword : ∀ c ∈ ['a', 'n', 'd', ' '], Source.isQuoteMark c = false := by
    simp [Source.isQuoteMark]
  have hand := respelled_dropWord hword h
  have hword' : ∀ c ∈ ['o', 'r', ' '], Source.isQuoteMark c = false := by simp [Source.isQuoteMark]
  have hor := respelled_dropWord hword' h
  unfold QueryBuilder.dropConnector
  generalize dropWord ['a', 'n', 'd', ' '] s.toList = andRest at hand ⊢
  generalize dropWord ['a', 'n', 'd', ' '] t.toList = andRest' at hand ⊢
  generalize dropWord ['o', 'r', ' '] s.toList = orRest at hor ⊢
  generalize dropWord ['o', 'r', ' '] t.toList = orRest' at hor ⊢
  cases hand with
  | some hrest => exact ofList hrest
  | none =>
    cases hor with
    | some hrest => exact ofList hrest
    | none => exact h

theorem parenthesized (h : Respelled s t) : Respelled ("(" ++ s ++ ")") ("(" ++ t ++ ")") :=
  ((of_unmarked (by decide)).append h).append (of_unmarked (by decide))

end Respelled

/-- Texts that are put together are respelled as their parts are. -/
theorem compositional_respelled : Compositional Respelled where
  word h := .of_unmarked fun c hc => (h c hc).1
  append := .append
  parenthesized := .parenthesized
  empty_iff h := (h.eq_iff_of_unmarked (by decide)).symm
  trim := .trim
  dropConnector := .dropConnector

/-! ## Names -/

section Names

variable {s t : String}

/-- A label, quoted by each dialect. -/
theorem respelled_quote (h : Respelled s t) :
    Respelled (Dialect.mysql.quote s) (Dialect.sqlite.quote t) :=
  .ofList (respelled_quoteChars h)

/-- A name in segments, each quoted by each dialect. -/
theorem respelled_quoteDotted {cs cs' : List Char} (h : List.Forall₂ Respelling cs cs') :
    Respelled (Dialect.mysql.quoteDotted cs) (Dialect.sqlite.quoteDotted cs') := by
  refine compositional_respelled.join (by decide) ?_
  exact List.rel_map (fun _ _ hpart => .ofList (respelled_quoteChars hpart))
    (respelled_pieces (by decide) h)

/-- A name, cut at its label and at its dots in the same places. -/
theorem respelled_quoteName (h : Respelled s t) :
    Respelled (Dialect.mysql.quoteName s) (Dialect.sqlite.quoteName t) := by
  unfold Dialect.quoteName
  match splitAlias s.toList, splitAlias t.toList, respelled_splitAlias h with
  | _, _, .none => exact respelled_quoteDotted h
  | _, _, .some ⟨hname, hrest⟩ =>
    have hlabel := Respelled.ofList (respelled_quoteChars hrest)
    exact compositional_respelled.around (respelled_quoteDotted hname) (by decide) hlabel

/-- Marks at the ends are taken off, whichever they are. -/
theorem respelled_unquote (h : Respelled s t) :
    Respelled (Source.unquote s) (Source.unquote t) := by
  refine .ofList (List.rel_reverse ?_)
  have hfront := forall₂_dropWhile (R := Respelling) (fun hc => hc.isQuoteMark) h
  exact forall₂_dropWhile (R := Respelling) (fun hc => hc.isQuoteMark) (List.rel_reverse hfront)

/-- A label is read off the text in both spellings or in neither. -/
theorem respelled_givenAlias (h : Respelled s t) :
    Option.Rel Respelled (Column.givenAlias? s) (Column.givenAlias? t) := by
  have hword : Unmarked " as " := by decide
  unfold Column.givenAlias?
  match Text.afterLast " as ".toList s.toList, Text.afterLast " as ".toList t.toList,
    respelled_afterLast hword h with
  | _, _, .none => exact .none
  | _, _, .some hrest => exact .some (.ofList hrest)

/-- The name that qualifies the columns of a source is read back out of its text, where it may have
been quoted by the dialect. -/
theorem respelled_qualifier {source source' : Source} (h : Respelled source.text source'.text) :
    Respelled source.qualifier source'.qualifier := by
  have hname : Respelled ((Column.givenAlias? source.text).getD source.text)
      ((Column.givenAlias? source'.text).getD source'.text) := by
    match Column.givenAlias? source.text, Column.givenAlias? source'.text,
      respelled_givenAlias h with
    | _, _, .none => exact h
    | _, _, .some hrest => exact hrest
  exact respelled_unquote hname.trim

end Names

end QueryBuilder
