import Mathlib.Data.List.Forall2
import QueryBuilder.Proofs.Alignment

/-!
# Relations that composing a statement keeps

A statement is put together from texts: words are written in front of them and behind them, they are
joined, put in parentheses, trimmed. A relation between texts that each of these keeps holds between
the statements of two queries as soon as it holds between the texts of their members. The two
queries may be written in different dialects; with one query on both sides this says something about
a single statement.

- `Bare`: a text with neither quotation marks nor parentheses. All words of the library are of this
  kind.
- `Compositional R`: the relation `R` is kept when texts are put together. `Same P` is the relation
  of one text to itself that has the property `P`.
- `Query.Alike R d d' q q'`: the members of the clauses of `q`, written in `d`, are in relation to
  those of `q'`, written in `d'`. The source stands apart, because a group of conditions is built on
  a source that it does not write.
- `Compositional.textIn`: the statements of two such queries are in relation.
-/

namespace QueryBuilder

/-- A text with neither quotation marks nor parentheses. -/
def Bare (s : String) : Prop :=
  ∀ c ∈ s.toList, Source.isQuoteMark c = false ∧ c ≠ '(' ∧ c ≠ ')'

-- over the characters of the text, not over all characters
instance (s : String) : Decidable (Bare s) :=
  List.decidableBAll _ s.toList

/-- A relation between texts that is kept when texts are put together. -/
structure Compositional (R : String → String → Prop) : Prop where
  word {s : String} : Bare s → R s s
  append {s s' t t' : String} : R s s' → R t t' → R (s ++ t) (s' ++ t')
  parenthesized {s s' : String} : R s s' → R ("(" ++ s ++ ")") ("(" ++ s' ++ ")")
  empty_iff {s s' : String} : R s s' → (s = "" ↔ s' = "")
  trim {s s' : String} : R s s' → R (Text.trim s) (Text.trim s')
  dropConnector {s s' : String} : R s s' → R (dropConnector s) (dropConnector s')

/-- One text on both sides, and it has the property. -/
def Same (P : String → Prop) (s t : String) : Prop :=
  s = t ∧ P s

/-- For one list on both sides, being in relation is a property of its items. -/
theorem forall₂_same_iff {P : String → Prop} {ts : List String} :
    List.Forall₂ (Same P) ts ts ↔ ∀ t ∈ ts, P t := by
  rw [List.forall₂_same]
  exact ⟨fun h t ht => (h t ht).2, fun h t ht => ⟨rfl, h t ht⟩⟩

/-- One list, each item in two ways. -/
theorem forall₂_map_same {α β γ : Type} {R : β → γ → Prop} {f : α → β} {g : α → γ} {as : List α}
    (h : ∀ a ∈ as, R (f a) (g a)) : List.Forall₂ R (as.map f) (as.map g) := by
  rw [List.forall₂_map_left_iff, List.forall₂_map_right_iff, List.forall₂_same]
  exact h

/-- Lists that correspond item by item are empty together. -/
theorem isEmpty_eq_of_forall₂ {α β : Type} {R : α → β → Prop} {as : List α} {bs : List β}
    (h : List.Forall₂ R as bs) : bs.isEmpty = as.isEmpty := by
  cases h <;> rfl

/-- Lists whose images correspond are empty together. -/
theorem isEmpty_eq_of_forall₂_map {α β γ δ : Type} {R : γ → δ → Prop} {f : α → γ} {g : β → δ}
    {as : List α} {bs : List β} (h : List.Forall₂ R (as.map f) (bs.map g)) :
    bs.isEmpty = as.isEmpty := by
  have hempty := isEmpty_eq_of_forall₂ h
  rwa [List.isEmpty_map, List.isEmpty_map] at hempty

theorem bare_betweenWord (negated : Bool) : Bare (" " ++ betweenWord negated ++ " ") := by
  cases negated <;> decide

/-- A number is written in digits. -/
theorem bare_toString (n : Nat) : Bare (toString n) := by
  intro c hc
  rw [show (toString n).toList = Nat.toDigits 10 n by simp [toString]] at hc
  have hdigit : c.isDigit = true := Nat.isDigit_of_mem_toDigits (by decide) (by decide) hc
  have hinert : Inert [c] := inert_of_isDigit (by simpa using hdigit)
  refine ⟨(hinert c List.mem_cons_self).1, ?_, ?_⟩ <;> rintro rfl <;> simp [Char.isDigit] at hdigit

/-- Bare texts side by side. -/
theorem bare_append {s t : String} (hs : Bare s) (ht : Bare t) : Bare (s ++ t) := by
  intro c hc
  rw [String.toList_append, List.mem_append] at hc
  rcases hc with hc | hc
  · exact hs c hc
  · exact ht c hc

theorem bare_limitText (limit : Option Nat) : Bare (Dialect.limitText limit) := by
  cases limit with
  | none => decide
  | some n => exact bare_append (by decide : Bare "limit ") (bare_toString n)

theorem bare_offsetText (offset : Option Nat) : Bare (Dialect.offsetText offset) := by
  cases offset with
  | none => decide
  | some n => exact bare_append (by decide : Bare "offset ") (bare_toString n)

/-- The operators of a dialect are words and signs. -/
theorem bare_of_knows {d : Dialect} {operator : String} (h : d.knows operator = true) :
    Bare operator := by
  have hshared : ∀ o ∈ Dialect.sharedOperators, Bare o := by decide
  have hown : ∀ o ∈ d.ownOperators, Bare o := by cases d <;> decide
  simp only [Dialect.knows, Bool.or_eq_true, List.contains_iff_mem] at h
  rcases h with h | h
  · exact hshared operator h
  · exact hown operator h

namespace Compositional

variable {R : String → String → Prop} {d d' : Dialect} {c c' : Column} {operator operator' : String}
  {o o' : Operand} {s s' : String}

/-! ## Texts side by side -/

theorem empty (h : Compositional R) : R "" "" :=
  h.word (by decide)

theorem after (h : Compositional R) {w : String} (hw : Bare w) (hs : R s s') :
    R (w ++ s) (w ++ s') :=
  h.append (h.word hw) hs

theorem before (h : Compositional R) {w : String} (hs : R s s') (hw : Bare w) :
    R (s ++ w) (s' ++ w) :=
  h.append hs (h.word hw)

theorem around (h : Compositional R) {w t t' : String} (hs : R s s') (hw : Bare w) (ht : R t t') :
    R (s ++ w ++ t) (s' ++ w ++ t') :=
  h.append (h.before hs hw) ht

theorem call (h : Compositional R) {w w' : String} (hw : R w w') (hs : R s s') :
    R (w ++ "(" ++ s ++ ")") (w' ++ "(" ++ s' ++ ")") := by
  have hcall := h.append hw (h.parenthesized hs)
  simpa only [String.append_assoc] using hcall

/-- A text in parentheses and its label. -/
theorem labelled (h : Compositional R) {label label' : String} (hs : R s s')
    (hlabel : R label label') :
    R ("(" ++ s ++ ") as " ++ label) ("(" ++ s' ++ ") as " ++ label') := by
  have hclose : (") as " : String) = ")" ++ " as " := by decide
  rw [hclose, ← String.append_assoc, ← String.append_assoc]
  exact h.around (h.parenthesized hs) (by decide) hlabel

/-- Lists in relation, joined by a bare separator. -/
theorem join (h : Compositional R) {separator : String} (hseparator : Bare separator)
    {ts ts' : List String} (hts : List.Forall₂ R ts ts') :
    R (Text.join separator ts) (Text.join separator ts') := by
  induction hts with
  | nil => exact h.empty
  | cons ht hts ih =>
    -- the separator stands only in front of a further text
    cases hts with
    | nil => exact ht
    | cons hu hus => exact h.around ht hseparator ih

/-- Empty texts are left out on both sides, for a text is empty exactly if its counterpart is. -/
theorem filter_nonempty (h : Compositional R) {ts ts' : List String} (hts : List.Forall₂ R ts ts') :
    List.Forall₂ R (ts.filter (· ≠ "")) (ts'.filter (· ≠ "")) := by
  induction hts with
  | nil => exact .nil
  | @cons t t' ts ts' ht hts ih =>
    by_cases hempty : t = ""
    · have hempty' : t' = "" := (h.empty_iff ht).mp hempty
      rwa [List.filter_cons_of_neg (by simpa using hempty),
        List.filter_cons_of_neg (by simpa using hempty')]
    · have hempty' : t' ≠ "" := fun he => hempty ((h.empty_iff ht).mpr he)
      rw [List.filter_cons_of_pos (by simpa using hempty),
        List.filter_cons_of_pos (by simpa using hempty')]
      exact .cons ht ih

theorem concatenate (h : Compositional R) {ts ts' : List String} (hts : List.Forall₂ R ts ts') :
    R (QueryBuilder.concatenate ts) (QueryBuilder.concatenate ts') :=
  h.join (by decide) (h.filter_nonempty hts)

/-- A keyword stands in front of both texts or of neither. -/
theorem keyword (h : Compositional R) {word : String} (hword : Bare (word ++ " ")) (hs : R s s') :
    R (QueryBuilder.keyword word s) (QueryBuilder.keyword word s') := by
  unfold QueryBuilder.keyword
  -- whether the keyword is written depends on the text behind it
  by_cases hempty : s = ""
  · rw [if_pos hempty, if_pos ((h.empty_iff hs).mp hempty)]
    exact h.empty
  · rw [if_neg hempty, if_neg fun he => hempty ((h.empty_iff hs).mpr he)]
    exact h.after hword hs

/-! ## Predicates -/

theorem comparison (h : Compositional R) {t t' : String} (hs : R s s') (hop : R operator operator')
    (ht : R t t') : R (s ++ " " ++ operator ++ " " ++ t) (s' ++ " " ++ operator' ++ " " ++ t') :=
  h.around (h.around hs (by decide) hop) (by decide) ht

/-- Comparisons with operands in relation. -/
theorem compare (h : Compositional R) (hc : R (d.column c) (d'.column c'))
    (hop : R operator operator') (ho : R o.sql o'.sql) :
    R (predicateText d (.compare c operator o)) (predicateText d' (.compare c' operator' o')) := by
  rw [predicateText, predicateText]
  exact h.comparison hc hop ho

/-- Comparisons of columns in relation. -/
theorem compareColumns (h : Compositional R) {second second' : Column}
    (hc : R (d.column c) (d'.column c')) (hop : R operator operator')
    (hsecond : R (d.column second) (d'.column second')) :
    R (predicateText d (.compareColumns c operator second))
      (predicateText d' (.compareColumns c' operator' second')) := by
  rw [predicateText, predicateText]
  exact h.comparison hc hop hsecond

/-- Tests for null of columns in relation. -/
theorem isNull (h : Compositional R) (negated : Bool) (hc : R (d.column c) (d'.column c')) :
    R (predicateText d (.isNull negated c)) (predicateText d' (.isNull negated c')) := by
  rw [predicateText, predicateText]
  refine h.before hc ?_
  cases negated <;> decide

theorem raw (hs : R s s') : R (predicateText d (.raw s)) (predicateText d' (.raw s')) := by
  rwa [predicateText, predicateText]

/-- Lists of candidates in relation. Nothing of the column is written where the list is empty. -/
theorem isIn (h : Compositional R) (negated : Bool) {os os' : List Operand}
    (hc : R (d.column c) (d'.column c'))
    (hos : List.Forall₂ R (os.map Operand.sql) (os'.map Operand.sql)) :
    R (predicateText d (.isIn negated c os)) (predicateText d' (.isIn negated c' os')) := by
  rw [predicateText, predicateText, Dialect.isInText, Dialect.isInText,
    isEmpty_eq_of_forall₂_map hos]
  split
  · refine h.word ?_
    cases negated <;> decide
  · -- the opening parenthesis is part of the word before it, and has to be split off
    have hlist : R (Operand.sqlList os) (Operand.sqlList os') := h.join (by decide) hos
    have hword : (if negated then " not in (" else " in (") =
        (if negated then " not in " else " in ") ++ "(" := by
      cases negated <;> decide
    have hbare : Bare (if negated then " not in " else " in ") := by cases negated <;> decide
    rw [hword, ← String.append_assoc, ← String.append_assoc]
    exact h.call (h.before hc hbare) hlist

/-- Ranges in relation. -/
theorem between (h : Compositional R) (negated : Bool) {low low' high high' : Operand}
    (hc : R (d.column c) (d'.column c')) (hlow : R low.sql low'.sql)
    (hhigh : R high.sql high'.sql) :
    R (predicateText d (.between negated c low high))
      (predicateText d' (.between negated c' low' high')) := by
  rw [predicateText, predicateText]
  have hword := h.word (bare_betweenWord negated)
  have hleft := h.append (h.append hc hword) hlow
  simpa only [String.append_assoc] using h.around hleft (by decide : Bare " and ") hhigh

/-- Ranges between columns in relation. -/
theorem betweenColumns (h : Compositional R) (negated : Bool) {low low' high high' : Column}
    (hc : R (d.column c) (d'.column c')) (hlow : R (d.column low) (d'.column low'))
    (hhigh : R (d.column high) (d'.column high')) :
    R (predicateText d (.betweenColumns negated c low high))
      (predicateText d' (.betweenColumns negated c' low' high')) := by
  rw [predicateText, predicateText]
  have hword := h.word (bare_betweenWord negated)
  have hleft := h.append (h.append hc hword) hlow
  simpa only [String.append_assoc] using h.around hleft (by decide : Bare " and ") hhigh

/-- A comparison of a part of a date is written in two ways, so both sides are of one dialect. -/
theorem datePart (h : Compositional R) (part : DatePart) (hc : R (d.column c) (d.column c'))
    (hop : R operator operator') (ho : R o.sql o'.sql) :
    R (predicateText d (.datePart part c operator o))
      (predicateText d (.datePart part c' operator' o')) := by
  have hname : Bare part.sql := by cases part <;> decide
  have hformat : Bare ("'" ++ part.format ++ "', ") := by cases part <;> decide
  have hcall : R (part.sql ++ "(" ++ d.column c ++ ")" ++ " " ++ operator ++ " " ++ o.sql)
      (part.sql ++ "(" ++ d.column c' ++ ")" ++ " " ++ operator' ++ " " ++ o'.sql) :=
    h.comparison (h.call (h.word hname) hc) hop ho
  have hstrftime : R ("strftime" ++ "(" ++ ("'" ++ part.format ++ "', " ++ d.column c) ++ ")")
      ("strftime" ++ "(" ++ ("'" ++ part.format ++ "', " ++ d.column c') ++ ")") :=
    h.call (h.word (by decide)) (h.after hformat hc)
  have hcast : R ("cast" ++ "(" ++ (o.sql ++ " as text") ++ ")")
      ("cast" ++ "(" ++ (o'.sql ++ " as text") ++ ")") :=
    h.call (h.word (by decide)) (h.before ho (by decide))
  have hformatted := h.comparison hstrftime hop hcast
  rw [predicateText, predicateText]
  -- the words are written in one piece with the parentheses and spaces beside them
  have hclose : (") " : String) = ")" ++ " " := by decide
  cases d with
  | sqlite =>
    have hopen : ("strftime('" : String) = "strftime" ++ "(" ++ "'" := by decide
    have hbefore : (" cast(" : String) = " " ++ ("cast" ++ "(") := by decide
    have hafter : (" as text)" : String) = " as text" ++ ")" := by decide
    show R ("strftime('" ++ part.format ++ "', " ++ _ ++ ") " ++ operator ++ " cast(" ++ o.sql ++
        " as text)")
      ("strftime('" ++ part.format ++ "', " ++ _ ++ ") " ++ operator' ++ " cast(" ++ o'.sql ++
        " as text)")
    rw [hopen, hbefore, hafter, hclose]
    simpa only [String.append_assoc] using hformatted
  | mysql =>
    show R (part.sql ++ "(" ++ _ ++ ") " ++ operator ++ " " ++ o.sql)
      (part.sql ++ "(" ++ _ ++ ") " ++ operator' ++ " " ++ o'.sql)
    rw [hclose]
    simpa only [String.append_assoc] using hcall
  | plain =>
    show R (part.sql ++ "(" ++ _ ++ ") " ++ operator ++ " " ++ o.sql)
      (part.sql ++ "(" ++ _ ++ ") " ++ operator' ++ " " ++ o'.sql)
    rw [hclose]
    simpa only [String.append_assoc] using hcall

/-- Comparisons with sub-queries whose statements are in relation. -/
theorem compareQuery (h : Compositional R) {q q' : Query} (hc : R (d.column c) (d'.column c'))
    (hop : R operator operator') (hq : R (q.textIn d) (q'.textIn d')) :
    R (predicateText d (.compareQuery c operator q))
      (predicateText d' (.compareQuery c' operator' q')) := by
  rw [predicateText, predicateText]
  have hword : (" (" : String) = " " ++ "(" := by decide
  rw [hword, ← String.append_assoc, ← String.append_assoc]
  exact h.call (h.before (h.around hc (by decide : Bare " ") hop) (by decide : Bare " ")) hq

/-- Tests for the rows of sub-queries whose statements are in relation. -/
theorem «exists» (h : Compositional R) (negated : Bool) {q q' : Query}
    (hq : R (q.textIn d) (q'.textIn d')) :
    R (predicateText d (.exists negated q)) (predicateText d' (.exists negated q')) := by
  rw [predicateText, predicateText]
  have hword : (if negated then "not exists (" else "exists (") =
      (if negated then "not exists " else "exists ") ++ "(" := by
    cases negated <;> decide
  have hbare : Bare (if negated then "not exists " else "exists ") := by cases negated <;> decide
  rw [hword]
  exact h.call (h.word hbare) hq

/-! ## Conditions, joins, unions and orderings -/

theorem conditions (h : Compositional R) {ws ws' : List Condition}
    (hws : List.Forall₂ R (conditionTexts d ws) (conditionTexts d' ws')) :
    R (conditionsText d ws) (conditionsText d' ws') :=
  h.dropConnector (h.join (by decide) hws)

/-- Groups of conditions in relation. -/
theorem group (h : Compositional R) {ws ws' : List Condition}
    (hws : List.Forall₂ R (conditionTexts d ws) (conditionTexts d' ws')) :
    R (predicateText d (.group ws)) (predicateText d' (.group ws')) := by
  rw [predicateText, predicateText]
  exact h.parenthesized (h.conditions hws)

/-- A predicate with the same connector in front. -/
theorem condition (h : Compositional R) (connector : Connector) {p p' : Predicate}
    (hp : R (predicateText d p) (predicateText d' p')) :
    List.Forall₂ R (conditionTexts d [⟨connector, p⟩]) (conditionTexts d' [⟨connector, p'⟩]) := by
  have hconnector : Bare (connector.sql ++ " ") := by cases connector <;> decide
  simpa [conditionTexts] using h.after hconnector hp

/-- Joins of one kind, with sources, conditions and inner joins in relation. -/
theorem joined (h : Compositional R) (kind : JoinKind) {source source' : Source}
    {ws ws' : List Condition} {joins joins' : List Join}
    (hsource : R (d.source source) (d'.source source'))
    (hws : List.Forall₂ R (conditionTexts d ws) (conditionTexts d' ws'))
    (hjoins : List.Forall₂ R (joinTexts d joins) (joinTexts d' joins')) :
    List.Forall₂ R (joinTexts d [⟨kind, source, ws, joins⟩])
      (joinTexts d' [⟨kind, source', ws', joins'⟩]) := by
  -- both sources stand in parentheses with the joins inside, or neither does
  have hempty : joins'.isEmpty = joins.isEmpty := by
    simpa only [isEmpty_joinTexts] using isEmpty_eq_of_forall₂ hjoins
  have htarget : R
      (if joins.isEmpty then d.source source
        else "(" ++ d.source source ++ " " ++ Text.join " " (joinTexts d joins) ++ ")")
      (if joins'.isEmpty then d'.source source'
        else "(" ++ d'.source source' ++ " " ++ Text.join " " (joinTexts d' joins') ++ ")") := by
    rw [hempty]
    split
    · exact hsource
    · have hinner := h.around hsource (by decide : Bare " ") (h.join (by decide : Bare " ") hjoins)
      simpa only [String.append_assoc] using h.parenthesized hinner
  have hkind : Bare (kind.sql ++ " join ") := by cases kind <;> decide
  have hon := h.keyword (by decide : Bare ("on" ++ " ")) (h.conditions hws)
  have htext := h.trim (h.around (h.after hkind htarget) (by decide : Bare " ") hon)
  simpa [joinTexts, conditionsText] using htext

/-- Further queries whose statements are in relation. -/
theorem united (h : Compositional R) (all : Bool) {q q' : Query}
    (hq : R (q.textIn d) (q'.textIn d')) :
    List.Forall₂ R (unionTexts d [⟨all, q⟩]) (unionTexts d' [⟨all, q'⟩]) := by
  have hword : Bare (if all then "union all " else "union ") := by cases all <;> decide
  simpa [unionTexts, Dialect.parenthesized, Query.textIn] using h.after hword (h.parenthesized hq)

/-- Orderings by columns in relation, in one direction. -/
theorem sortKey_column (h : Compositional R) (hc : R (d.column c) (d'.column c'))
    (direction : Direction) :
    R (d.sortKeyText (.column c direction)) (d'.sortKeyText (.column c' direction)) := by
  have hword : Bare (" " ++ direction.sql) := by cases direction <;> decide
  simpa only [Dialect.sortKeyText, String.append_assoc] using h.before hc hword

/-- Lists of orderings in relation. -/
theorem orders (h : Compositional R) {ks ks' : List SortKey}
    (hks : List.Forall₂ R (ks.map d.sortKeyText) (ks'.map d'.sortKeyText)) :
    R (d.ordersText ks) (d'.ordersText ks') := by
  unfold Dialect.ordersText
  rw [isEmpty_eq_of_forall₂_map hks]
  split
  · exact h.empty
  · exact h.after (by decide) (h.join (by decide) hks)

theorem columns (h : Compositional R) {cs cs' : List Column}
    (hcs : List.Forall₂ R (cs.map d.column) (cs'.map d'.column)) :
    R (d.columns cs) (d'.columns cs') :=
  h.join (by decide) hcs

/-- All columns are selected where none is named. -/
theorem selection (h : Compositional R) (distinct : Bool) {cs cs' : List Column}
    (hcs : List.Forall₂ R (cs.map d.column) (cs'.map d'.column)) :
    R (d.columnsText distinct cs) (d'.columnsText distinct cs') := by
  have hword : Bare (if distinct then "select distinct " else "select ") := by
    cases distinct <;> decide
  have hstar : d.columns [Column.star] = "*" ∧ d'.columns [Column.star] = "*" := by
    cases d <;> cases d' <;> decide
  unfold Dialect.columnsText
  rw [isEmpty_eq_of_forall₂_map hcs]
  refine h.after hword ?_
  split
  · rw [hstar.1, hstar.2]
    exact h.word (by decide)
  · exact h.columns hcs

/-- Lists of groupings in relation. -/
theorem groups (h : Compositional R) {cs cs' : List Column}
    (hcs : List.Forall₂ R (cs.map d.column) (cs'.map d'.column)) :
    R (d.groupsText cs) (d'.groupsText cs') := by
  unfold Dialect.groupsText
  rw [isEmpty_eq_of_forall₂_map hcs]
  split
  · exact h.empty
  · exact h.after (by decide) (h.columns hcs)

/-- Sources in relation, or none on either side. -/
theorem source (h : Compositional R) {o o' : Option Source}
    (ho : Option.Rel R (o.map d.source) (o'.map d'.source)) :
    R (d.sourceText o) (d'.sourceText o') := by
  cases o with
  | none => cases o' with
    | none => exact h.empty
    | some s' => nomatch ho
  | some s => cases o' with
    | none => nomatch ho
    | some s' =>
      cases ho with
      | some hs => exact h.after (by decide) hs

end Compositional

/-! ## Queries -/

/-- Orderings in relation, and the same window. -/
structure Tail.Alike (R : String → String → Prop) (d d' : Dialect) (t t' : Tail) : Prop where
  orders : List.Forall₂ R (t.orders.map d.sortKeyText) (t'.orders.map d'.sortKeyText)
  limit : t'.limit = t.limit
  offset : t'.offset = t.offset

/-- Without aggregates, and with members in relation clause by clause. -/
structure Query.Alike (R : String → String → Prop) (d d' : Dialect) (q q' : Query) : Prop where
  plain : q.aggregate = none ∧ q'.aggregate = none
  distinct : q'.distinct = q.distinct
  columns : List.Forall₂ R (q.columns.map d.column) (q'.columns.map d'.column)
  joins : List.Forall₂ R (joinTexts d q.joins) (joinTexts d' q'.joins)
  wheres : List.Forall₂ R (conditionTexts d q.wheres) (conditionTexts d' q'.wheres)
  groups : List.Forall₂ R (q.groups.map d.column) (q'.groups.map d'.column)
  havings : List.Forall₂ R (conditionTexts d q.havings) (conditionTexts d' q'.havings)
  tail : q.tail.Alike R d d' q'.tail
  unions : List.Forall₂ R (unionTexts d q.unions) (unionTexts d' q'.unions)
  unionTail : q.unionTail.Alike R d d' q'.unionTail

namespace Compositional

variable {R : String → String → Prop} {d d' : Dialect} {q q' : Query}

/-- The orderings, the limit and the offset behind a select or a union. -/
theorem window (h : Compositional R) {t t' : Tail} (ht : t.Alike R d d' t') :
    List.Forall₂ R [d.ordersText t.orders, Dialect.limitText t.limit, Dialect.offsetText t.offset]
      [d'.ordersText t'.orders, Dialect.limitText t'.limit, Dialect.offsetText t'.offset] := by
  rw [ht.limit, ht.offset]
  have hlimit := h.word (bare_limitText t.limit)
  have hoffset := h.word (bare_offsetText t.offset)
  exact .cons (h.orders ht.orders) (.cons hlimit (.cons hoffset .nil))

/-- The statements without their unions. Every clause is put together by its own lemma. -/
theorem baseText (h : Compositional R) (hq : q.Alike R d d' q')
    (hsource : Option.Rel R (q.source.map d.source) (q'.source.map d'.source)) :
    R (d.baseText none q.columns q.distinct q.source (joinsText d q.joins)
        (conditionsText d q.wheres) q.groups (conditionsText d q.havings) q.tail)
      (d'.baseText none q'.columns q'.distinct q'.source (joinsText d' q'.joins)
        (conditionsText d' q'.wheres) q'.groups (conditionsText d' q'.havings) q'.tail) := by
  unfold Dialect.baseText
  refine h.concatenate ?_
  have hselection := h.selection q.distinct hq.columns
  rw [← hq.distinct] at hselection ⊢
  have hjoins : R (joinsText d q.joins) (joinsText d' q'.joins) := h.join (by decide) hq.joins
  have hwheres := h.keyword (by decide : Bare ("where" ++ " ")) (h.conditions hq.wheres)
  have hhavings := h.keyword (by decide : Bare ("having" ++ " ")) (h.conditions hq.havings)
  exact .cons hselection <| .cons (h.source hsource) <| .cons hjoins <| .cons hwheres <|
    .cons (h.groups hq.groups) <| .cons hhavings <| h.window hq.tail

theorem unionTexts_isEmpty (hq : q.Alike R d d' q') : q'.unions.isEmpty = q.unions.isEmpty := by
  simpa only [isEmpty_unionTexts] using isEmpty_eq_of_forall₂ hq.unions

/-- The statements of queries with members in relation. -/
theorem textIn (h : Compositional R) (hq : q.Alike R d d' q')
    (hsource : Option.Rel R (q.source.map d.source) (q'.source.map d'.source)) :
    R (q.textIn d) (q'.textIn d') := by
  have hbase := h.baseText hq hsource
  rw [Query.textIn_eq_body (.inl hq.plain.1), Query.textIn_eq_body (.inl hq.plain.2), hq.plain.1,
    hq.plain.2, Query.body_eq, Query.body_eq, unionTexts_isEmpty hq]
  split
  · exact hbase
  · have hunions : R (d.unionsText (unionTexts d q.unions) q.unionTail)
        (d'.unionsText (unionTexts d' q'.unions) q'.unionTail) :=
      h.concatenate (List.rel_append hq.unions (h.window hq.unionTail))
    exact h.around (h.parenthesized hbase) (by decide : Bare " ") hunions

end Compositional

end QueryBuilder
