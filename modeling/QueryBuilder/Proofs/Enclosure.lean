import QueryBuilder.Proofs.ClauseText
import QueryBuilder.Proofs.Composition

/-!
# Texts that stay inside of what encloses them

A text that is written into a statement must not end the identifier or the parentheses that it
stands in. The scan is that of the placeholders: what stands in a quoted identifier is not looked
at, and outside of identifiers parentheses are counted.

- `depthAfter`: the number of open parentheses after a scan, if none is closed that was not opened.
- `Enclosed`: a text that closes its quotes and its parentheses, and no others.
- `compositional_enclosed`: putting texts together keeps this.
- `enclosed_quoteName`: it holds of every quoted name, whatever stands in the name.
-/

namespace QueryBuilder

/-! ## Scanning -/

/-- The number of open parentheses, one character later. -/
def nextDepth (inside : Option Char) (depth : Nat) (c : Char) : Option Nat :=
  match inside with
  | some _ => some depth
  | none =>
    if c = '(' then some (depth + 1)
    else if c = ')' then (if depth = 0 then none else some (depth - 1))
    else some depth

/-- The number of open parentheses after some characters; none if one is closed that was not
opened. -/
def depthAfter : Option Char → Nat → List Char → Option Nat
  | _, depth, [] => some depth
  | inside, depth, c :: cs =>
    (nextDepth inside depth c).bind fun next => depthAfter (nextQuote inside c) next cs

/-- Every identifier and every parenthesis that the text opens is closed in it, and no other. -/
structure Enclosed (s : String) : Prop where
  closes : ClosesQuotes s
  balanced : depthAfter none 0 s.toList = some 0

instance (s : String) : Decidable (Enclosed s) :=
  decidable_of_iff (ClosesQuotes s ∧ depthAfter none 0 s.toList = some 0)
    ⟨fun h => ⟨h.1, h.2⟩, fun h => ⟨h.closes, h.balanced⟩⟩

/-! ## One text after another -/

/-- A scan of two texts goes on in the second as it left the first, unless it fails there. -/
theorem depthAfter_append (inside : Option Char) (depth : Nat) (as bs : List Char) :
    depthAfter inside depth (as ++ bs) =
      (depthAfter inside depth as).bind fun next => depthAfter (quoteAfter inside as) next bs := by
  induction as generalizing inside depth with
  | nil => rfl
  | cons c cs ih =>
    rw [List.cons_append, depthAfter, depthAfter]
    cases nextDepth inside depth c with
    | none => rfl
    | some next => exact ih (nextQuote inside c) next

/-- What is open around a character stays open. -/
theorem nextDepth_add {inside : Option Char} {depth next : Nat} {c : Char}
    (h : nextDepth inside depth c = some next) (k : Nat) :
    nextDepth inside (depth + k) c = some (next + k) := by
  unfold nextDepth at h ⊢
  grind

/-- What is open already stays open. -/
theorem depthAfter_add {inside : Option Char} {depth last : Nat} {cs : List Char}
    (h : depthAfter inside depth cs = some last) (k : Nat) :
    depthAfter inside (depth + k) cs = some (last + k) := by
  induction cs generalizing inside depth with
  | nil => exact congrArg (Option.map (· + k)) h
  | cons c cs ih =>
    rw [depthAfter] at h ⊢
    obtain ⟨next, hnext, hrest⟩ := Option.bind_eq_some_iff.mp h
    exact Option.bind_eq_some_iff.mpr ⟨next + k, nextDepth_add hnext k, ih hrest⟩

/-- Characters that open and close nothing. -/
theorem depthAfter_unparenthesized {cs : List Char} (h : ∀ c ∈ cs, c ≠ '(' ∧ c ≠ ')')
    (inside : Option Char) (depth : Nat) : depthAfter inside depth cs = some depth := by
  induction cs generalizing inside with
  | nil => rfl
  | cons c cs ih =>
    obtain ⟨hopen, hclose⟩ := h c List.mem_cons_self
    have hnext : nextDepth inside depth c = some depth := by
      cases inside <;> simp [nextDepth, hopen, hclose]
    rw [depthAfter, hnext]
    exact ih (fun d hd => h d (List.mem_cons_of_mem c hd)) (nextQuote inside c)

namespace Enclosed

variable {s t : String}

/-- An enclosed text leaves every depth as it is, not only that of nothing. -/
theorem depth (h : Enclosed s) (depth : Nat) : depthAfter none depth s.toList = some depth := by
  have hadd := depthAfter_add h.balanced depth
  rwa [Nat.zero_add] at hadd

/-- Enclosed texts side by side. -/
theorem append (hs : Enclosed s) (ht : Enclosed t) : Enclosed (s ++ t) := by
  have hquote : quoteAfter none s.toList = none := hs.closes
  constructor
  · exact ((carries_placeholders hs.closes).append (carries_placeholders ht.closes)).closes
  · rw [String.toList_append, depthAfter_append, hs.balanced, hquote]
    exact ht.balanced

/-- An enclosed text in parentheses, scanned at depth one. -/
theorem parenthesized (h : Enclosed s) : Enclosed ("(" ++ s ++ ")") := by
  have hquote : quoteAfter none s.toList = none := h.closes
  constructor
  · exact (carries_placeholders h.closes).parenthesized.closes
  · rw [String.toList_append, String.toList_append, List.append_assoc, depthAfter_append]
    show depthAfter none 1 (s.toList ++ ")".toList) = some 0
    rw [depthAfter_append, h.depth 1, hquote]
    rfl

/-- A text with neither marks nor parentheses. -/
theorem of_bare (h : Bare s) : Enclosed s where
  closes := quoteAfter_unquoted (fun c hc => (h c hc).1) (by simp)
  balanced := depthAfter_unparenthesized (fun c hc => (h c hc).2) none 0

end Enclosed

/-! ## Taking away at the ends -/

/-- What is bare may be taken away at both ends. -/
theorem Enclosed.of_bare_between {front cs back : List Char} (hfront : Bare (String.ofList front))
    (hback : Bare (String.ofList back)) (h : Enclosed (String.ofList (front ++ cs ++ back))) :
    Enclosed (String.ofList cs) := by
  obtain ⟨hopened, hlevel⟩ := Enclosed.of_bare hfront
  obtain ⟨hcloses, hbalanced⟩ := h
  unfold Bare at hback
  rw [ClosesQuotes, String.toList_ofList] at hopened hcloses
  rw [String.toList_ofList] at hlevel hbalanced hback
  have hinside : ∀ mark ∈ quoteAfter none cs, Source.isQuoteMark mark = true :=
    isQuoteMark_of_mem_quoteAfter cs (by simp)
  -- a bare text ends in whatever identifier it starts in, and at the depth it starts at
  have hlast : quoteAfter (quoteAfter none cs) back = quoteAfter none cs :=
    quoteAfter_unquoted (fun c hc => (hback c hc).1) hinside
  rw [List.append_assoc] at hcloses hbalanced
  constructor
  · rw [quoteAfter_append, quoteAfter_append, hopened, hlast] at hcloses
    rwa [ClosesQuotes, String.toList_ofList]
  · rw [depthAfter_append, hlevel, hopened, Option.bind_some, depthAfter_append] at hbalanced
    obtain ⟨depth, hdepth, hrest⟩ := Option.bind_eq_some_iff.mp hbalanced
    rw [depthAfter_unparenthesized fun c hc => (hback c hc).2] at hrest
    rwa [Option.some.inj hrest, ← String.toList_ofList (l := cs)] at hdepth

/-- Blanks are neither marks nor parentheses. -/
theorem bare_of_isBlank {cs : List Char} (h : ∀ c ∈ cs, Text.isBlank c = true) :
    Bare (String.ofList cs) := by
  intro c hc
  rw [String.toList_ofList] at hc
  have hblank := h c hc
  refine ⟨(inert_of_isBlank h c hc).1, ?_, ?_⟩ <;> rintro rfl <;> exact absurd hblank (by decide)

/-- Neither quotation marks nor parentheses have another case. -/
theorem bare_of_map_toLower {cs : List Char} (h : Bare (String.ofList (cs.map Char.toLower))) :
    Bare (String.ofList cs) := by
  intro c hc
  rw [String.toList_ofList] at hc
  have hlower := h c.toLower (by simpa using ⟨c, hc, rfl⟩)
  refine ⟨?_, ?_, ?_⟩
  · by_contra hmark
    have hcases : c = '\x60' ∨ c = '"' := by
      simpa [Source.isQuoteMark, Classical.or_iff_not_imp_left] using hmark
    rcases hcases with rfl | rfl <;> exact absurd hlower.1 (by decide)
  · rintro rfl
    exact hlower.2.1 rfl
  · rintro rfl
    exact hlower.2.2 rfl

/-- Trimming takes blanks only. -/
theorem Enclosed.trim {s : String} (h : Enclosed s) : Enclosed (Text.trim s) := by
  obtain ⟨front, back, hsplit, hfront, hback⟩ := exists_blanks_around s
  rw [← String.ofList_toList (s := s), hsplit] at h
  simpa using Enclosed.of_bare_between (bare_of_isBlank hfront) (bare_of_isBlank hback) h

/-- The connector that is taken off is a word. -/
theorem Enclosed.dropConnector {s : String} (h : Enclosed s) : Enclosed (dropConnector s) := by
  obtain ⟨front, hsplit, hfront⟩ := exists_connector_before s
  have hbare : Bare (String.ofList front) := by
    refine bare_of_map_toLower ?_
    generalize front.map Char.toLower = word at hfront
    revert word
    decide
  rw [← String.ofList_toList (s := s), hsplit, ← List.append_nil (front ++ _)] at h
  simpa using Enclosed.of_bare_between hbare (by decide) h

/-- Texts that enclose what they open are put together to such texts. -/
theorem compositional_enclosed : Compositional (Same Enclosed) where
  word hs := ⟨rfl, .of_bare hs⟩
  append := by
    rintro s _ t _ ⟨rfl, hs⟩ ⟨rfl, ht⟩
    exact ⟨rfl, hs.append ht⟩
  parenthesized := by
    rintro s _ ⟨rfl, hs⟩
    exact ⟨rfl, hs.parenthesized⟩
  empty_iff := by
    rintro s _ ⟨rfl, -⟩
    rfl
  trim := by
    rintro s _ ⟨rfl, hs⟩
    exact ⟨rfl, hs.trim⟩
  dropConnector := by
    rintro s _ ⟨rfl, hs⟩
    exact ⟨rfl, hs.dropConnector⟩

/-! ## Names -/

/-- Parentheses inside an identifier are not looked at. -/
theorem depthAfter_doubleMark {mark : Char} (hmark : Source.isQuoteMark mark = true) (depth : Nat)
    (cs : List Char) : depthAfter (some mark) depth (doubleMark mark cs) = some depth := by
  have hopen : mark ≠ '(' := by
    rintro rfl
    simp [Source.isQuoteMark] at hmark
  have hclose : mark ≠ ')' := by
    rintro rfl
    simp [Source.isQuoteMark] at hmark
  induction cs with
  | nil => rfl
  | cons c cs ih =>
    by_cases hc : c = mark
    · -- between the two marks the scan is outside, but there is nothing between them
      simpa [doubleMark, hc, depthAfter, nextDepth, nextQuote, hmark, hopen, hclose] using ih
    · simpa [doubleMark, hc, depthAfter, nextDepth, nextQuote] using ih

/-- An identifier between quotation marks is closed, whatever its characters. -/
theorem enclosed_quoteChars (d : Dialect) (cs : List Char) :
    Enclosed (String.ofList (d.quoteChars cs)) := by
  refine ⟨(carries_quoteChars d cs).closes, ?_⟩
  rw [String.toList_ofList]
  unfold Dialect.quoteChars
  split
  · next hstar =>
    subst hstar
    decide
  · have hmark := d.isQuoteMark_quoteMark
    have hopen : nextQuote none d.quoteMark = some d.quoteMark := by simp [nextQuote, hmark]
    have hdepth : nextDepth none 0 d.quoteMark = some 0 := by cases d <;> decide
    have hname : quoteAfter none (d.quoteMark :: doubleMark d.quoteMark cs) = some d.quoteMark := by
      show quoteAfter (nextQuote none d.quoteMark) _ = _
      rw [hopen, quoteAfter_doubleMark hmark]
    rw [depthAfter_append, depthAfter, hdepth, hopen, Option.bind_some, depthAfter_doubleMark hmark,
      Option.bind_some, hname]
    rfl

/-- A quoted name is enclosed, whatever stands in it. -/
theorem enclosed_quote (d : Dialect) (s : String) : Enclosed (d.quote s) :=
  enclosed_quoteChars d s.toList

/-- So is a name in segments. -/
theorem enclosed_quoteDotted (d : Dialect) (name : List Char) : Enclosed (d.quoteDotted name) := by
  have hparts : ∀ t ∈ (Text.pieces '.' name).map fun part => String.ofList (d.quoteChars part),
      Enclosed t := by
    intro t ht
    obtain ⟨part, -, rfl⟩ := List.mem_map.mp ht
    exact enclosed_quoteChars d part
  exact (compositional_enclosed.join (by decide) (forall₂_same_iff.mpr hparts)).2

theorem enclosed_quoteWithAlias (d : Dialect) (name rest : List Char) :
    Enclosed (d.quoteWithAlias name rest) :=
  ((enclosed_quoteDotted d name).append (by decide : Enclosed " as ")).append
    (enclosed_quoteChars d rest)

/-- A quoted name is enclosed, with a label or without one. -/
theorem enclosed_quoteName (d : Dialect) (s : String) : Enclosed (d.quoteName s) := by
  unfold Dialect.quoteName
  split
  · exact enclosed_quoteDotted d _
  · exact enclosed_quoteWithAlias d _ _

end QueryBuilder
