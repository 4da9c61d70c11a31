import Mathlib.Algebra.GroupWithZero.Nat
import QueryBuilder.Query.Select

/-!
# Placeholders in a text

A statement is scanned from left to right. A back-tick or a double quote opens a quoted identifier
and the same character closes it; a question mark outside quoted identifiers is a placeholder.

- `quoteAfter`: the quotation mark of the identifier that a scan is inside of.
- `ClosesQuotes`: a text closes every identifier that it opens.
- `placeholders`: how many placeholders a text has.
- `Carries s n`: `s` closes its quotes and has `n` placeholders. Texts that close their quotes can
  be put side by side without disturbing one another (`Carries.append`), so this is the form in
  which every fact about a part of a statement is stated.
- `CarriesAll`: the same for a list of texts, whatever is written between them
  (`CarriesAll.join`, `CarriesAll.concatenate`).
-/

namespace QueryBuilder

/-! ## Scanning -/

/-- The quotation mark of the identifier that a scan is inside of, one character later. -/
def nextQuote (inside : Option Char) (c : Char) : Option Char :=
  match inside with
  | none => if Source.isQuoteMark c then some c else none
  | some mark => if c = mark then none else some mark

/-- The quotation mark of the identifier that a scan is inside of, after some characters. -/
def quoteAfter (inside : Option Char) (cs : List Char) : Option Char :=
  cs.foldl nextQuote inside

/-- The placeholders that a scan meets. -/
def placeholdersFrom : Option Char → List Char → Nat
  | _, [] => 0
  | inside, c :: cs =>
    (if inside = none ∧ c = '?' then 1 else 0) + placeholdersFrom (nextQuote inside c) cs

/-- Every quoted identifier that the text opens is closed in it. -/
def ClosesQuotes (s : String) : Prop :=
  quoteAfter none s.toList = none

/-- The number of placeholders in a text. -/
def placeholders (s : String) : Nat :=
  placeholdersFrom none s.toList

/-- A text that closes its quotes and has `n` placeholders. -/
structure Carries (s : String) (n : Nat) : Prop where
  closes : ClosesQuotes s
  count : placeholders s = n

instance (s : String) : Decidable (ClosesQuotes s) :=
  inferInstanceAs (Decidable (quoteAfter none s.toList = none))

instance (s : String) (n : Nat) : Decidable (Carries s n) :=
  decidable_of_iff (ClosesQuotes s ∧ placeholders s = n)
    ⟨fun h => ⟨h.1, h.2⟩, fun h => ⟨h.closes, h.count⟩⟩

/-- A text that closes its quotes carries as many placeholders as it has. -/
theorem carries_placeholders {s : String} (h : ClosesQuotes s) : Carries s (placeholders s) :=
  ⟨h, rfl⟩

/-! ## One text after another -/

/-- A scan of two texts goes on in the second as it left the first. -/
theorem quoteAfter_append (inside : Option Char) (as bs : List Char) :
    quoteAfter inside (as ++ bs) = quoteAfter (quoteAfter inside as) bs :=
  List.foldl_append

/-- The placeholders of two texts, the second scanned from where the first leaves off. -/
theorem placeholdersFrom_append (inside : Option Char) (as bs : List Char) :
    placeholdersFrom inside (as ++ bs) =
      placeholdersFrom inside as + placeholdersFrom (quoteAfter inside as) bs := by
  -- the state of the scan changes with every character
  induction as generalizing inside with
  | nil => simp [placeholdersFrom, quoteAfter]
  | cons c cs ih =>
    rw [List.cons_append, placeholdersFrom, placeholdersFrom, ih (nextQuote inside c)]
    show _ = _ + placeholdersFrom (quoteAfter (nextQuote inside c) cs) bs
    omega

/-- A text that closes its quotes leaves the scan of what follows alone. -/
theorem Carries.append {s t : String} {m n : Nat} (hs : Carries s m) (ht : Carries t n) :
    Carries (s ++ t) (m + n) := by
  have hcloses : quoteAfter none s.toList = none := hs.closes
  constructor
  · show quoteAfter none (s ++ t).toList = none
    rw [String.toList_append, quoteAfter_append, hcloses]
    exact ht.closes
  · show placeholdersFrom none (s ++ t).toList = m + n
    have hm : placeholdersFrom none s.toList = m := hs.count
    have hn : placeholdersFrom none t.toList = n := ht.count
    rw [String.toList_append, placeholdersFrom_append, hcloses, hm, hn]

theorem carries_empty : Carries "" 0 := by decide

theorem carries_mark : Carries "?" 1 := by decide

theorem carries_space : Carries " " 0 := by decide

/-! ## Characters without meaning to a scan -/

/-- Characters that neither quote nor mark a place. -/
def Inert (cs : List Char) : Prop :=
  ∀ c ∈ cs, Source.isQuoteMark c = false ∧ c ≠ '?'

/-- Only three characters are not inert. -/
theorem inert_of_ne {cs : List Char} (h : ∀ c ∈ cs, c ≠ '\x60' ∧ c ≠ '"' ∧ c ≠ '?') : Inert cs := by
  intro c hc
  obtain ⟨hback, hdouble, hmark⟩ := h c hc
  constructor
  · simp [Source.isQuoteMark, hback, hdouble]
  · exact hmark

/-- A scan that is inside of an identifier stays there: only a quotation mark would close it. -/
theorem quoteAfter_unquoted {cs : List Char} (h : ∀ c ∈ cs, Source.isQuoteMark c = false)
    {inside : Option Char} (hin : ∀ mark ∈ inside, Source.isQuoteMark mark = true) :
    quoteAfter inside cs = inside := by
  induction cs with
  | nil => rfl
  | cons c cs ih =>
    have hc := h c List.mem_cons_self
    have hnext : nextQuote inside c = inside := by
      cases inside with
      | none => simp [nextQuote, hc]
      | some mark =>
        -- the mark that would close the identifier is a quotation mark, and `c` is none
        have hne : c ≠ mark := by
          rintro rfl
          simp [hin c rfl] at hc
        simp [nextQuote, hne]
    show quoteAfter (nextQuote inside c) cs = inside
    rw [hnext]
    exact ih fun d hd => h d (List.mem_cons_of_mem c hd)

/-- Inert characters leave the state of the scan as it is. -/
theorem quoteAfter_inert {cs : List Char} (h : Inert cs) {inside : Option Char}
    (hin : ∀ mark ∈ inside, Source.isQuoteMark mark = true) : quoteAfter inside cs = inside :=
  quoteAfter_unquoted (fun c hc => (h c hc).1) hin

/-- There are no placeholders among inert characters. -/
theorem placeholdersFrom_inert {cs : List Char} (h : Inert cs) (inside : Option Char) :
    placeholdersFrom inside cs = 0 := by
  induction cs generalizing inside with
  | nil => rfl
  | cons c cs ih =>
    have hc := (h c List.mem_cons_self).2
    have hrest := ih (fun d hd => h d (List.mem_cons_of_mem c hd)) (nextQuote inside c)
    simp [placeholdersFrom, hc, hrest]

/-- An inert text carries nothing. -/
theorem carries_of_inert {s : String} (h : Inert s.toList) : Carries s 0 :=
  ⟨quoteAfter_inert h (by simp), placeholdersFrom_inert h none⟩

/-- A scan is inside of an identifier of the library's own quotation marks. -/
theorem isQuoteMark_of_mem_quoteAfter (cs : List Char) {inside : Option Char}
    (hin : ∀ mark ∈ inside, Source.isQuoteMark mark = true) :
    ∀ mark ∈ quoteAfter inside cs, Source.isQuoteMark mark = true := by
  induction cs generalizing inside with
  | nil => exact hin
  | cons c cs ih =>
    refine ih ?_
    -- outside of identifiers a mark opens one; inside, the old mark stays or is closed
    cases inside with
    | none =>
      intro mark hmark
      by_cases hc : Source.isQuoteMark c = true
      · have heq : c = mark := by simpa [nextQuote, hc] using hmark
        exact heq ▸ hc
      · simp [nextQuote, hc] at hmark
    | some old =>
      intro mark hmark
      by_cases hc : c = old
      · simp [nextQuote, hc] at hmark
      · have heq : old = mark := by simpa [nextQuote, hc] using hmark
        exact hin mark (by simp [heq])

/-- Inert characters may be taken away in front. -/
theorem Carries.of_inert_append {as bs : List Char} {n : Nat} (ha : Inert as)
    (h : Carries (String.ofList (as ++ bs)) n) : Carries (String.ofList bs) n := by
  have hq : quoteAfter none as = none := quoteAfter_inert ha (by simp)
  have hcloses := h.closes
  have hcount := h.count
  simp only [ClosesQuotes, placeholders, String.toList_ofList, quoteAfter_append,
    placeholdersFrom_append, hq, placeholdersFrom_inert ha, Nat.zero_add] at hcloses hcount
  exact ⟨by simpa [ClosesQuotes] using hcloses, by simpa [placeholders] using hcount⟩

/-- Inert characters may be taken away at the end. There the scan may be inside of an identifier, as
long as only `h` says that it is not. -/
theorem Carries.of_append_inert {as bs : List Char} {n : Nat} (hb : Inert bs)
    (h : Carries (String.ofList (as ++ bs)) n) : Carries (String.ofList as) n := by
  have hq : quoteAfter (quoteAfter none as) bs = quoteAfter none as :=
    quoteAfter_inert hb (isQuoteMark_of_mem_quoteAfter as (by simp))
  have hcloses := h.closes
  have hcount := h.count
  simp only [ClosesQuotes, placeholders, String.toList_ofList, quoteAfter_append,
    placeholdersFrom_append, hq, placeholdersFrom_inert hb, Nat.add_zero] at hcloses hcount
  exact ⟨by simpa [ClosesQuotes] using hcloses, by simpa [placeholders] using hcount⟩

/-! ## Lists of texts -/

/-- Texts that close their quotes and have `n` placeholders together. -/
structure CarriesAll (ts : List String) (n : Nat) : Prop where
  closes : ∀ t ∈ ts, ClosesQuotes t
  count : (ts.map placeholders).sum = n

theorem CarriesAll.nil : CarriesAll [] 0 :=
  ⟨by simp, rfl⟩

/-- No texts carry nothing. -/
theorem CarriesAll.eq_zero {α : Type} {f : α → String} {as : List α} {n : Nat}
    (h : CarriesAll (as.map f) n) (hempty : as.isEmpty = true) : n = 0 := by
  rw [List.isEmpty_iff] at hempty
  subst hempty
  exact h.count.symm

/-- One more text in front. -/
theorem CarriesAll.cons {t : String} {ts : List String} {m n : Nat} (h : Carries t m)
    (hs : CarriesAll ts n) : CarriesAll (t :: ts) (m + n) := by
  constructor
  · intro u hu
    rcases List.mem_cons.mp hu with rfl | hu
    · exact h.closes
    · exact hs.closes u hu
  · rw [List.map_cons, List.sum_cons, h.count, hs.count]

theorem CarriesAll.singleton {t : String} {n : Nat} (h : Carries t n) : CarriesAll [t] n :=
  CarriesAll.cons h CarriesAll.nil

/-- Two lists of texts, one behind the other. -/
theorem CarriesAll.append {ts us : List String} {m n : Nat} (ht : CarriesAll ts m)
    (hu : CarriesAll us n) : CarriesAll (ts ++ us) (m + n) := by
  constructor
  · intro v hv
    rcases List.mem_append.mp hv with hv | hv
    · exact ht.closes v hv
    · exact hu.closes v hv
  · rw [List.map_append, List.sum_append, ht.count, hu.count]

/-- The total of a list is what its first text carries and what the rest carry. -/
theorem CarriesAll.head {t : String} {ts : List String} {n : Nat} (h : CarriesAll (t :: ts) n) :
    ∃ m k, m + k = n ∧ Carries t m ∧ CarriesAll ts k := by
  refine ⟨placeholders t, (ts.map placeholders).sum, ?_, ?_, ?_⟩
  · simpa using h.count
  · exact carries_placeholders (h.closes t List.mem_cons_self)
  · exact ⟨fun u hu => h.closes u (List.mem_cons_of_mem t hu), rfl⟩

/-- Texts that carry nothing carry nothing together. -/
theorem carriesAll_zero {ts : List String} (h : ∀ t ∈ ts, Carries t 0) : CarriesAll ts 0 := by
  induction ts with
  | nil => exact CarriesAll.nil
  | cons t ts ih =>
    exact CarriesAll.cons (h t List.mem_cons_self) (ih fun u hu => h u (List.mem_cons_of_mem t hu))

/-- A separator without placeholders adds none. -/
theorem CarriesAll.join {separator : String} (hsep : Carries separator 0) {ts : List String}
    {n : Nat} (h : CarriesAll ts n) : Carries (Text.join separator ts) n := by
  induction ts generalizing n with
  | nil =>
    have hn : n = 0 := by simpa using h.count.symm
    exact hn ▸ carries_empty
  | cons t ts ih =>
    obtain ⟨m, k, rfl, ht, hts⟩ := h.head
    -- the separator stands only in front of a further text
    cases ts with
    | nil =>
      have hk : k = 0 := by simpa using hts.count.symm
      exact hk ▸ ht
    | cons u us =>
      rw [Text.join_cons_cons]
      exact (ht.append hsep).append (ih hts)

/-- Empty texts may be left out. -/
theorem CarriesAll.filter_nonempty {ts : List String} {n : Nat} (h : CarriesAll ts n) :
    CarriesAll (ts.filter (· ≠ "")) n := by
  induction ts generalizing n with
  | nil => exact h
  | cons t ts ih =>
    obtain ⟨m, k, rfl, ht, hts⟩ := h.head
    by_cases hempty : t = ""
    · subst hempty
      have hm : m = 0 := ht.count.symm
      simpa [hm] using ih hts
    · rw [List.filter_cons_of_pos (by simpa using hempty)]
      exact CarriesAll.cons ht (ih hts)

/-- Clauses that are put together carry what they carry one by one. -/
theorem CarriesAll.concatenate {ts : List String} {n : Nat} (h : CarriesAll ts n) :
    Carries (QueryBuilder.concatenate ts) n :=
  CarriesAll.join (by decide) h.filter_nonempty

end QueryBuilder
