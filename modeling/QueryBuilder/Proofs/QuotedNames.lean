import QueryBuilder.Proofs.AliasSeparators
import QueryBuilder.Proofs.StatementText

/-!
# Reading quoted names

A name is written as tokens: one for each part between its dots, and one for its alias. A token is a
bare star or an identifier between quotation marks, in which a mark is written twice. The reader
below undoes this, so that nothing of a name is lost but how its alias separator was written.

Two names that are written alike are then alike: a function that can be undone is injective. The
reader looks at one character ahead, which suffices since a mark inside an identifier is followed by
a second one and the mark at its end never is.

- `Dialect.IsToken`, `tokensText`: tokens, and the text that they stand in.
- `Dialect.readToken`, `Dialect.readName`: reading them back.
- `NameParts`: the parts of a name and its alias.
- `Dialect.readName_tokensText`: what is written is read back. `Dialect.toList_quoteName`: a quoted
  name is written so.
- `quoted_name_reads_back`: quoting a name can be undone.
-/

namespace QueryBuilder

variable {mark : Char} {text identifier rest : List Char}

/-! ## Tokens -/

/-- A bare star, or an identifier between quotation marks with each mark in it written twice. -/
def Dialect.IsToken (d : Dialect) (token : List Char) : Prop :=
  token = ['*'] ∨ ∃ identifier : List Char, token =
    d.quoteMark :: (identifier.flatMap fun c => if c = d.quoteMark then [c, c] else [c]) ++
      [d.quoteMark]

/-- Tokens with dots between them, and behind the word `as` the token of an alias, if there is
one. -/
def tokensText (tokens : List (List Char)) (label : Option (List Char)) : List Char :=
  ['.'].intercalate tokens ++ match label with
    | some token => " as ".toList ++ token
    | none => []

/-- The parts of a name between its dots, and its alias: what follows its first separator. -/
inductive NameParts (cs : List Char) : List (List Char) → Option (List Char) → Prop where
  | plain (hnone : ¬ HasSeparator cs) : NameParts cs (cs.splitOn '.') none
  | labelled {name separator rest : List Char} (hfirst : FirstSeparator cs name separator rest) :
      NameParts cs (name.splitOn '.') (some rest)

/-- A dot stands between a token and those behind it. -/
theorem tokensText_cons_cons (token next : List Char) (tokens : List (List Char))
    (label : Option (List Char)) :
    tokensText (token :: next :: tokens) label =
      token ++ '.' :: tokensText (next :: tokens) label := by
  simp [tokensText, List.intercalate_cons_cons]

/-- Doubling the marks of a text replaces each character by itself, or by two marks. -/
theorem doubleMark_eq_flatMap (mark : Char) (cs : List Char) :
    doubleMark mark cs = cs.flatMap fun c => if c = mark then [c, c] else [c] := by
  induction cs with
  | nil => rfl
  | cons c cs ih =>
    rw [doubleMark, ih, List.flatMap_cons]
    split <;> rfl

/-! ## Reading -/

/-- Reads an identifier up to the mark that closes it, two marks as one, and what follows. -/
def readQuoted (mark : Char) : List Char → Option (List Char × List Char)
  | [] => none
  | c :: cs =>
    if c = mark then
      match cs with
      | [] => some ([], [])
      | e :: rest =>
        if e = mark then (readQuoted mark rest).map fun (identifier, after) =>
          (mark :: identifier, after)
        else some ([], e :: rest)
    else (readQuoted mark cs).map fun (identifier, after) => (c :: identifier, after)

/-- A character that is no mark belongs to the identifier. -/
theorem readQuoted_of_ne {c : Char} (hc : c ≠ mark) (cs : List Char) :
    readQuoted mark (c :: cs) = (readQuoted mark cs).map fun (identifier, after) =>
      (c :: identifier, after) := by
  cases cs <;> rw [readQuoted.eq_def] <;> exact if_neg hc

/-- What is read was written with each mark twice, and a closing mark behind it. -/
theorem eq_of_readQuoted (h : readQuoted mark text = some (identifier, rest)) :
    text = doubleMark mark identifier ++ mark :: rest := by
  -- one case for each way in which the reader goes on: the end, two marks, the closing mark,
  -- another character
  induction text using readQuoted.induct mark generalizing identifier with
  | case1 => exact nomatch h
  | case2 =>
    rw [readQuoted, if_pos rfl] at h
    obtain ⟨rfl, rfl⟩ := Prod.mk.inj (Option.some.inj h)
    rfl
  | case3 after ih =>
    rw [readQuoted, if_pos rfl, if_pos rfl] at h
    obtain ⟨⟨inner, last⟩, hread, hpair⟩ := Option.map_eq_some_iff.mp h
    obtain ⟨rfl, rfl⟩ := Prod.mk.inj hpair
    rw [ih hread, doubleMark, if_pos rfl]
    rfl
  | case4 e after he =>
    rw [readQuoted, if_pos rfl, if_neg he] at h
    obtain ⟨rfl, rfl⟩ := Prod.mk.inj (Option.some.inj h)
    rfl
  | case5 c after hc ih =>
    rw [readQuoted_of_ne hc] at h
    obtain ⟨⟨inner, last⟩, hread, hpair⟩ := Option.map_eq_some_iff.mp h
    obtain ⟨rfl, rfl⟩ := Prod.mk.inj hpair
    rw [ih hread, doubleMark, if_neg hc]
    rfl

/-- What was written is read back, together with what is read behind it. -/
theorem readQuoted_append (identifier text : List Char) :
    readQuoted mark (doubleMark mark identifier ++ text) =
      (readQuoted mark text).map fun (more, after) => (identifier ++ more, after) := by
  induction identifier with
  | nil => cases hread : readQuoted mark text <;> simp [doubleMark, hread]
  | cons c identifier ih =>
    -- a mark is read as two, any other character as itself
    by_cases hc : c = mark
    · simp [doubleMark, readQuoted, hc, ih, Function.comp_def]
    · simp [doubleMark, readQuoted_of_ne, hc, ih, Function.comp_def]

/-- A mark that no other mark follows closes an identifier. -/
theorem readQuoted_close (hrest : rest.head? ≠ some mark) :
    readQuoted mark (mark :: rest) = some ([], rest) := by
  cases rest with
  | nil => simp [readQuoted]
  | cons c cs =>
    have hc : c ≠ mark := fun h => hrest (congrArg some h)
    simp [readQuoted, hc]

namespace Dialect

variable {d : Dialect} {token part more label : List Char}

/-- Reads a token, and what follows. -/
def readToken (d : Dialect) : List Char → Option (List Char × List Char)
  | [] => none
  | c :: cs =>
    if c = d.quoteMark then readQuoted d.quoteMark cs
    else if c = '*' then some (['*'], cs)
    else none

/-- Reading a token uses up at least one character, so that reading a name comes to an end. -/
theorem length_of_readToken (h : d.readToken text = some (token, rest)) :
    rest.length < text.length := by
  cases text with
  | nil => exact nomatch h
  | cons c cs =>
    rw [readToken] at h
    split at h
    · rw [eq_of_readQuoted h]
      simp
      omega
    · obtain ⟨-, hpair⟩ := Option.ite_none_right_eq_some.mp h
      obtain ⟨rfl, rfl⟩ := Prod.mk.inj (Option.some.inj hpair)
      exact Nat.lt_succ_self _

/-- Reads tokens between dots up to the end, or up to the word `as` and the token of an alias. -/
def readName (d : Dialect) (text : List Char) : Option (List (List Char) × Option (List Char)) :=
  match _hread : d.readToken text with
  | some (part, []) => some ([part], none)
  | some (part, '.' :: more) => (d.readName more).map fun (parts, label) => (part :: parts, label)
  | some (part, ' ' :: 'a' :: 's' :: ' ' :: more) =>
    match d.readToken more with
    | some (label, []) => some ([part], some label)
    | _ => none
  | _ => none
termination_by text.length
decreasing_by
  have hshorter := length_of_readToken _hread
  rw [List.length_cons] at hshorter
  omega

/-- A star is a token by itself: no dialect quotes with stars. -/
theorem readToken_star (d : Dialect) (rest : List Char) :
    d.readToken ('*' :: rest) = some (['*'], rest) := by
  have hmark : '*' ≠ d.quoteMark := by cases d <;> decide
  show (if '*' = d.quoteMark then _ else if '*' = '*' then some (['*'], rest) else none) = _
  rw [if_neg hmark, if_pos rfl]

/-- An identifier is read together with what is read between its closing mark and the next one that
is not double. -/
theorem readToken_quoteChars_append (hstar : part ≠ ['*']) (text : List Char) :
    d.readToken (d.quoteChars part ++ text) =
      (readQuoted d.quoteMark (d.quoteMark :: text)).map fun (more, after) =>
        (part ++ more, after) := by
  unfold quoteChars
  rw [if_neg hstar]
  show (if d.quoteMark = d.quoteMark then readQuoted d.quoteMark (_ ++ [d.quoteMark] ++ text)
    else _) = _
  rw [if_pos rfl, List.append_assoc, readQuoted_append, List.singleton_append]

/-- A quoted part is read back if no further mark follows it. -/
theorem readToken_quoteChars (hrest : rest.head? ≠ some d.quoteMark) (part : List Char) :
    d.readToken (d.quoteChars part ++ rest) = some (part, rest) := by
  by_cases hstar : part = ['*']
  · subst hstar
    exact d.readToken_star rest
  · rw [readToken_quoteChars_append hstar, readQuoted_close hrest]
    simp

theorem isToken_quoteChars (d : Dialect) (part : List Char) : d.IsToken (d.quoteChars part) := by
  unfold quoteChars IsToken
  split
  · next hstar => exact .inl hstar
  · exact .inr ⟨part, by rw [doubleMark_eq_flatMap]⟩

/-- At the end of the text a quoted part is read back. -/
theorem readToken_quoteChars_end (part : List Char) :
    d.readToken (d.quoteChars part) = some (part, []) := by
  have h : d.readToken (d.quoteChars part ++ []) = some (part, []) :=
    readToken_quoteChars (by simp) part
  rwa [List.append_nil] at h

/-- A character that is no quotation mark ends a token. -/
theorem readToken_quoteChars_cons {c : Char} (hc : Source.isQuoteMark c = false)
    (part rest : List Char) :
    d.readToken (d.quoteChars part ++ c :: rest) = some (part, c :: rest) := by
  refine readToken_quoteChars ?_ part
  rintro h
  obtain rfl := Option.some.inj h
  rw [isQuoteMark_quoteMark] at hc
  exact nomatch hc

/-! ### A whole name -/

theorem readName_end (h : d.readToken text = some (part, [])) :
    d.readName text = some ([part], none) := by
  rw [readName]
  split <;> simp_all

theorem readName_dot (h : d.readToken text = some (part, '.' :: more)) :
    d.readName text = (d.readName more).map fun (parts, label) => (part :: parts, label) := by
  rw [readName]
  split <;> simp_all

/-- Behind the word `as` stands the token of the alias. -/
theorem readName_label (h : d.readToken text = some (part, ' ' :: 'a' :: 's' :: ' ' :: more))
    (hlabel : d.readToken more = some (label, [])) :
    d.readName text = some ([part], some label) := by
  rw [readName]
  split <;> simp_all

/-- What is written is read back. -/
theorem readName_tokensText {parts : List (List Char)} (hparts : parts ≠ [])
    (label : Option (List Char)) :
    d.readName (tokensText (parts.map d.quoteChars) (label.map d.quoteChars)) =
      some (parts, label) := by
  -- on the parts: all but the last are followed by a dot, the last by the alias or nothing
  induction parts with
  | nil => exact absurd rfl hparts
  | cons part parts ih =>
    cases parts with
    | cons next parts =>
      rw [List.map_cons, List.map_cons, tokensText_cons_cons,
        readName_dot (readToken_quoteChars_cons rfl part _), ← List.map_cons,
        ih (List.cons_ne_nil _ _)]
      rfl
    | nil =>
      have htoken : ['.'].intercalate [d.quoteChars part] = d.quoteChars part :=
        List.intercalate_singleton
      cases label with
      | none =>
        have htext : tokensText [d.quoteChars part] none = d.quoteChars part := by
          simp [tokensText, htoken]
        exact htext ▸ readName_end (readToken_quoteChars_end part)
      | some label =>
        have htext : tokensText [d.quoteChars part] (some (d.quoteChars label)) =
            d.quoteChars part ++ ' ' :: 'a' :: 's' :: ' ' :: d.quoteChars label := by
          simp [tokensText, htoken]
        exact htext ▸ readName_label (readToken_quoteChars_cons rfl part _)
          (readToken_quoteChars_end label)

end Dialect

/-! ## The parts of a name -/

/-- The pieces of a text between marks are those of the library's function. -/
theorem pieces_eq_splitOn (mark : Char) (cs : List Char) :
    Text.pieces mark cs = cs.splitOn mark := by
  rw [List.splitOn_eq_splitOnP]
  induction cs with
  | nil => rfl
  | cons c cs ih =>
    rw [List.splitOnP_cons_eq_if_modifyHead, Text.pieces, ← ih]
    by_cases hc : c = mark
    · rw [if_pos hc, if_pos (beq_iff_eq.mpr hc)]
    · rw [if_neg hc, if_neg (by simpa using hc)]
      cases hpieces : Text.pieces mark cs with
      | nil => exact absurd hpieces (Text.pieces_ne_nil mark cs)
      | cons piece pieces => rfl

/-- The characters of joined texts, as the library intercalates lists. -/
theorem toList_join (separator : String) (ts : List String) :
    (Text.join separator ts).toList = separator.toList.intercalate (ts.map String.toList) := by
  match ts with
  | [] => rfl
  | [t] => simp
  | t :: u :: ts => simp [toList_join separator (u :: ts), List.intercalate_cons_cons]

/-- A name without an alias is a token for each of its parts. -/
theorem Dialect.toList_quoteDotted (d : Dialect) (name : List Char) :
    (d.quoteDotted name).toList = tokensText ((name.splitOn '.').map d.quoteChars) none := by
  unfold quoteDotted tokensText
  rw [toList_join, pieces_eq_splitOn, List.map_map, List.append_nil]
  congr 1
  exact List.map_congr_left fun part _ => String.toList_ofList

namespace NameParts

variable {cs cs' : List Char} {parts : List (List Char)} {label : Option (List Char)}

theorem exists_of (cs : List Char) : ∃ parts label, NameParts cs parts label := by
  obtain ⟨-, hnone⟩ | ⟨name, separator, rest, -, hfirst⟩ := splitAlias_cases cs
  · exact ⟨_, _, .plain hnone⟩
  · exact ⟨_, _, .labelled hfirst⟩

theorem ne_nil (h : NameParts cs parts label) : parts ≠ [] := by
  cases h <;> exact List.splitOn_ne_nil _ _

/-- Two names with the same parts and the same alias differ in how the alias separator is written,
if at all. -/
theorem same (h : NameParts cs parts label) (h' : NameParts cs' parts label) : cs' = cs ∨
    ∃ name separator separator' rest, FirstSeparator cs name separator rest ∧
      FirstSeparator cs' name separator' rest := by
  have hjoined {as bs : List Char} (heq : as.splitOn '.' = bs.splitOn '.') : as = bs := by
    calc as = ['.'].intercalate (as.splitOn '.') := (List.intercalate_splitOn '.').symm
      _ = bs := by rw [heq, List.intercalate_splitOn]
  -- the indices are freed first: two names with the same parts need not be cut alike
  generalize hparts : parts = parts' at h'
  generalize hlabel : label = label' at h'
  cases h with
  | plain hnone =>
    cases h' with
    | plain hnone' => exact .inl (hjoined hparts).symm
    | labelled hfirst' => exact nomatch hlabel
  | labelled hfirst =>
    cases h' with
    | plain hnone' => exact nomatch hlabel
    | labelled hfirst' =>
      obtain rfl := Option.some.inj hlabel
      obtain rfl := hjoined hparts
      exact .inr ⟨_, _, _, _, hfirst, hfirst'⟩

end NameParts

/-- Without a separator a name is quoted part by part. -/
theorem Dialect.quoteName_plain {s : String} (d : Dialect) (hnone : ¬ HasSeparator s.toList) :
    d.quoteName s = d.quoteDotted s.toList := by
  rw [quoteName, splitAlias_eq_none hnone]

/-- With one the alias is quoted as a whole, dots included. -/
theorem Dialect.quoteName_labelled {s : String} {name separator rest : List Char} (d : Dialect)
    (hfirst : FirstSeparator s.toList name separator rest) :
    d.quoteName s = d.quoteDotted name ++ " as " ++ String.ofList (d.quoteChars rest) := by
  rw [quoteName, splitAlias_eq_some hfirst]
  rfl

/-- A quoted name is a token for each of its parts, and one for its alias. -/
theorem Dialect.toList_quoteName {s : String} {parts : List (List Char)}
    {label : Option (List Char)} (d : Dialect) (h : NameParts s.toList parts label) :
    (d.quoteName s).toList = tokensText (parts.map d.quoteChars) (label.map d.quoteChars) := by
  cases h with
  | plain hnone =>
    rw [d.quoteName_plain hnone]
    exact d.toList_quoteDotted s.toList
  | labelled hfirst =>
    rw [d.quoteName_labelled hfirst]
    simp [toList_quoteDotted, tokensText]

theorem Dialect.readName_quoteName {s : String} {parts : List (List Char)}
    {label : Option (List Char)} (d : Dialect) (h : NameParts s.toList parts label) :
    d.readName (d.quoteName s).toList = some (parts, label) :=
  d.toList_quoteName h ▸ readName_tokensText h.ne_nil label

/-- Quoting a name can be undone. What is written are tokens with dots between them, and behind ` as
` the token of the alias; they are read back as the parts of the name and its alias. Names that are
written alike differ in how their alias separators are written, if at all. -/
theorem quoted_name_reads_back (d : Dialect) (s : String) :
    ∃ parts label, NameParts s.toList parts label ∧
    (d.quoteName s).toList = tokensText (parts.map d.quoteChars) (label.map d.quoteChars) ∧
    (∀ part, d.IsToken (d.quoteChars part)) ∧
    d.readName (d.quoteName s).toList = some (parts, label) ∧
    ∀ t, d.quoteName t = d.quoteName s → t = s ∨ ∃ name separator separator' rest,
      FirstSeparator s.toList name separator rest ∧
        FirstSeparator t.toList name separator' rest := by
  obtain ⟨parts, label, hs⟩ := NameParts.exists_of s.toList
  have hread := d.readName_quoteName hs
  refine ⟨parts, label, hs, d.toList_quoteName hs, d.isToken_quoteChars, hread, ?_⟩
  intro t hsame
  obtain ⟨parts', label', ht⟩ := NameParts.exists_of t.toList
  have hread' := d.readName_quoteName ht
  -- both names are read from one text, so their parts agree
  rw [hsame, hread] at hread'
  obtain ⟨rfl, rfl⟩ := Prod.mk.inj (Option.some.inj hread')
  exact (hs.same ht).imp_left String.toList_injective

/-- Two spellings of one separator are quoted alike, and that is all in which the names differ. -/
theorem quoted_name_reads_back_spellings :
    Dialect.mysql.quoteName "a.b\tAS  c" = Dialect.mysql.quoteName "a.b as c" ∧
    ∃ name separator separator' rest, FirstSeparator "a.b as c".toList name separator rest ∧
      FirstSeparator "a.b\tAS  c".toList name separator' rest := by
  have hsame : Dialect.mysql.quoteName "a.b\tAS  c" = Dialect.mysql.quoteName "a.b as c" := by
    decide
  obtain ⟨-, -, -, -, -, -, hdiffer⟩ := quoted_name_reads_back .mysql "a.b as c"
  exact ⟨hsame, (hdiffer _ hsame).resolve_left (by decide)⟩

end QueryBuilder
