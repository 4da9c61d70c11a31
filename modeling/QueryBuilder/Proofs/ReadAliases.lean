import Mathlib.Data.List.DropRight
import QueryBuilder.Query.Fetch
import QueryBuilder.Proofs.Frames
import QueryBuilder.Proofs.QuotedNames

/-!
# Reading aliases

An alias is read from a name in two ways. What is sent has the alias behind the first alias
separator, whatever blanks and letters it is written with. The field that is looked up, and the name
that qualifies columns, stand behind the last plain ` as `, trimmed.

Most steps compare two cuts of one text. Both are suffixes of it, so they are the same if they have
the same length; and where they differ, one of them holds more characters of some kind, which
trimming does not take away.

- `Occurs`, `afterLast_eq_some_iff`: the last place of a word.
- `PlainEnd`, `ReadBack`: when the two ways meet.
- `eq_or_marked_of_suffix`: which quoted identifiers a text ends with, behind a blank.
- `alias_read_back_iff`: a column's field is the alias that is sent exactly if the two ways meet;
  and so for a table.
-/

namespace QueryBuilder

variable {word cs name separator rest back : List Char}

/-! ## The last place of a word -/

/-- A text holds a word, its letters in any ASCII case. -/
def Occurs (word cs : List Char) : Prop :=
  ∃ before found after, cs = before ++ found ++ after ∧ found.map Char.toLower = word

/-- A word starts at the first character or occurs behind it. -/
theorem occurs_cons {c : Char} : Occurs word (c :: cs) ↔
    word = ((c :: cs).take word.length).map Char.toLower ∨ Occurs word cs := by
  constructor
  · rintro ⟨before, found, after, htext, rfl⟩
    cases before with
    | nil => exact .inl (by simp [htext])
    | cons b before => exact .inr ⟨before, found, after, (List.cons.inj htext).2, rfl⟩
  · rintro (hhere | ⟨before, found, after, rfl, hfound⟩)
    · exact ⟨[], _, _, (List.take_append_drop word.length (c :: cs)).symm, hhere.symm⟩
    · exact ⟨c :: before, found, after, rfl, hfound⟩

/-- Nothing is read where the word does not occur. -/
theorem afterLast_eq_none_iff (hword : word ≠ []) :
    Text.afterLast word cs = none ↔ ¬ Occurs word cs := by
  induction cs with
  | nil =>
    refine iff_of_true rfl ?_
    rintro ⟨before, found, after, htext, rfl⟩
    simp_all
  | cons c cs ih =>
    rw [occurs_cons, not_or, ← ih, Text.afterLast]
    cases Text.afterLast word cs <;> simp

/-- What is read behind the last place of a word follows the word, and there is no such word farther
on. -/
theorem afterLast_eq_some_iff (hword : word ≠ []) : Text.afterLast word cs = some rest ↔
    ∃ before found, cs = before ++ found ++ rest ∧ found.map Char.toLower = word ∧
      ¬ Occurs word (found.tail ++ rest) := by
  constructor
  · intro h
    -- a later place wins, so the induction asks what is behind first
    induction cs with
    | nil => exact nomatch h
    | cons c cs ih =>
      rw [Text.afterLast] at h
      cases hlater : Text.afterLast word cs with
      | some later =>
        rw [hlater] at h
        obtain ⟨before, found, rfl, hfound⟩ := ih (hlater.trans h)
        exact ⟨c :: before, found, rfl, hfound⟩
      | none =>
        simp only [hlater] at h
        obtain ⟨hhere, hrest⟩ := Option.ite_none_right_eq_some.mp h
        obtain rfl := Option.some.inj hrest
        refine ⟨[], (c :: cs).take word.length, (List.take_append_drop _ _).symm, hhere.symm, ?_⟩
        obtain ⟨length, hlength⟩ := Nat.exists_eq_succ_of_ne_zero
          (mt List.length_eq_zero_iff.mp hword)
        have htail : ((c :: cs).take word.length).tail ++ (c :: cs).drop word.length = cs := by
          simp [hlength]
        rw [htail]
        exact (afterLast_eq_none_iff hword).mp hlater
  · rintro ⟨before, found, rfl, hfound, hlast⟩
    induction before with
    | cons b before ih =>
      rw [List.cons_append, List.cons_append, Text.afterLast, ih]
    | nil =>
      cases found with
      | nil => exact absurd hfound.symm hword
      | cons c found =>
        have hnone : Text.afterLast word (found ++ rest) = none :=
          (afterLast_eq_none_iff hword).mpr hlast
        rw [List.nil_append, List.cons_append, Text.afterLast, hnone]
        simp [← hfound]

/-! ## Plain separators -/

/-- What is made a given character: the character, or its ASCII capital. -/
theorem toLower_cases {c x : Char} (h : c.toLower = x) :
    c = x ∨ 65 ≤ c.toNat ∧ c.toNat ≤ 90 ∧ c.toNat + 32 = x.toNat := by
  unfold Char.toLower at h
  split at h
  · next hcapital =>
    subst h
    obtain ⟨hlow, hhigh⟩ := hcapital
    refine .inr ⟨hlow, hhigh, ?_⟩
    show c.val.toNat + 32 = (c.val + 32).toNat
    have hbound : c.val.toNat ≤ 90 := hhigh
    rw [UInt32.toNat_add]
    show _ = (c.val.toNat + 32) % 2 ^ 32
    omega
  · exact .inl h

/-- A plain ` as ` is an alias separator. -/
theorem aliasSeparator_of_plain {plain : List Char} (h : plain.map Char.toLower = " as ".toList) :
    AliasSeparator plain := by
  have hletters : plain.map Char.toLower = [' ', 'a', 's', ' '] := h
  simp only [List.map_eq_cons_iff, List.map_eq_nil_iff] at hletters
  obtain ⟨front, _, rfl, hfront, a, _, rfl, ha, s, _, rfl, hs, back, _, rfl, hback, rfl⟩ := hletters
  have hspace {c : Char} (hc : c.toLower = ' ') : Blanks [c] := by
    obtain rfl | ⟨hlow, -, hsum⟩ := toLower_cases hc
    · exact ⟨List.cons_ne_nil _ _, List.forall_mem_singleton.mpr (by decide)⟩
    · have hsum : c.toNat + 32 = 32 := hsum
      omega
  have hletter {c x y : Char} (hc : c.toLower = x) (hxy : y.toNat + 32 = x.toNat) :
      c = x ∨ c = y := by
    refine (toLower_cases hc).imp_right fun hcapital => Char.toNat_inj.mp ?_
    omega
  exact .intro (hspace hfront) ⟨hletter ha rfl, (hletter hs rfl).imp_right .inl⟩ (hspace hback)

/-- A separator ends with a plain ` as ` and blanks behind it, and no plain one is met farther
on. -/
def PlainEnd (separator rest back : List Char) : Prop :=
  ∃ front plain, separator = front ++ plain ++ back ∧ plain.map Char.toLower = " as ".toList ∧
    (∀ c ∈ back, Text.isBlank c = true) ∧ ¬ Occurs " as ".toList (plain.tail ++ back ++ rest)

/-- What follows a separator is what follows the last plain ` as `, trimmed. -/
def ReadBack (separator rest : List Char) : Prop :=
  (∃ back, PlainEnd separator rest back) ∧ ∀ c ∈ rest.getLast?, Text.isBlank c = false

/-- Among blanks there is nothing else. -/
theorem countP_unblank_eq_zero (h : ∀ c ∈ cs, Text.isBlank c = true) :
    cs.countP (fun c => !Text.isBlank c) = 0 := by
  rw [List.countP_eq_zero]
  intro c hc
  simp [h c hc]

/-- The two letters of the word are all that a separator has beside blanks. -/
theorem AliasSeparator.countP_unblank (h : AliasSeparator separator) :
    separator.countP (fun c => !Text.isBlank c) = 2 := by
  obtain ⟨hfront, hword, hback⟩ := h
  next front back a s =>
  have hs : Text.isBlank s = false := by
    obtain rfl | rfl | hs := hword.second
    · decide
    · decide
    · simp [Text.isBlank, hs]
  simp [countP_unblank_eq_zero hfront.blank, countP_unblank_eq_zero hback.blank, hword.unblank, hs]

/-- A separator ends with a blank. -/
theorem AliasSeparator.exists_concat (h : AliasSeparator separator) :
    ∃ front blank, separator = front ++ [blank] ∧ Text.isBlank blank = true := by
  obtain ⟨-, -, hback⟩ := h
  next front back a s =>
  obtain rfl | ⟨before, blank, rfl⟩ := List.eq_nil_or_concat back
  · exact absurd rfl hback.ne_nil
  · exact ⟨front ++ a :: s :: before, blank, by simp, hback.blank blank (by simp)⟩

theorem PlainEnd.blank (h : PlainEnd separator rest back) : ∀ c ∈ back, Text.isBlank c = true := by
  obtain ⟨-, -, -, -, hblank, -⟩ := h
  exact hblank

/-- The plain separator is the last, so what is read stands behind it. -/
theorem PlainEnd.afterLast (h : PlainEnd separator rest back)
    (hfirst : FirstSeparator cs name separator rest) :
    Text.afterLast " as ".toList cs = some (back ++ rest) := by
  obtain ⟨front, plain, rfl, hplain, -, hlast⟩ := h
  rw [afterLast_eq_some_iff (by decide)]
  refine ⟨name ++ front, plain, ?_, hplain, ?_⟩
  · rw [hfirst.text]
    simp only [List.append_assoc]
  · rwa [← List.append_assoc]

/-- Behind the last plain ` as ` stands less than the alias, or the alias with blanks in front. -/
theorem FirstSeparator.plainEnd {found : List Char} (hfirst : FirstSeparator cs name separator rest)
    (hfound : Text.afterLast " as ".toList cs = some found) (hlength : rest.length ≤ found.length) :
    ∃ back, PlainEnd separator rest back ∧ found = back ++ rest := by
  obtain ⟨before, plain, htext, hplain, hlast⟩ := (afterLast_eq_some_iff (by decide)).mp hfound
  have hseparator := aliasSeparator_of_plain hplain
  obtain ⟨back, rfl⟩ : rest <:+ found :=
    List.suffix_of_suffix_length_le ⟨_, hfirst.text.symm⟩ ⟨_, htext.symm⟩ hlength
  have hwhole : before ++ plain ++ back ++ rest = name ++ separator ++ rest := by
    rw [← hfirst.text, htext, List.append_assoc _ back]
  have hbehind : before ++ plain ++ back = name ++ separator := List.append_cancel_right hwhole
  obtain ⟨front, rfl⟩ : name <+: before := by
    refine List.prefix_of_prefix_length_le (List.prefix_append name separator) ?_
      (hfirst.first before plain _ hseparator htext)
    rw [← hbehind, List.append_assoc]
    exact List.prefix_append before _
  have hparts : separator = front ++ plain ++ back := by
    simp only [List.append_assoc] at hbehind ⊢
    exact (List.append_cancel_left hbehind).symm
  refine ⟨back, ⟨front, plain, hparts, hplain, ?_, by rwa [List.append_assoc]⟩, rfl⟩
  -- the word is all in the plain separator, so that nothing but blanks is left for what follows it
  have hcount := hfirst.separator.countP_unblank
  rw [hparts, List.countP_append, List.countP_append, hseparator.countP_unblank] at hcount
  have hnone : back.countP (fun c => !Text.isBlank c) = 0 := by omega
  simpa using List.countP_eq_zero.mp hnone

/-! ## The end of a text -/

section Suffixes

variable {d : Dialect} {key front : List Char}

/-- Doubling a mark may be done from either end. -/
theorem reverse_doubleMark (mark : Char) (cs : List Char) :
    (doubleMark mark cs).reverse = doubleMark mark cs.reverse := by
  rw [doubleMark_eq_flatMap, doubleMark_eq_flatMap, List.reverse_flatMap]
  congr 1
  funext c
  rw [Function.comp_apply]
  split <;> rfl

/-- A quoted identifier read backwards is the reversed name, quoted. -/
theorem reverse_quoteChars (d : Dialect) (cs : List Char) :
    (d.quoteChars cs).reverse = d.quoteChars cs.reverse := by
  have hstar : cs.reverse = ['*'] ↔ cs = ['*'] := List.reverse_eq_iff
  unfold Dialect.quoteChars
  rw [if_congr hstar rfl rfl]
  split
  · rfl
  · simp [reverse_doubleMark]

/-- A text that ends with a quoted identifier behind a blank ends with no other one, unless a
quotation mark stands in front of it inside of the first. -/
theorem eq_or_marked_of_suffix (h : d.quoteChars key <:+ front ++ ' ' :: d.quoteChars rest) :
    key = rest ∨ d.quoteMark :: key <:+ rest := by
  obtain ⟨before, htext⟩ := h
  -- read from the end, where the texts agree
  have hturned : d.quoteChars key.reverse ++ before.reverse = d.quoteChars rest.reverse ++
      ' ' :: front.reverse := by
    simpa [reverse_quoteChars] using congrArg List.reverse htext
  have hread := Dialect.readToken_quoteChars_cons (d := d) (c := ' ') rfl rest.reverse front.reverse
  rw [← hturned] at hread
  by_cases hmark : before.reverse.head? = some d.quoteMark
  · obtain ⟨more, hmore⟩ := List.head?_eq_some_iff.mp hmark
    rw [hmore] at hread
    by_cases hstar : key.reverse = ['*']
    · have hkey : d.quoteChars key.reverse = ['*'] := by rw [hstar]; rfl
      rw [hkey, List.singleton_append, Dialect.readToken_star] at hread
      obtain ⟨hsame, -⟩ := Prod.mk.inj (Option.some.inj hread)
      exact .inl (List.reverse_injective (hstar.trans hsame))
    · rw [Dialect.readToken_quoteChars_append hstar, readQuoted, if_pos rfl, if_pos rfl,
        Option.map_map] at hread
      obtain ⟨⟨inner, after⟩, -, hpair⟩ := Option.map_eq_some_iff.mp hread
      obtain ⟨hsame, -⟩ := Prod.mk.inj hpair
      refine .inr ⟨inner.reverse, ?_⟩
      simpa using congrArg List.reverse hsame
  · rw [Dialect.readToken_quoteChars hmark] at hread
    obtain ⟨hsame, -⟩ := Prod.mk.inj (Option.some.inj hread)
    exact .inl (List.reverse_injective hsame)

end Suffixes

/-! ## Both ends of a text -/

/-- A text without the characters of a kind at its two ends. -/
def strip (p : Char → Bool) (cs : List Char) : List Char :=
  (cs.dropWhile p).rdropWhile p

section Strip

variable {p : Char → Bool}

theorem toList_trim (s : String) : (Text.trim s).toList = strip Text.isBlank s.toList :=
  String.toList_ofList

theorem toList_unquote (s : String) :
    (Source.unquote s).toList = strip Source.isQuoteMark s.toList :=
  String.toList_ofList

theorem length_strip_le (p : Char → Bool) (cs : List Char) : (strip p cs).length ≤ cs.length :=
  (List.rdropWhile_prefix p _).length_le.trans (List.dropWhile_suffix p).length_le

/-- What is not made shorter is not changed. -/
theorem strip_eq_self_of_length (h : cs.length ≤ (strip p cs).length) : strip p cs = cs := by
  have hright : (strip p cs).length ≤ (cs.dropWhile p).length :=
    (List.rdropWhile_prefix p _).length_le
  have hleft : (cs.dropWhile p).length ≤ cs.length := (List.dropWhile_suffix p).length_le
  calc strip p cs
      = cs.dropWhile p := (List.rdropWhile_prefix p _).eq_of_length
        (Nat.le_antisymm hright (hleft.trans h))
    _ = cs := (List.dropWhile_suffix p).eq_of_length (Nat.le_antisymm hleft (h.trans hright))

/-- Nothing is stripped exactly if neither end is of the kind. -/
theorem strip_eq_self_iff : strip p cs = cs ↔
    (∀ c ∈ cs.head?, p c = false) ∧ ∀ c ∈ cs.getLast?, p c = false := by
  have hleft : cs.dropWhile p = cs ↔ ∀ c ∈ cs.head?, p c = false := by
    cases cs <;> simp [List.dropWhile_eq_self_iff]
  have hright : cs.rdropWhile p = cs ↔ ∀ c ∈ cs.getLast?, p c = false := by
    rw [List.rdropWhile_eq_self_iff]
    obtain rfl | ⟨front, last, rfl⟩ := List.eq_nil_or_concat cs <;> simp
  rw [← hleft, ← hright]
  constructor
  · intro h
    have hdrop : cs.dropWhile p = cs := by
      refine (List.dropWhile_suffix p).eq_of_length
        (Nat.le_antisymm (List.dropWhile_suffix p).length_le ?_)
      have hshorter : (strip p cs).length ≤ (cs.dropWhile p).length :=
        (List.rdropWhile_prefix p _).length_le
      rwa [h] at hshorter
    exact ⟨hdrop, by rwa [strip, hdrop] at h⟩
  · rintro ⟨hdrop, hkept⟩
    rw [strip, hdrop, hkept]

/-- Characters of the kind in front may be left out before stripping. -/
theorem strip_append_of_all (h : ∀ c ∈ back, p c = true) : strip p (back ++ cs) = strip p cs := by
  rw [strip, strip, List.dropWhile_append_of_pos h]

/-- What is stripped is not of any other kind. -/
theorem countP_strip {q : Char → Bool} (h : ∀ c, p c = true → q c = false) (cs : List Char) :
    (strip p cs).countP q = cs.countP q := by
  have hdrop (as : List Char) : (as.dropWhile p).countP q = as.countP q := by
    conv =>
      rhs
      rw [← List.takeWhile_append_dropWhile (p := p) (l := as), List.countP_append]
    have hnone : (as.takeWhile p).countP q = 0 := by
      rw [List.countP_eq_zero]
      intro c hc
      simp [h c (List.all_eq_true.mp List.all_takeWhile c hc)]
    rw [hnone, Nat.zero_add]
  rw [strip, List.rdropWhile, List.countP_reverse, hdrop, List.countP_reverse, hdrop]

end Strip

/-! ## The field of a column -/

section Columns

variable {c e : Char} {key front : List Char} {s : String}

/-- Two texts with one end have one character in front of it. -/
theorem eq_of_cons_suffix (h : c :: key <:+ front ++ e :: key) : c = e := by
  obtain ⟨before, htext⟩ := h
  obtain ⟨-, hbehind⟩ := List.append_inj' htext rfl
  exact (List.cons.inj hbehind).1

/-- The last of several texts is behind a mark, the only one is the whole. -/
theorem intercalate_concat (mark : Char) (ts : List (List Char)) (t : List Char) :
    [mark].intercalate (ts ++ [t]) = t ∨
      ∃ front, [mark].intercalate (ts ++ [t]) = front ++ mark :: t := by
  cases ts with
  | nil => exact .inl (by simp)
  | cons first ts =>
    right
    induction ts generalizing first with
    | nil => exact ⟨first, by simp [List.intercalate_cons_cons]⟩
    | cons next ts ih =>
      obtain ⟨front, hfront⟩ := ih next
      refine ⟨first ++ mark :: front, ?_⟩
      rw [List.cons_append, List.cons_append, List.intercalate_cons_cons,
        ← List.cons_append, hfront]
      simp

/-- The parts of a name, the last one apart. -/
theorem exists_splitOn_concat (cs : List Char) : ∃ parts part, cs.splitOn '.' = parts ++ [part] ∧
    (Text.pieces '.' cs).getLastD [] = part ∧ (cs = part ∨ ∃ front, cs = front ++ '.' :: part) := by
  obtain hnil | ⟨parts, part, hparts⟩ := List.eq_nil_or_concat (cs.splitOn '.')
  · exact absurd hnil (List.splitOn_ne_nil _ _)
  · rw [List.concat_eq_append] at hparts
    refine ⟨parts, part, hparts, ?_, ?_⟩
    · rw [pieces_eq_splitOn, hparts, List.getLastD_concat]
    · have hwhole := intercalate_concat '.' parts part
      rwa [← hparts, List.intercalate_splitOn] at hwhole

/-- In front of the last part of a name stands a dot. -/
theorem dot_before_part (h : c :: (Text.pieces '.' cs).getLastD [] <:+ cs) : c = '.' := by
  obtain ⟨-, part, -, hlast, rfl | ⟨front, hfront⟩⟩ := exists_splitOn_concat cs
  · rw [hlast] at h
    exact absurd h.length_le (by simp)
  · rw [hlast, hfront] at h
    exact eq_of_cons_suffix h

/-- In front of what is trimmed stands a blank, if one stood there before. -/
theorem blank_before_strip (he : Text.isBlank e = true)
    (h : c :: strip Text.isBlank key <:+ front ++ e :: key) : Text.isBlank c = true := by
  by_contra hc
  rw [Bool.not_eq_true] at hc
  obtain hlonger | hshorter := Nat.lt_or_ge (strip Text.isBlank key).length key.length
  · -- the character would be in the text that is trimmed
    obtain ⟨before, hkey⟩ : c :: strip Text.isBlank key <:+ key :=
      List.suffix_of_suffix_length_le h ⟨front ++ [e], by simp⟩ hlonger
    have hkept : strip Text.isBlank key =
        Text.dropBlanks before ++ c :: Text.dropBlanksRight (strip Text.isBlank key) := by
      conv =>
        lhs
        rw [← hkey]
      show Text.dropBlanksRight (Text.dropBlanks _) = _
      rw [dropBlanks_append_cons hc, dropBlanksRight_append_cons hc]
    have hright : Text.dropBlanksRight (strip Text.isBlank key) = strip Text.isBlank key :=
      List.rdropWhile_idempotent _ _
    rw [hright] at hkept
    have hlength := congrArg List.length hkept
    simp at hlength
    omega
  · rw [strip_eq_self_of_length hshorter] at h
    rw [eq_of_cons_suffix h, he] at hc
    exact nomatch hc

/-- The field of a column: what is behind the last plain separator, stripped, or the last segment
of the name. -/
theorem toList_resultField (s : String) : (Column.resultField s).toList =
    match Text.afterLast " as ".toList s.toList with
    | some found => strip Text.isBlank found
    | none => (Text.pieces '.' s.toList).getLastD [] := by
  unfold Column.resultField Column.givenAlias?
  cases Text.afterLast " as ".toList s.toList with
  | none => exact String.toList_ofList
  | some found => exact (toList_trim _).trans (by rw [String.toList_ofList])

/-- In front of a column's field stands a dot or a blank. -/
theorem before_resultField (h : c :: (Column.resultField s).toList <:+ s.toList) :
    c = '.' ∨ Text.isBlank c = true := by
  rw [toList_resultField] at h
  split at h
  · next found hfound =>
    obtain ⟨before, plain, htext, hplain, -⟩ := (afterLast_eq_some_iff (by decide)).mp hfound
    obtain ⟨front, blank, rfl, hblank⟩ := (aliasSeparator_of_plain hplain).exists_concat
    have hbehind : s.toList = (before ++ front) ++ blank :: found := by simp [htext]
    rw [hbehind] at h
    exact .inr (blank_before_strip hblank h)
  · exact .inl (dot_before_part h)

/-- The field is the alias that is sent exactly if the alias is read back. -/
theorem resultField_eq_iff (hfirst : FirstSeparator s.toList name separator rest) :
    (Column.resultField s).toList = rest ↔ ReadBack separator rest := by
  have hkept {back : List Char} (hback : ∀ c ∈ back, Text.isBlank c = true) :
      strip Text.isBlank (back ++ rest) = rest ↔ ∀ c ∈ rest.getLast?, Text.isBlank c = false := by
    rw [strip_append_of_all hback, strip_eq_self_iff]
    exact and_iff_right hfirst.whole
  rw [toList_resultField]
  constructor
  · intro h
    cases hfound : Text.afterLast " as ".toList s.toList with
    | none =>
      -- the alias is not the last part of the name: a blank stands in front of it, and no dot
      obtain ⟨front, blank, hseparator, hblank⟩ := hfirst.separator.exists_concat
      simp only [hfound] at h
      have hbefore : blank :: (Text.pieces '.' s.toList).getLastD [] <:+ s.toList := by
        rw [h]
        exact ⟨name ++ front, by simp [hfirst.text, hseparator]⟩
      rw [dot_before_part hbefore] at hblank
      exact absurd hblank (by decide)
    | some found =>
      simp only [hfound] at h
      have hlength : rest.length ≤ found.length := h ▸ length_strip_le Text.isBlank found
      obtain ⟨back, hplain, rfl⟩ := hfirst.plainEnd hfound hlength
      exact ⟨⟨back, hplain⟩, (hkept hplain.blank).mp h⟩
  · rintro ⟨⟨back, hplain⟩, hlast⟩
    rw [hplain.afterLast hfirst]
    exact (hkept hplain.blank).mpr hlast

/-- The text of a column ends with its field, quoted, exactly if its alias is read back. A column
without an alias ends with its last segment. -/
theorem quote_resultField_suffix_iff (d : Dialect) (s : String) :
    (d.quote (Column.resultField s)).toList <:+ (d.quoteName s).toList ↔
      ∀ name separator rest, FirstSeparator s.toList name separator rest →
        ReadBack separator rest := by
  have hquote : (d.quote (Column.resultField s)).toList =
      d.quoteChars (Column.resultField s).toList :=
    String.toList_ofList
  rw [hquote]
  -- with an alias or without one
  obtain ⟨hnone, hno⟩ | ⟨name, separator, rest, -, hfirst⟩ := splitAlias_cases s.toList
  · refine iff_of_true ?_ fun _ _ _ hfirst => absurd hfirst.hasSeparator hno
    have hplain : Text.afterLast " as ".toList s.toList = none := by
      rw [afterLast_eq_none_iff (by decide)]
      rintro ⟨before, plain, after, htext, hplain⟩
      exact hno ⟨before, plain, after, aliasSeparator_of_plain hplain, htext⟩
    obtain ⟨parts, part, hparts, hlast, -⟩ := exists_splitOn_concat s.toList
    rw [toList_resultField, hplain, d.toList_quoteName (.plain hno), hparts, List.map_append]
    simp only [hlast]
    obtain hwhole | ⟨front, hfront⟩ := intercalate_concat '.' (parts.map d.quoteChars)
      (d.quoteChars part)
    · exact ⟨[], by simp [tokensText, hwhole]⟩
    · exact ⟨front ++ ['.'], by simp [tokensText, hfront]⟩
  · have hunique (h : ReadBack separator rest) : ∀ name' separator' rest',
        FirstSeparator s.toList name' separator' rest' → ReadBack separator' rest' := by
      intro _ _ _ hother
      obtain ⟨-, rfl, rfl⟩ := hfirst.unique hother
      exact h
    have htext : (d.quoteName s).toList =
        ((d.quoteDotted name).toList ++ [' ', 'a', 's']) ++ ' ' :: d.quoteChars rest := by
      rw [d.quoteName_labelled hfirst]
      simp
    rw [htext]
    constructor
    · intro h
      obtain hsame | hmarked := eq_or_marked_of_suffix h
      · exact hunique ((resultField_eq_iff hfirst).mp hsame)
      · -- what stands in front of a field is no quotation mark
        have hmark := d.isQuoteMark_quoteMark
        obtain hdot | hblank := before_resultField (hmarked.trans ⟨_, hfirst.text.symm⟩)
        · rw [hdot] at hmark
          exact absurd hmark (by decide)
        · cases d <;> exact absurd hblank (by decide)
    · intro h
      rw [(resultField_eq_iff hfirst).mpr (h _ _ _ hfirst)]
      exact ⟨(d.quoteDotted name).toList ++ [' ', 'a', 's', ' '], by simp⟩

end Columns

/-! ## The qualifier of a table -/

section Tables

variable {q : Query} {table : String}

/-- A character that is never taken from the ends of a qualifier. -/
def isInner (c : Char) : Bool :=
  !Text.isBlank c && !Source.isQuoteMark c

/-- Every separator holds a letter. -/
theorem AliasSeparator.countP_inner_pos (h : AliasSeparator separator) :
    0 < separator.countP isInner := by
  obtain ⟨-, hword, -⟩ := h
  next front back a s =>
  rw [List.countP_pos_iff]
  refine ⟨a, by simp, ?_⟩
  obtain rfl | rfl := hword.first <;> decide

/-- The qualifier of a table: what is behind the last plain separator or the whole name, stripped
twice. -/
theorem toList_qualifier (hsource : q.source = some (.table table)) : q.qualifier.toList =
    strip Source.isQuoteMark (strip Text.isBlank
      ((Text.afterLast " as ".toList table.toList).getD table.toList)) := by
  have hbehind : ((Column.givenAlias? table).getD table).toList =
      (Text.afterLast " as ".toList table.toList).getD table.toList := by
    unfold Column.givenAlias?
    cases Text.afterLast " as ".toList table.toList with
    | none => rfl
    | some found => exact String.toList_ofList
  rw [Query.qualifier, hsource, ← hbehind, ← toList_trim, ← toList_unquote]
  rfl

/-- The qualifier is the alias that is sent exactly if the alias is read back and has no marks at
its ends. -/
theorem qualifier_eq_iff (hsource : q.source = some (.table table))
    (hfirst : FirstSeparator table.toList name separator rest) : q.qualifier.toList = rest ↔
      ReadBack separator rest ∧ (∀ c ∈ rest.head?, Source.isQuoteMark c = false) ∧
        ∀ c ∈ rest.getLast?, Source.isQuoteMark c = false := by
  rw [toList_qualifier hsource]
  constructor
  · intro h
    cases hfound : Text.afterLast " as ".toList table.toList with
    | none =>
      -- the whole name keeps the letters of the separator, which are not in the alias
      have hcount := congrArg (List.countP isInner) h
      rw [hfound, Option.getD_none, countP_strip (by simp +contextual [isInner]),
        countP_strip (by simp +contextual [isInner]), hfirst.text, List.countP_append,
          List.countP_append] at hcount
      have hpos := hfirst.separator.countP_inner_pos
      omega
    | some found =>
      rw [hfound, Option.getD_some] at h
      have hlength : rest.length ≤ found.length := by
        rw [← h]
        exact (length_strip_le _ _).trans (length_strip_le _ _)
      obtain ⟨back, hplain, rfl⟩ := hfirst.plainEnd hfound hlength
      rw [strip_append_of_all hplain.blank] at h
      have htrimmed : strip Text.isBlank rest = rest := by
        apply strip_eq_self_of_length
        conv =>
          lhs
          rw [← h]
        exact length_strip_le _ _
      rw [htrimmed] at h
      exact ⟨⟨⟨back, hplain⟩, (strip_eq_self_iff.mp htrimmed).2⟩, strip_eq_self_iff.mp h⟩
  · rintro ⟨⟨⟨back, hplain⟩, hlast⟩, hends⟩
    rw [hplain.afterLast hfirst, Option.getD_some, strip_append_of_all hplain.blank,
      strip_eq_self_iff.mpr ⟨hfirst.whole, hlast⟩, strip_eq_self_iff.mpr hends]

/-- Two names that are quoted alike are one. -/
theorem quoteChars_injective (d : Dialect) : Function.Injective d.quoteChars := by
  intro part part' h
  have hread := Dialect.readToken_quoteChars_end (d := d) part
  rw [h, Dialect.readToken_quoteChars_end] at hread
  exact (Prod.mk.inj (Option.some.inj hread)).1.symm

/-- The table is sent under its qualifier, quoted, exactly if the qualifier is the alias that is
sent. -/
theorem quote_qualifier_iff (d : Dialect) (hsource : q.source = some (.table table))
    (hfirst : FirstSeparator table.toList name separator rest) :
    d.source (.table table) = d.quoteDotted name ++ " as " ++ d.quote q.qualifier ↔
      ReadBack separator rest ∧ (∀ c ∈ rest.head?, Source.isQuoteMark c = false) ∧
        ∀ c ∈ rest.getLast?, Source.isQuoteMark c = false := by
  rw [← qualifier_eq_iff hsource hfirst]
  have hsent : d.source (.table table) = d.quoteDotted name ++ " as " ++
      String.ofList (d.quoteChars rest) :=
    d.quoteName_labelled hfirst
  rw [hsent, String.append_right_inj, Dialect.quote, String.ofList_inj,
    (quoteChars_injective _).eq_iff]
  exact eq_comm

end Tables

/-! ## Both ways -/

/-- Two ways of reading an alias. The text of a column ends with the column's field between
quotation marks exactly if its alias, if it has one, stands behind the last plain ` as ` and needs
no trimming. The alias in the text of a table is what qualifies the columns of a query on the table
exactly if besides it is not freed from quotation marks. -/
theorem alias_read_back_iff (d : Dialect) (text : String) :
    ((d.quote (Column.resultField text)).toList <:+ (d.quoteName text).toList ↔
      ∀ name separator rest, FirstSeparator text.toList name separator rest →
        ReadBack separator rest) ∧
    ∀ (q : Query) (name separator rest : List Char), q.source = some (.table text) →
      FirstSeparator text.toList name separator rest →
        (d.source (.table text) = d.quoteDotted name ++ " as " ++ d.quote q.qualifier ↔
          ReadBack separator rest ∧ (∀ c ∈ rest.head?, Source.isQuoteMark c = false) ∧
            ∀ c ∈ rest.getLast?, Source.isQuoteMark c = false) := by
  constructor
  · exact quote_resultField_suffix_iff d text
  · intro q name separator rest hsource hfirst
    exact quote_qualifier_iff d hsource hfirst

/-- An alias behind one plain ` as ` is read back, of a column and of a table. -/
theorem alias_read_back_users :
    (Dialect.mysql.quote (Column.resultField "users.id as user_id")).toList <:+
        (Dialect.mysql.quoteName "users.id as user_id").toList ∧
      Dialect.mysql.source (.table "users as u") =
        Dialect.mysql.quoteDotted "users".toList ++ " as " ++
          Dialect.mysql.quote (Query.table {} "users as u").qualifier := by
  have hend {p : Char → Bool} {c : Char} {o : Option Char} (ho : o = some c) (hc : p c = false) :
      ∀ e ∈ o, p e = false := by
    intro e he
    obtain rfl := Option.some.inj (ho.symm.trans he)
    exact hc
  have hread {rest : List Char}
      (hlater : Text.afterLast " as ".toList ("as ".toList ++ rest) = none)
      (hlast : ∀ c ∈ rest.getLast?, Text.isBlank c = false) : ReadBack " as ".toList rest :=
    ⟨⟨[], [], " as ".toList, rfl, rfl, by simp, (afterLast_eq_none_iff (by decide)).mp hlater⟩,
      hlast⟩
  have hcolumn : FirstSeparator "users.id as user_id".toList "users.id".toList " as ".toList
      "user_id".toList :=
    .of_splitAlias (by decide) rfl
  have htable : FirstSeparator "users as u".toList "users".toList " as ".toList "u".toList :=
    .of_splitAlias (by decide) rfl
  constructor
  · rw [(alias_read_back_iff .mysql "users.id as user_id").1]
    intro _ _ _ hfirst
    obtain ⟨-, rfl, rfl⟩ := hcolumn.unique hfirst
    exact hread (by decide) (hend rfl (by decide))
  · exact ((alias_read_back_iff .mysql "users as u").2
      (Query.table {} "users as u") _ _ _ rfl htable).mpr
      ⟨hread (by decide) (hend rfl (by decide)), hend rfl (by decide), hend rfl (by decide)⟩

/-- An alias between tabs is sent and not read: the column is looked up under its whole text, and
the table's columns are qualified with its whole text. -/
theorem unread_alias_tabbed :
    Dialect.mysql.quoteName "name\tas\tn" = "\x60name\x60 as \x60n\x60" ∧
      Column.resultField "name\tas\tn" = "name\tas\tn" ∧
      ¬ (Dialect.mysql.quote (Column.resultField "name\tas\tn")).toList <:+
        (Dialect.mysql.quoteName "name\tas\tn").toList ∧
      ((Query.table { attached := true } "users").value "name\tas\tn"
        { rows := [.ok [[("n", .text "Ann")]]] }).1 = .ok none ∧
      Dialect.mysql.quoteName "users\tas\tu" = "\x60users\x60 as \x60u\x60" ∧
      (Query.table {} "users\tas\tu").qualifier = "users\tas\tu" := by
  refine ⟨by decide, by decide, by decide, rfl, by decide, by decide⟩

end QueryBuilder
