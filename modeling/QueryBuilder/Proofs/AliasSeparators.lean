import QueryBuilder.Quoting

/-!
# Alias separators

A name is divided from its alias by blanks, the word `as` in any case, and blanks.

- `AliasSeparator`: the texts that do so. `HasSeparator`: one of them stands somewhere in a text.
- `FirstSeparator`: the first one in a text, with all the blanks behind the word. There is only one
  (`FirstSeparator.unique`).
- `splitAlias_cases`: a name is cut at its first separator, and is not cut exactly if it has none.
-/

namespace QueryBuilder

/-- One blank or more. -/
structure Blanks (cs : List Char) : Prop where
  ne_nil : cs ≠ []
  blank : ∀ c ∈ cs, Text.isBlank c = true

/-- The word `as` in any case. The long s is an s. -/
structure AliasWord (a s : Char) : Prop where
  first : a = 'a' ∨ a = 'A'
  second : s = 's' ∨ s = 'S' ∨ s.toNat = 0x17F

/-- Blanks, the word `as` in any case, blanks. -/
inductive AliasSeparator : List Char → Prop where
  | intro {front back : List Char} {a s : Char} (hfront : Blanks front) (hword : AliasWord a s)
      (hback : Blanks back) : AliasSeparator (front ++ a :: s :: back)

/-- A separator stands somewhere in the text. -/
def HasSeparator (cs : List Char) : Prop :=
  ∃ before separator after, AliasSeparator separator ∧ cs = before ++ separator ++ after

/-- The first separator of a text, what stands before it and what follows it. The blanks behind the
word belong to the separator. -/
structure FirstSeparator (cs name separator rest : List Char) : Prop where
  text : cs = name ++ separator ++ rest
  separator : AliasSeparator separator
  first : ∀ before other after, AliasSeparator other → cs = before ++ other ++ after →
    name.length ≤ before.length
  whole : ∀ c ∈ rest.head?, Text.isBlank c = false

variable {cs name separator rest : List Char}

/-- The word does not begin with a blank, so that the blanks in front of it end where it
begins. -/
theorem AliasWord.unblank {a s : Char} (h : AliasWord a s) : Text.isBlank a = false := by
  rcases h.first with rfl | rfl <;> decide

theorem FirstSeparator.hasSeparator (h : FirstSeparator cs name separator rest) : HasSeparator cs :=
  ⟨name, separator, rest, h.separator, h.text⟩

/-! ## A separator at the beginning -/

/-- Blanks in front of what does not begin with one. -/
theorem dropBlanks_append_of_blank {front : List Char} (hfront : ∀ c ∈ front, Text.isBlank c = true)
    (hrest : ∀ c ∈ rest.head?, Text.isBlank c = false) :
    Text.dropBlanks (front ++ rest) = rest := by
  unfold Text.dropBlanks
  rw [List.dropWhile_append_of_pos hfront]
  cases rest with
  | nil => rfl
  | cons c cs => exact List.dropWhile_cons_of_neg (by simp [hrest c rfl])

/-- What is left when blanks are dropped does not begin with one. -/
theorem head?_dropBlanks (cs : List Char) :
    ∀ c ∈ (Text.dropBlanks cs).head?, Text.isBlank c = false := by
  intro c hc
  have hnone := List.head?_dropWhile_not Text.isBlank cs
  unfold Text.dropBlanks at hc
  rw [Option.mem_def.mp hc] at hnone
  simpa using hnone

/-- Behind the first blank of a separator stand further blanks, the word, and blanks up to what
follows. All of them are taken. -/
theorem aliasAfter?_eq_some_iff : aliasAfter? cs = some rest ↔
    ∃ front a s back, (∀ c ∈ front, Text.isBlank c = true) ∧ AliasWord a s ∧ Blanks back ∧
      cs = front ++ a :: s :: back ++ rest ∧ ∀ c ∈ rest.head?, Text.isBlank c = false := by
  constructor
  · -- what is found: the blanks in front, and those behind the word, are the longest runs
    intro h
    have hsplit : cs.takeWhile Text.isBlank ++ Text.dropBlanks cs = cs :=
      List.takeWhile_append_dropWhile
    unfold aliasAfter? at h
    split at h
    · next a s blank tail hcs =>
      split at h
      · next hword =>
        obtain rfl := Option.some.inj h
        refine ⟨cs.takeWhile Text.isBlank, a, s, blank :: tail.takeWhile Text.isBlank,
          fun c hc => List.all_eq_true.mp List.all_takeWhile c hc, ⟨hword.1, hword.2.1⟩,
          ⟨List.cons_ne_nil _ _, ?_⟩, ?_, head?_dropBlanks tail⟩
        · rw [List.forall_mem_cons]
          exact ⟨hword.2.2, fun c hc => List.all_eq_true.mp List.all_takeWhile c hc⟩
        · have htail : tail.takeWhile Text.isBlank ++ Text.dropBlanks tail = tail :=
            List.takeWhile_append_dropWhile
          simp [htail, ← hcs, hsplit]
      · exact nomatch h
    · exact nomatch h
  · -- what stands there: no shorter run of blanks is tried, since the word begins unblank
    rintro ⟨front, a, s, back, hfront, hword, hback, rfl, hrest⟩
    obtain ⟨hne, hblank⟩ := hback
    cases back with
    | nil => exact absurd rfl hne
    | cons blank back =>
      rw [List.forall_mem_cons] at hblank
      have hdrop : Text.dropBlanks (front ++ a :: s :: (blank :: back) ++ rest) =
          a :: s :: blank :: (back ++ rest) := by
        rw [List.append_assoc]
        exact dropBlanks_append_of_blank hfront fun c hc => Option.some.inj hc ▸ hword.unblank
      unfold aliasAfter?
      rw [hdrop]
      show (if _ then some (Text.dropBlanks (back ++ rest)) else none) = some rest
      rw [if_pos ⟨hword.first, hword.second, hblank.1⟩, dropBlanks_append_of_blank hblank.2 hrest]

/-- What follows the separator that a text begins with. -/
def behindSeparator? : List Char → Option (List Char)
  | [] => none
  | c :: cs => if Text.isBlank c then aliasAfter? cs else none

/-- A text begins with a separator exactly if one is found, and then what follows does not begin
with a blank. -/
theorem behindSeparator?_eq_some_iff : behindSeparator? cs = some rest ↔
    ∃ separator, AliasSeparator separator ∧ cs = separator ++ rest ∧
      ∀ c ∈ rest.head?, Text.isBlank c = false := by
  constructor
  · intro h
    cases cs with
    | nil => exact nomatch h
    | cons c cs =>
      have hfound : (if Text.isBlank c then aliasAfter? cs else none) = some rest := h
      obtain ⟨hc, hafter⟩ := Option.ite_none_right_eq_some.mp hfound
      obtain ⟨front, a, s, back, hfront, hword, hback, rfl, hrest⟩ :=
        aliasAfter?_eq_some_iff.mp hafter
      -- the first blank is looked at apart from those behind it
      refine ⟨c :: front ++ a :: s :: back, .intro ⟨List.cons_ne_nil _ _, ?_⟩ hword hback, rfl,
        hrest⟩
      rw [List.forall_mem_cons]
      exact ⟨hc, hfront⟩
  · rintro ⟨_, ⟨hfront, hword, hback⟩, rfl, hrest⟩
    next front back a s =>
    obtain ⟨hne, hblank⟩ := hfront
    cases front with
    | nil => exact absurd rfl hne
    | cons c front =>
      rw [List.forall_mem_cons] at hblank
      show (if Text.isBlank c then aliasAfter? (front ++ a :: s :: back ++ rest) else none) =
        some rest
      rw [if_pos hblank.1, aliasAfter?_eq_some_iff]
      exact ⟨front, a, s, back, hblank.2, hword, hback, rfl, hrest⟩

/-- Where no separator is found the text begins with none, not even with a shorter one. -/
theorem not_separator_of_behindSeparator? (h : behindSeparator? cs = none) {after : List Char}
    (hseparator : AliasSeparator separator) : cs ≠ separator ++ after := by
  rintro rfl
  obtain ⟨hfront, hword, hback⟩ := hseparator
  next front back a s =>
  have hafter : after.takeWhile Text.isBlank ++ Text.dropBlanks after = after :=
    List.takeWhile_append_dropWhile
  -- a shorter separator would grow to a longest one, which is found
  have hlonger : AliasSeparator (front ++ a :: s :: (back ++ after.takeWhile Text.isBlank)) := by
    refine .intro hfront hword ⟨List.append_ne_nil_of_left_ne_nil hback.ne_nil _, ?_⟩
    rw [List.forall_mem_append]
    exact ⟨hback.blank, fun c hc => List.all_eq_true.mp List.all_takeWhile c hc⟩
  have hfound := behindSeparator?_eq_some_iff.mpr ⟨_, hlonger, rfl, head?_dropBlanks after⟩
  have hsame : front ++ a :: s :: (back ++ after.takeWhile Text.isBlank) ++ Text.dropBlanks after =
      front ++ a :: s :: back ++ after := by
    simp [hafter]
  rw [hsame, h] at hfound
  exact nomatch hfound

/-! ## The first separator -/

/-- There is one first separator at most. -/
theorem FirstSeparator.unique {name' separator' rest' : List Char}
    (h : FirstSeparator cs name separator rest) (h' : FirstSeparator cs name' separator' rest') :
    name = name' ∧ separator = separator' ∧ rest = rest' := by
  have hlength : name.length = name'.length :=
    Nat.le_antisymm (h.first _ _ _ h'.separator h'.text) (h'.first _ _ _ h.separator h.text)
  have htext : name ++ (separator ++ rest) = name' ++ (separator' ++ rest') := by
    rw [← List.append_assoc, ← List.append_assoc, ← h.text, ← h'.text]
  -- both begin at one place, and what is found behind it is a function of the text
  obtain ⟨rfl, hbehind⟩ := List.append_inj htext hlength
  have hfound := behindSeparator?_eq_some_iff.mpr ⟨separator, h.separator, rfl, h.whole⟩
  have hfound' := behindSeparator?_eq_some_iff.mpr ⟨separator', h'.separator, rfl, h'.whole⟩
  rw [hbehind, hfound'] at hfound
  obtain rfl := Option.some.inj hfound
  exact ⟨rfl, List.append_cancel_right hbehind, rfl⟩

/-- A name is cut at its first separator, or has none. -/
theorem splitAlias_cases (cs : List Char) : (splitAlias cs = none ∧ ¬ HasSeparator cs) ∨
    ∃ name separator rest, splitAlias cs = some (name, rest) ∧
      FirstSeparator cs name separator rest := by
  -- each place of the text is tried in turn, from the front
  induction cs with
  | nil =>
    refine .inl ⟨rfl, ?_⟩
    rintro ⟨before, _, after, ⟨hfront, -, -⟩, htext⟩
    simp at htext
  | cons c cs ih =>
    have hbehind : behindSeparator? (c :: cs) = if Text.isBlank c then aliasAfter? cs else none :=
      rfl
    have hcons := splitAlias_cons c cs
    rw [← hbehind] at hcons
    cases hfound : behindSeparator? (c :: cs) with
    | some rest =>
      obtain ⟨separator, hseparator, htext, hrest⟩ := behindSeparator?_eq_some_iff.mp hfound
      rw [hfound] at hcons
      exact .inr ⟨[], separator, rest, hcons, htext, hseparator, fun _ _ _ _ _ => Nat.zero_le _,
        hrest⟩
    | none =>
      rw [hfound] at hcons
      obtain ⟨hnone, hno⟩ | ⟨name, separator, rest, hsome, hfirst⟩ := ih
      · -- a separator begins here, which has been ruled out, or further behind
        refine .inl ⟨by rw [hcons, hnone]; rfl, ?_⟩
        rintro ⟨before, other, after, hother, htext⟩
        cases before with
        | nil => exact not_separator_of_behindSeparator? hfound hother htext
        | cons b before => exact hno ⟨before, other, after, hother, (List.cons.inj htext).2⟩
      · refine .inr ⟨c :: name, separator, rest, by rw [hcons, hsome]; rfl, ?_, hfirst.separator,
          ?_, hfirst.whole⟩
        · rw [hfirst.text]
          rfl
        · intro before other after hother htext
          cases before with
          | nil => exact absurd htext (not_separator_of_behindSeparator? hfound hother)
          | cons b before =>
            exact Nat.succ_le_succ (hfirst.first before other after hother (List.cons.inj htext).2)

/-- A name is cut where its first separator stands. -/
theorem splitAlias_eq_some (h : FirstSeparator cs name separator rest) :
    splitAlias cs = some (name, rest) := by
  obtain ⟨-, hno⟩ | ⟨name', separator', rest', hsome, hfirst⟩ := splitAlias_cases cs
  · exact absurd h.hasSeparator hno
  · obtain ⟨rfl, -, rfl⟩ := h.unique hfirst
    exact hsome

/-- Where a name is cut, its first separator stands. -/
theorem FirstSeparator.of_splitAlias (h : splitAlias cs = some (name, rest))
    (htext : cs = name ++ separator ++ rest) : FirstSeparator cs name separator rest := by
  obtain ⟨hnone, -⟩ | ⟨name', separator', rest', hsome, hfirst⟩ := splitAlias_cases cs
  · exact nomatch hnone.symm.trans h
  · obtain ⟨rfl, rfl⟩ := Prod.mk.inj (Option.some.inj (hsome.symm.trans h))
    have hsame : separator' = separator :=
      List.append_cancel_left (List.append_cancel_right (hfirst.text.symm.trans htext))
    exact hsame ▸ hfirst

theorem splitAlias_eq_none (h : ¬ HasSeparator cs) : splitAlias cs = none := by
  obtain ⟨hnone, -⟩ | ⟨name, separator, rest, -, hfirst⟩ := splitAlias_cases cs
  · exact hnone
  · exact absurd hfirst.hasSeparator h

end QueryBuilder
