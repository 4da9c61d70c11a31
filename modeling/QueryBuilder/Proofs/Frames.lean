import QueryBuilder.Proofs.Alignment

/-!
# Texts around a text

A statement is put together around the texts of its parts. Where one part changes and all others
stay, the statement around it stays too: what is done to the whole, like cutting blanks off its
ends, does not reach into parentheses.

- `textBefore`, `textBehind`: what stands around one of several texts that are joined. `join_split`.
- `Framed`: a text that depends on another one has it in parentheses, between two texts that do not
  depend on it.
- `FramedAmong`: one of several texts does, and the others do not depend on it.
-/

namespace QueryBuilder

/-! ## One of several texts -/

/-- Texts one after the other, each with a separator behind it. -/
def textBefore (separator : String) : List String → String
  | [] => ""
  | t :: ts => t ++ separator ++ textBefore separator ts

/-- Texts one after the other, each with a separator in front of it. -/
def textBehind (separator : String) : List String → String
  | [] => ""
  | t :: ts => separator ++ t ++ textBehind separator ts

/-- Behind the first text stand the others, each with its separator in front. -/
theorem join_cons (separator t : String) (ts : List String) :
    Text.join separator (t :: ts) = t ++ textBehind separator ts := by
  induction ts generalizing t with
  | nil => simp [textBehind]
  | cons u us ih => rw [Text.join_cons_cons, ih u, textBehind, String.append_assoc,
    String.append_assoc]

/-- A text among others that are joined. -/
theorem join_split (separator : String) (ts : List String) (t : String) (us : List String) :
    Text.join separator (ts ++ t :: us) = textBefore separator ts ++ t ++
      textBehind separator us := by
  induction ts with
  | nil => rw [List.nil_append, join_cons, textBefore, String.empty_append]
  | cons s ts ih =>
    have hmore : Text.join separator (s :: (ts ++ t :: us)) =
        s ++ separator ++ Text.join separator (ts ++ t :: us) := by
      cases ts <;> rfl
    rw [List.cons_append, hmore, ih, textBefore]
    simp only [String.append_assoc]

/-- What stands in front of one of several texts carries what these carry. -/
theorem CarriesAll.textBefore {separator : String} (hseparator : Carries separator 0)
    {ts : List String} {n : Nat} (h : CarriesAll ts n) :
    Carries (QueryBuilder.textBefore separator ts) n := by
  induction ts generalizing n with
  | nil => exact h.count ▸ carries_empty
  | cons t ts ih =>
    obtain ⟨m, k, rfl, ht, hts⟩ := h.head
    exact (ht.append hseparator).append (ih hts)

/-! ## Ends of a text -/

/-- Blanks in front are in front of the first character that is none. -/
theorem dropBlanks_append_cons {c : Char} (hc : Text.isBlank c = false) (as bs : List Char) :
    Text.dropBlanks (as ++ c :: bs) = Text.dropBlanks as ++ c :: bs := by
  unfold Text.dropBlanks
  induction as with
  | nil => rw [List.nil_append, List.dropWhile_cons_of_neg (by simp [hc])]; rfl
  | cons a as ih =>
    rw [List.cons_append, List.dropWhile_cons, List.dropWhile_cons, ih]
    split <;> rfl

/-- Blanks at the end are behind the last character that is none. -/
theorem dropBlanksRight_append_cons {c : Char} (hc : Text.isBlank c = false) (as bs : List Char) :
    Text.dropBlanksRight (as ++ c :: bs) = as ++ c :: Text.dropBlanksRight bs := by
  unfold Text.dropBlanksRight
  have hturned : (as ++ c :: bs).reverse = bs.reverse ++ c :: as.reverse := by simp
  rw [hturned, dropBlanks_append_cons hc]
  simp

/-- A word that is taken away in front ends before the first character that it does not have. -/
theorem dropWord_append_cons {word : List Char} {c : Char} (hc : c.toLower ∉ word)
    (as bs : List Char) :
    dropWord word (as ++ c :: bs) = (dropWord word as).map (· ++ c :: bs) := by
  unfold dropWord
  by_cases hlength : word.length ≤ as.length
  · rw [List.take_append_of_le_length hlength, List.drop_append_of_le_length hlength]
    split <;> rfl
  · -- the word would have to go on past the character
    have hshort : ¬ (as.take word.length).map Char.toLower = word := by
      intro h
      have := congrArg List.length h
      simp at this
      omega
    have hlong : ¬ ((as ++ c :: bs).take word.length).map Char.toLower = word := by
      intro h
      refine hc (h ▸ List.mem_map_of_mem ?_)
      obtain ⟨k, hk⟩ := Nat.exists_eq_add_of_lt (Nat.lt_of_not_le hlength)
      rw [hk, List.take_append]
      simp [Nat.add_assoc]
    rw [if_neg hshort, if_neg hlong]
    rfl

/-! ## Framed texts -/

/-- A text that depends on another one has it in parentheses between two texts that stay as they
are. -/
def Framed (f : String → String) : Prop :=
  ∃ before after, ∀ t, f t = before ++ ("(" ++ t ++ ")") ++ after

/-- One of several texts has a text in parentheses between texts that stay as they are, and so do
the others. -/
def FramedAmong (f : String → List String) : Prop :=
  ∃ front back g, Framed g ∧ ∀ t, f t = front ++ g t :: back

namespace Framed

variable {f : String → String}

theorem parentheses : Framed fun t => "(" ++ t ++ ")" :=
  ⟨"", "", fun t => by simp⟩

theorem after (h : Framed f) (s : String) : Framed fun t => s ++ f t := by
  obtain ⟨before, after, h⟩ := h
  exact ⟨s ++ before, after, fun t => by simp only [h, String.append_assoc]⟩

theorem before (h : Framed f) (s : String) : Framed fun t => f t ++ s := by
  obtain ⟨before, after, h⟩ := h
  exact ⟨before, after ++ s, fun t => by simp only [h, String.append_assoc]⟩

theorem parenthesized (h : Framed f) : Framed fun t => Dialect.parenthesized (f t) :=
  (h.after "(").before ")"

theorem ne_empty (h : Framed f) (t : String) : f t ≠ "" := by
  obtain ⟨before, after, h⟩ := h
  rw [h]
  simp

/-- A framed text is not empty, so its keyword is always written. -/
theorem keyword (h : Framed f) (word : String) :
    Framed fun t => QueryBuilder.keyword word (f t) := by
  have hkeyword : (fun t => QueryBuilder.keyword word (f t)) = fun t => word ++ " " ++ f t :=
    funext fun t => if_neg (h.ne_empty t)
  rw [hkeyword]
  exact h.after _

/-- Blanks are cut off in front of the opening parenthesis and behind the closing one. -/
theorem trim (h : Framed f) : Framed fun t => Text.trim (f t) := by
  obtain ⟨before, after, h⟩ := h
  refine ⟨String.ofList (Text.dropBlanks before.toList),
    String.ofList (Text.dropBlanksRight after.toList), fun t => ?_⟩
  -- the parentheses are no blanks, so neither end of the frame is passed
  have hlist : (f t).toList = before.toList ++ '(' :: (t.toList ++ ')' :: after.toList) := by
    rw [h]
    simp
  refine String.toList_inj.mp ?_
  show (Text.trim (f t)).toList = _
  rw [Text.trim, hlist, dropBlanks_append_cons (by decide), ← List.cons_append, ← List.append_assoc,
    dropBlanksRight_append_cons (by decide)]
  simp

/-- A connector is taken off in front of the opening parenthesis, if at all. -/
theorem dropConnector (h : Framed f) : Framed fun t => QueryBuilder.dropConnector (f t) := by
  obtain ⟨before, after, h⟩ := h
  refine ⟨QueryBuilder.dropConnector before, after, fun t => ?_⟩
  have hlist : (f t).toList = before.toList ++ '(' :: (t.toList ++ ')' :: after.toList) := by
    rw [h]
    simp
  refine String.toList_inj.mp ?_
  show (QueryBuilder.dropConnector (f t)).toList = _
  unfold QueryBuilder.dropConnector
  rw [hlist, dropWord_append_cons (by decide), dropWord_append_cons (by decide)]
  -- one of the two words is met in the text in front, or neither is
  cases dropWord ['a', 'n', 'd', ' '] before.toList with
  | some rest => simp
  | none =>
    cases dropWord ['o', 'r', ' '] before.toList with
    | some rest => simp
    | none => simp [h]

end Framed

namespace FramedAmong

variable {f : String → List String}

theorem last {g : String → String} (hg : Framed g) (front : List String) :
    FramedAmong fun t => front ++ [g t] :=
  ⟨front, [], g, hg, fun _ => rfl⟩

/-- The texts around a framed one are part of its frame. -/
theorem join (h : FramedAmong f) (separator : String) :
    Framed fun t => Text.join separator (f t) := by
  obtain ⟨front, back, g, hg, h⟩ := h
  have hjoin : (fun t => Text.join separator (f t)) =
      fun t => textBefore separator front ++ g t ++ textBehind separator back :=
    funext fun t => by rw [h, join_split]
  rw [hjoin]
  exact (hg.after _).before _

/-- Clauses that are empty are left out, and the framed one is not empty. -/
theorem concatenate (h : FramedAmong f) : Framed fun t => QueryBuilder.concatenate (f t) := by
  obtain ⟨front, back, g, hg, h⟩ := h
  refine FramedAmong.join ⟨front.filter (· ≠ ""), back.filter (· ≠ ""), g, hg, fun t => ?_⟩ " "
  rw [h, List.filter_append, List.filter_cons_of_pos (by simpa using hg.ne_empty t)]

end FramedAmong

end QueryBuilder
