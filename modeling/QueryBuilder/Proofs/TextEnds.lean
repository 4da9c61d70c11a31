import QueryBuilder.Proofs.AliasSeparators
import QueryBuilder.Proofs.Frames
import QueryBuilder.Proofs.WriteText

/-!
# Where a text ends

Statements are trimmed when they are put together. Trimming takes nothing off a statement that
starts with a word and whose last character is no blank; such a character is the last of every
quoted name.

- `EndsUnblank`: a text whose last character is no blank. `EndsUnblank.trim`: trimming leaves no
  other.
- `trim_append_blanks`, `trim_of_endsUnblank`: what trimming leaves of a statement.
- `endsUnblank_quoteName`: how quoted names end.
-/

namespace QueryBuilder

/-- The last character of the text is no blank. -/
def EndsUnblank (s : String) : Prop :=
  ∃ c ∈ s.toList.getLast?, Text.isBlank c = false

-- read off the last character, for there is no deciding over all characters
instance (s : String) : Decidable (EndsUnblank s) :=
  decidable_of_iff ((s.toList.getLast?.any fun c => !Text.isBlank c) = true)
    (by simp [EndsUnblank, Option.any_eq_true])

namespace EndsUnblank

variable {s : String}

/-- What stands in front does not matter. -/
theorem after (h : EndsUnblank s) (t : String) : EndsUnblank (t ++ s) := by
  obtain ⟨c, hlast, hc⟩ := h
  refine ⟨c, ?_, hc⟩
  rw [String.toList_append, List.getLast?_append, Option.mem_def.mp hlast]
  rfl

theorem ne_empty (h : EndsUnblank s) : s ≠ "" := by
  rintro rfl
  exact absurd h (by decide)

/-- What trimming leaves ends in no blank. -/
theorem trim (h : Text.trim s ≠ "") : EndsUnblank (Text.trim s) := by
  unfold Text.trim Text.dropBlanksRight at h ⊢
  -- trimming the end drops the blanks of the reverse, so the last character heads what is left
  have hhead := head?_dropBlanks (Text.dropBlanks s.toList).reverse
  cases hleft : Text.dropBlanks (Text.dropBlanks s.toList).reverse with
  | nil => rw [hleft] at h; exact absurd rfl h
  | cons c rest =>
    rw [hleft] at hhead
    refine ⟨c, ?_, hhead c rfl⟩
    rw [String.toList_ofList, List.reverse_cons, List.getLast?_concat]
    rfl

/-- Something is left of a text that starts with no blank. -/
theorem trim_of_head {c : Char} (hs : s.toList.head? = some c) (hc : Text.isBlank c = false) :
    EndsUnblank (Text.trim s) := by
  refine trim ?_
  intro hempty
  obtain ⟨blanks, hblanks, htext⟩ := shownAs_trim hs hc
  rw [hempty, String.empty_append] at htext
  have hblank : Text.isBlank c = true := hblanks c (htext ▸ List.mem_of_mem_head? hs)
  rw [hc] at hblank
  cases hblank

/-- A text that trimming leaves as it is ends in no blank, unless it is empty. -/
theorem of_trim_eq (hne : s ≠ "") (htrim : Text.trim s = s) : EndsUnblank s := by
  rw [← htrim] at hne ⊢
  exact trim hne

/-- Joined texts end as the last of them does. -/
theorem join {separator : String} {ts : List String} (hne : ts ≠ []) (h : ∀ t ∈ ts, EndsUnblank t) :
    EndsUnblank (Text.join separator ts) := by
  induction ts with
  | nil => exact absurd rfl hne
  | cons t ts ih =>
    rw [List.forall_mem_cons] at h
    cases ts with
    | nil => exact h.1
    | cons u us =>
      rw [Text.join_cons_cons]
      exact (ih (List.cons_ne_nil u us) h.2).after _

end EndsUnblank

/-- A statement that starts with a word and ends in no blank loses the blanks behind it, and nothing
else. -/
theorem trim_append_blanks {front rest blanks : String} {c : Char}
    (hfront : front.toList.head? = some c) (hc : Text.isBlank c = false)
    (hrest : EndsUnblank (front ++ rest)) (hblanks : AllBlank blanks) :
    Text.trim (front ++ rest ++ blanks) = front ++ rest := by
  obtain ⟨e, hlast, he⟩ := hrest
  obtain ⟨shown, hlist⟩ := List.getLast?_eq_some_iff.mp hlast
  obtain ⟨cs, hcs⟩ := List.head?_eq_some_iff.mp hfront
  -- nothing is dropped in front, for there a word starts
  have hleft : Text.dropBlanks (front ++ rest ++ blanks).toList = shown ++ e :: blanks.toList := by
    have hstarts : (front ++ rest ++ blanks).toList =
        c :: (cs ++ rest.toList ++ blanks.toList) := by
      rw [String.toList_append, String.toList_append, hcs]
      rfl
    have hkept : Text.dropBlanks (front ++ rest ++ blanks).toList =
        (front ++ rest ++ blanks).toList := by
      rw [hstarts]
      exact List.dropWhile_cons_of_neg (by simp [hc])
    rw [hkept, String.toList_append, hlist, List.append_assoc]
    rfl
  -- the blanks behind are all there is to drop at the end
  have hright : Text.dropBlanksRight blanks.toList = [] := by
    have hturned : ∀ d ∈ blanks.toList.reverse, Text.isBlank d = true :=
      fun d hd => hblanks d (List.mem_reverse.mp hd)
    have hnone := dropBlanks_append_of_blank hturned fun d (hd : d ∈ ([] : List Char).head?) => by
      cases hd
    rw [List.append_nil] at hnone
    unfold Text.dropBlanksRight
    rw [hnone]
    rfl
  unfold Text.trim
  rw [hleft, dropBlanksRight_append_cons he, hright, ← hlist, String.ofList_toList]

/-- Without blanks behind it the statement stays as it is. -/
theorem trim_of_endsUnblank {front rest : String} {c : Char} (hfront : front.toList.head? = some c)
    (hc : Text.isBlank c = false) (hrest : EndsUnblank (front ++ rest)) :
    Text.trim (front ++ rest) = front ++ rest := by
  have hkept := trim_append_blanks hfront hc hrest allBlank_empty
  rwa [String.append_empty] at hkept

/-! ## Quoted names -/

/-- An identifier ends with its mark, or is a star. -/
theorem endsUnblank_quoteChars (d : Dialect) (cs : List Char) :
    EndsUnblank (String.ofList (d.quoteChars cs)) := by
  have hmark : Text.isBlank d.quoteMark = false := by cases d <;> decide
  by_cases hstar : cs = ['*']
  · subst hstar
    cases d <;> decide
  · refine ⟨d.quoteMark, ?_, hmark⟩
    unfold Dialect.quoteChars
    rw [if_neg hstar, String.toList_ofList, List.getLast?_concat]
    rfl

/-- A name in segments ends as its last segment does. -/
theorem endsUnblank_quoteDotted (d : Dialect) (name : List Char) :
    EndsUnblank (d.quoteDotted name) := by
  refine EndsUnblank.join ?_ ?_
  · rw [ne_eq, List.map_eq_nil_iff]
    exact Text.pieces_ne_nil '.' name
  · intro t ht
    obtain ⟨part, -, rfl⟩ := List.mem_map.mp ht
    exact endsUnblank_quoteChars d part

/-- A name ends as its label does, or as its last segment. -/
theorem endsUnblank_quoteName (d : Dialect) (s : String) : EndsUnblank (d.quoteName s) := by
  unfold Dialect.quoteName
  split
  · exact endsUnblank_quoteDotted d s.toList
  · exact (endsUnblank_quoteChars d _).after _

end QueryBuilder
