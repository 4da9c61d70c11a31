import QueryBuilder.Proofs.StatementText

/-!
# Conditions, joins and unions

What their texts carry. There is one lemma for each kind of predicate and one for each list: a list
of conditions, of joins or of unions carries what its members carry, although the connector in front
of the first condition is taken away (`carries_dropConnector`) and the text of a join is trimmed
(`carries_trim`).
-/

namespace QueryBuilder

variable {d : Dialect} {c : Column} {operator : String} {m n : Nat}

/-! ## Predicates -/

/-- A comparison carries what its column and its operand carry. -/
theorem carries_compare {o : Operand} (hc : Carries (d.column c) m) (hop : Carries operator 0)
    (ho : Carries o.sql n) : Carries (predicateText d (.compare c operator o)) (m + n) := by
  rw [predicateText]
  simpa using (((hc.append carries_space).append hop).append carries_space).append ho

/-- A comparison of two columns carries nothing. -/
theorem carries_compareColumns {second : Column} (hc : Carries (d.column c) 0)
    (hop : Carries operator 0) (hsecond : Carries (d.column second) 0) :
    Carries (predicateText d (.compareColumns c operator second)) 0 := by
  rw [predicateText]
  simpa using (((hc.append carries_space).append hop).append carries_space).append hsecond

/-- A test for null carries what its column carries. -/
theorem carries_isNull {negated : Bool} (hc : Carries (d.column c) m) :
    Carries (predicateText d (.isNull negated c)) m := by
  rw [predicateText]
  have hword : Carries (if negated then " is not null" else " is null") 0 := by
    cases negated <;> decide
  simpa using hc.append hword

/-- A list of candidates carries what its members carry. Nothing is written for an empty list but
a comparison of numbers. -/
theorem carries_isIn {negated : Bool} {os : List Operand} (hc : Carries (d.column c) 0)
    (hos : CarriesAll (os.map Operand.sql) n) :
    Carries (predicateText d (.isIn negated c os)) n := by
  rw [predicateText, Dialect.isInText]
  split
  · next hempty =>
    -- a column is in no empty list, and there is no placeholder to say so with
    have hn : n = 0 := hos.eq_zero hempty
    subst hn
    cases negated <;> decide
  · have hword : Carries (if negated then " not in (" else " in (") 0 := by
      cases negated <;> decide
    have hlist : Carries (Operand.sqlList os) n := CarriesAll.join (by decide) hos
    have hclose : Carries ")" 0 := by decide
    simpa using ((hc.append hword).append hlist).append hclose

theorem carries_betweenWord (negated : Bool) : Carries (betweenWord negated) 0 := by
  cases negated <;> decide

/-- A range carries what its two ends carry. -/
theorem carries_between {negated : Bool} {low high : Operand} (hc : Carries (d.column c) 0)
    (hlow : Carries low.sql m) (hhigh : Carries high.sql n) :
    Carries (predicateText d (.between negated c low high)) (m + n) := by
  rw [predicateText]
  have hand : Carries " and " 0 := by decide
  have hword := (hc.append carries_space).append (carries_betweenWord negated)
  simpa using (((hword.append carries_space).append hlow).append hand).append hhigh

/-- A range between two columns carries nothing. -/
theorem carries_betweenColumns {negated : Bool} {low high : Column} (hc : Carries (d.column c) 0)
    (hlow : Carries (d.column low) 0) (hhigh : Carries (d.column high) 0) :
    Carries (predicateText d (.betweenColumns negated c low high)) 0 := by
  rw [predicateText]
  have hand : Carries " and " 0 := by decide
  have hword := (hc.append carries_space).append (carries_betweenWord negated)
  simpa using (((hword.append carries_space).append hlow).append hand).append hhigh

/-- A part of a date is taken out by a function, or by a format where there is none; both carry
what the operand carries. -/
theorem carries_datePart {part : DatePart} {o : Operand} (hc : Carries (d.column c) 0)
    (hop : Carries operator 0) (ho : Carries o.sql n) :
    Carries (predicateText d (.datePart part c operator o)) n := by
  have hclose : Carries ") " 0 := by decide
  have hformat : Carries ("strftime('" ++ part.format ++ "', ") 0 := by cases part <;> decide
  have hname : Carries (part.sql ++ "(") 0 := by cases part <;> decide
  have hcall : Carries (part.sql ++ "(" ++ d.column c ++ ") " ++ operator ++ " " ++ o.sql) n := by
    simpa only [Nat.zero_add] using
      ((((hname.append hc).append hclose).append hop).append carries_space).append ho
  rw [predicateText]
  -- one dialect formats the date and casts the operand, the others call a function
  cases d with
  | sqlite =>
    have hleft := ((hformat.append hc).append hclose).append hop
    have hcast := (hleft.append (by decide : Carries " cast(" 0)).append ho
    have htext := hcast.append (by decide : Carries " as text)" 0)
    simp only [Nat.zero_add, Nat.add_zero] at htext
    exact htext
  | mysql => exact hcall
  | plain => exact hcall

/-- A comparison with a sub-query carries what the column and the statement of the sub-query
carry. -/
theorem carries_compareQuery {q : Query} (hc : Carries (d.column c) m) (hop : Carries operator 0)
    (hq : Carries (q.textIn d) n) :
    Carries (predicateText d (.compareQuery c operator q)) (m + n) := by
  have hopen : Carries " (" 0 := by decide
  have hclose : Carries ")" 0 := by decide
  rw [predicateText]
  have hleft := ((hc.append carries_space).append hop).append hopen
  simpa [Query.textIn] using (hleft.append hq).append hclose

/-- A test for rows carries what the statement of its sub-query carries. -/
theorem carries_exists {negated : Bool} {q : Query} (hq : Carries (q.textIn d) n) :
    Carries (predicateText d (.exists negated q)) n := by
  rw [predicateText]
  refine Carries.between ?_ hq (by decide)
  cases negated <;> decide

/-! ## Conditions -/

/-- A word that is taken away holds neither a quotation mark nor a placeholder. -/
theorem inert_of_map_toLower {cs word : List Char} (h : cs.map Char.toLower = word)
    (hword : '\x60' ∉ word ∧ '"' ∉ word ∧ '?' ∉ word) : Inert cs := by
  refine inert_of_ne fun ch hch => ?_
  have hmem : ch.toLower ∈ word := h ▸ List.mem_map_of_mem hch
  -- the three characters have no other case
  refine ⟨?_, ?_, ?_⟩
  · rintro rfl
    exact hword.1 hmem
  · rintro rfl
    exact hword.2.1 hmem
  · rintro rfl
    exact hword.2.2 hmem

/-- A word that is taken away stood in front, in whatever case. -/
theorem dropWord_eq_some {word cs rest : List Char} (h : dropWord word cs = some rest) :
    ∃ front, cs = front ++ rest ∧ front.map Char.toLower = word := by
  unfold dropWord at h
  split at h
  · next hfront =>
    refine ⟨cs.take word.length, ?_, hfront⟩
    rw [← Option.some.inj h, List.take_append_drop]
  · exact absurd h (by simp)

/-- A text is a connector that is taken away, or nothing, and what is left of it. -/
theorem exists_connector_before (s : String) : ∃ front,
    s.toList = front ++ (dropConnector s).toList ∧
      front.map Char.toLower ∈ [['a', 'n', 'd', ' '], ['o', 'r', ' '], []] := by
  unfold dropConnector
  split
  · next rest hand =>
    obtain ⟨front, hsplit, hfront⟩ := dropWord_eq_some hand
    exact ⟨front, by rwa [String.toList_ofList], by simp [hfront]⟩
  · split
    · next rest hor =>
      obtain ⟨front, hsplit, hfront⟩ := dropWord_eq_some hor
      exact ⟨front, by rwa [String.toList_ofList], by simp [hfront]⟩
    · exact ⟨[], rfl, by simp⟩

/-- A text loses no placeholder with the connector in front of it. -/
theorem carries_dropConnector {s : String} (h : Carries s n) : Carries (dropConnector s) n := by
  obtain ⟨front, hsplit, hfront⟩ := exists_connector_before s
  -- a front that was taken away is one of three words, none of which opens a quote
  have hinert : Inert front := by
    refine inert_of_map_toLower rfl ?_
    generalize front.map Char.toLower = word at hfront
    revert word
    decide
  rw [← String.ofList_toList (s := s), hsplit] at h
  simpa using Carries.of_inert_append hinert h

/-- The texts of conditions are those of the first and those of the rest. -/
theorem conditionTexts_append (d : Dialect) (as bs : List Condition) :
    conditionTexts d (as ++ bs) = conditionTexts d as ++ conditionTexts d bs := by
  induction as with
  | nil => simp [conditionTexts]
  | cons a as ih =>
    cases a
    simp [conditionTexts, ih]

@[simp] theorem isEmpty_conditionTexts (d : Dialect) (ws : List Condition) :
    (conditionTexts d ws).isEmpty = ws.isEmpty := by
  cases ws with
  | nil => simp [conditionTexts]
  | cons w ws =>
    cases w
    simp [conditionTexts]

/-- A condition carries what its predicate carries, whatever ties it to the one before it. -/
theorem carriesAll_condition {connector : Connector} {predicate : Predicate}
    (h : Carries (predicateText d predicate) n) :
    CarriesAll (conditionTexts d [⟨connector, predicate⟩]) n := by
  have hconnector : Carries (connector.sql ++ " ") 0 := by cases connector <;> decide
  simpa [conditionTexts] using CarriesAll.singleton (hconnector.append h)

theorem carries_conditionsText {ws : List Condition} (h : CarriesAll (conditionTexts d ws) n) :
    Carries (conditionsText d ws) n :=
  carries_dropConnector (CarriesAll.join carries_space h)

theorem carries_group {ws : List Condition} (h : CarriesAll (conditionTexts d ws) n) :
    Carries (predicateText d (.group ws)) n := by
  rw [predicateText]
  exact (carries_conditionsText h).parenthesized

/-- A keyword in front of a text adds nothing, and is left out with an empty text. -/
theorem carries_keyword {word s : String} (hword : Carries (word ++ " ") 0) (h : Carries s n) :
    Carries (keyword word s) n := by
  unfold keyword
  split
  · next hempty => exact hempty ▸ h
  · simpa using hword.append h

/-! ## Joins -/

/-- Blanks neither open a quote nor stand for a value. -/
theorem inert_of_isBlank {cs : List Char} (h : ∀ ch ∈ cs, Text.isBlank ch = true) : Inert cs := by
  refine inert_of_ne fun ch hch => ?_
  have hblank := h ch hch
  refine ⟨?_, ?_, ?_⟩ <;> rintro rfl <;> exact absurd hblank (by decide)

/-- A text is its trimmed text with blanks around it. -/
theorem exists_blanks_around (s : String) : ∃ front back,
    s.toList = front ++ (Text.trim s).toList ++ back ∧ (∀ c ∈ front, Text.isBlank c = true) ∧
      ∀ c ∈ back, Text.isBlank c = true := by
  have hsplit : s.toList.takeWhile Text.isBlank ++ Text.dropBlanks s.toList = s.toList :=
    List.takeWhile_append_dropWhile
  rw [Text.trim, String.toList_ofList]
  generalize Text.dropBlanks s.toList = cs at hsplit
  -- the back is trimmed by trimming the reverse
  have hlast : Text.dropBlanksRight cs ++ (cs.reverse.takeWhile Text.isBlank).reverse = cs := by
    rw [Text.dropBlanksRight, Text.dropBlanks, ← List.reverse_append,
      List.takeWhile_append_dropWhile, List.reverse_reverse]
  refine ⟨s.toList.takeWhile Text.isBlank, (cs.reverse.takeWhile Text.isBlank).reverse, ?_, ?_, ?_⟩
  · rw [List.append_assoc, hlast, hsplit]
  · exact fun c hc => List.all_eq_true.mp List.all_takeWhile c hc
  · exact fun c hc => List.all_eq_true.mp List.all_takeWhile c (List.mem_reverse.mp hc)

/-- Blanks at the two ends are outside of all quotes. -/
theorem carries_trim {s : String} (h : Carries s n) : Carries (Text.trim s) n := by
  obtain ⟨front, back, hsplit, hfront, hback⟩ := exists_blanks_around s
  rw [← String.ofList_toList (s := s), hsplit] at h
  have hinner := Carries.of_append_inert (inert_of_isBlank hback) h
  simpa using Carries.of_inert_append (inert_of_isBlank hfront) hinner

/-- The texts of joins are those of the first and those of the rest. -/
theorem joinTexts_append (d : Dialect) (as bs : List Join) :
    joinTexts d (as ++ bs) = joinTexts d as ++ joinTexts d bs := by
  induction as with
  | nil => simp [joinTexts]
  | cons a as ih =>
    cases a
    simp [joinTexts, ih]

@[simp] theorem isEmpty_joinTexts (d : Dialect) (js : List Join) :
    (joinTexts d js).isEmpty = js.isEmpty := by
  cases js with
  | nil => simp [joinTexts]
  | cons j js =>
    cases j
    simp [joinTexts]

/-- A join carries what its source, the joins inside it and its conditions carry. -/
theorem carriesAll_join {kind : JoinKind} {source : Source} {ws : List Condition}
    {joins : List Join} {k : Nat} (hsource : Carries (d.source source) m)
    (hjoins : CarriesAll (joinTexts d joins) k) (hws : CarriesAll (conditionTexts d ws) n) :
    CarriesAll (joinTexts d [⟨kind, source, ws, joins⟩]) (m + k + n) := by
  have hkind : Carries (kind.sql ++ " join ") 0 := by cases kind <;> decide
  have hon : Carries (keyword "on" (conditionsText d ws)) n :=
    carries_keyword (by decide) (carries_conditionsText hws)
  -- joins inside a join stand in parentheses with its source
  have htarget : Carries
      (if joins.isEmpty then d.source source
        else "(" ++ d.source source ++ " " ++ Text.join " " (joinTexts d joins) ++ ")")
          (m + k) := by
    split
    · next hempty =>
      have hk : k = 0 := by
        rw [List.isEmpty_iff] at hempty
        subst hempty
        simpa [joinTexts] using hjoins.count.symm
      exact hk ▸ hsource
    · have hinner := (hsource.append carries_space).append (CarriesAll.join carries_space hjoins)
      simpa [String.append_assoc] using hinner.parenthesized
  have htext := ((hkind.append htarget).append carries_space).append hon
  simp only [Nat.zero_add, Nat.add_zero] at htext
  simpa [joinTexts, conditionsText] using CarriesAll.singleton (carries_trim htext)

/-! ## Unions -/

/-- The texts of further queries are those of the first and those of the rest. -/
theorem unionTexts_append (d : Dialect) (as bs : List Union) :
    unionTexts d (as ++ bs) = unionTexts d as ++ unionTexts d bs := by
  induction as with
  | nil => simp [unionTexts]
  | cons a as ih =>
    cases a
    simp [unionTexts, ih]

@[simp] theorem isEmpty_unionTexts (d : Dialect) (us : List Union) :
    (unionTexts d us).isEmpty = us.isEmpty := by
  cases us with
  | nil => simp [unionTexts]
  | cons u us =>
    cases u
    simp [unionTexts]

/-- A further query carries what its statement carries. -/
theorem carriesAll_union {all : Bool} {q : Query} (hq : Carries (q.textIn d) n) :
    CarriesAll (unionTexts d [⟨all, q⟩]) n := by
  have hword : Carries (if all then "union all " else "union ") 0 := by cases all <;> decide
  simpa [unionTexts, Dialect.parenthesized, Query.textIn] using
    CarriesAll.singleton (hword.append hq.parenthesized)

/-! ## Orderings -/

/-- The direction behind a column adds nothing. -/
theorem carries_sortKey_column (hc : Carries (d.column c) n) (direction : Direction) :
    Carries (d.sortKeyText (.column c direction)) n := by
  have hword : Carries (" " ++ direction.sql) 0 := by cases direction <;> decide
  simpa [Dialect.sortKeyText, String.append_assoc] using hc.append hword

/-- A list of orderings carries what its entries carry. -/
theorem CarriesAll.ordersText {orders : List SortKey}
    (h : CarriesAll (orders.map d.sortKeyText) n) : Carries (d.ordersText orders) n := by
  unfold Dialect.ordersText
  split
  · next hempty => exact h.eq_zero hempty ▸ carries_empty
  · have hword : Carries "order by " 0 := by decide
    simpa using hword.append (CarriesAll.join (by decide) h)

end QueryBuilder
