import QueryBuilder.Proofs.Placeholders

/-!
# The parts of a statement and their placeholders

What the text of each part of a statement carries, from the quoted name up to the clause. A quoted
name carries nothing, whatever stands in it, because the mark inside it is written twice
(`carries_quote`); an operand carries as much as it binds (`Operand.carries_sql`); everything larger
carries the sum of its parts.

- `scalarCount`: how many scalars some values are spread into, hence how many places they fill.
- `carries_quoteName`, `carries_source_table`: names.
- `carries_of_knows`, `carries_toString`: operators and numbers.
-/

namespace QueryBuilder

/-! ## Values -/

/-- How many scalars some values are spread into. -/
def scalarCount (vs : List Value) : Nat :=
  (vs.flatMap Value.leaves).length

@[simp] theorem scalarCount_nil : scalarCount [] = 0 := rfl

@[simp] theorem scalarCount_append (vs ws : List Value) :
    scalarCount (vs ++ ws) = scalarCount vs + scalarCount ws := by
  simp [scalarCount]

mutual

/-- What is found inside a value has no parts of its own. -/
theorem Value.isScalar_of_mem_leaves : ∀ (v : Value), ∀ w ∈ v.leaves, w.isScalar = true
  | .list items, w, hw => isScalar_of_mem_leavesOfItems items w (by simpa [leaves] using hw)
  | .record fields, w, hw => isScalar_of_mem_leavesOfFields fields w (by simpa [leaves] using hw)
  | .null, w, hw => by simp [leaves] at hw; simp [hw, isScalar]
  | .bool b, w, hw => by simp [leaves] at hw; simp [hw, isScalar]
  | .number n, w, hw => by simp [leaves] at hw; simp [hw, isScalar]
  | .text s, w, hw => by simp [leaves] at hw; simp [hw, isScalar]

/-- The same of the items of a list. -/
theorem Value.isScalar_of_mem_leavesOfItems :
    ∀ (vs : List Value), ∀ w ∈ leavesOfItems vs, w.isScalar = true
  | [], w, hw => by simp [leavesOfItems] at hw
  | v :: vs, w, hw => by
    rw [leavesOfItems, List.mem_append] at hw
    rcases hw with hw | hw
    · exact isScalar_of_mem_leaves v w hw
    · exact isScalar_of_mem_leavesOfItems vs w hw

/-- The same of the fields of a record. -/
theorem Value.isScalar_of_mem_leavesOfFields :
    ∀ (fs : List (String × Value)), ∀ w ∈ leavesOfFields fs, w.isScalar = true
  | [], w, hw => by simp [leavesOfFields] at hw
  | (_, v) :: rest, w, hw => by
    rw [leavesOfFields, List.mem_append] at hw
    rcases hw with hw | hw
    · exact isScalar_of_mem_leaves v w hw
    · exact isScalar_of_mem_leavesOfFields rest w hw

end

/-- A value without parts is its own only leaf. -/
theorem Value.leaves_of_isScalar {v : Value} (h : v.isScalar = true) : v.leaves = [v] := by
  cases v with
  | list items => simp [isScalar] at h
  | record fields => simp [isScalar] at h
  | _ => simp [leaves]

/-- A scalar inside a value is its own only leaf. -/
theorem Value.leaves_of_mem_leaves (v : Value) : ∀ w ∈ v.leaves, w.leaves = [w] :=
  fun w hw => leaves_of_isScalar (isScalar_of_mem_leaves v w hw)

/-- Values that are spread already are spread no further. -/
theorem flatMap_leaves_of_spread {vs : List Value} (h : ∀ v ∈ vs, v.leaves = [v]) :
    vs.flatMap Value.leaves = vs := by
  induction vs with
  | nil => rfl
  | cons v vs ih =>
    rw [List.flatMap_cons, h v List.mem_cons_self, ih fun w hw => h w (List.mem_cons_of_mem v hw)]
    rfl

/-- Where every value is a scalar, the scalars are as many as the values. -/
theorem scalarCount_eq_length {vs : List Value} (h : ∀ v ∈ vs, v.leaves = [v]) :
    scalarCount vs = vs.length := by
  unfold scalarCount
  rw [flatMap_leaves_of_spread h]

/-- Behind a single placeholder stands a single scalar. -/
@[simp] theorem scalarCount_scalar (v : Value) : scalarCount [v.scalar] = 1 := by
  refine scalarCount_eq_length fun w hw => ?_
  rw [List.mem_singleton] at hw
  subst hw
  unfold Value.scalar
  cases hleaves : v.leaves with
  | nil => rfl
  | cons w ws => exact Value.leaves_of_mem_leaves v w (by simp [hleaves])

/-- What a query hands over has been spread into scalars. -/
theorem Query.leaves_of_mem_values (q : Query) : ∀ v ∈ q.values, v.leaves = [v] := by
  intro w hw
  simp only [Query.values, Bindings.flatten, Bindings.flattenExcept, List.mem_flatMap] at hw
  obtain ⟨c, -, v, -, hw⟩ := hw
  exact Value.leaves_of_mem_leaves v w hw

/-- The scalars that a query hands over fill one place each. -/
theorem Query.scalarCount_values (q : Query) : scalarCount q.values = q.values.length :=
  scalarCount_eq_length q.leaves_of_mem_values

/-- The number of scalars that a clause binds. -/
def Bindings.count (b : Bindings) (c : Clause) : Nat :=
  scalarCount (b.get c)

/-- Values that are filed add their scalars to one clause. -/
@[simp] theorem Bindings.count_extend (b : Bindings) (c d : Clause) (vs : List Value) :
    (b.extend c vs).count d = if d = c then b.count d + scalarCount vs else b.count d := by
  unfold Bindings.count
  rw [Bindings.get_extend]
  split <;> simp

/-- A bucket that is cleared counts nothing. -/
@[simp] theorem Bindings.count_clear (b : Bindings) (c d : Clause) :
    (b.clear c).count d = if d = c then 0 else b.count d := by
  unfold Bindings.count
  rw [Bindings.get_clear]
  split <;> simp

/-- Flattening yields the scalars of every clause. -/
theorem Query.length_values (q : Query) :
    q.values.length = (Clause.all.map q.bindings.count).sum := by
  simp [Query.values, Bindings.flatten, Bindings.flattenExcept, Clause.all, Bindings.count,
    scalarCount]

/-! ## Names -/

/-- Inside an identifier a doubled mark does not end the identifier. -/
theorem quoteAfter_doubleMark {mark : Char} (hmark : Source.isQuoteMark mark = true)
    (cs : List Char) : quoteAfter (some mark) (doubleMark mark cs) = some mark := by
  induction cs with
  | nil => rfl
  | cons c cs ih =>
    by_cases hc : c = mark
    · -- the two marks close the identifier and open it again
      simpa [doubleMark, hc, quoteAfter, nextQuote, hmark] using ih
    · simpa [doubleMark, hc, quoteAfter, nextQuote] using ih

/-- No character of an identifier is a placeholder, not even a question mark. -/
theorem placeholdersFrom_doubleMark {mark : Char} (hmark : Source.isQuoteMark mark = true)
    (cs : List Char) : placeholdersFrom (some mark) (doubleMark mark cs) = 0 := by
  have hne : mark ≠ '?' := by
    rintro rfl
    simp [Source.isQuoteMark] at hmark
  induction cs with
  | nil => rfl
  | cons c cs ih =>
    -- a mark is written twice: the first closes the identifier, the second opens it again
    by_cases hc : c = mark
    · simpa [doubleMark, hc, placeholdersFrom, nextQuote, hmark, hne] using ih
    · simpa [doubleMark, hc, placeholdersFrom, nextQuote] using ih

/-- Both marks that dialects quote with count as marks. -/
theorem Dialect.isQuoteMark_quoteMark (d : Dialect) : Source.isQuoteMark d.quoteMark = true := by
  cases d <;> decide

/-- An identifier between quotation marks carries nothing, whatever its characters. -/
theorem carries_quoteChars (d : Dialect) (cs : List Char) :
    Carries (String.ofList (d.quoteChars cs)) 0 := by
  unfold Dialect.quoteChars
  split
  · next hstar =>
    subst hstar
    decide
  · have hmark := d.isQuoteMark_quoteMark
    have hne : d.quoteMark ≠ '?' := by cases d <;> decide
    have hopen : nextQuote none d.quoteMark = some d.quoteMark := by simp [nextQuote, hmark]
    -- first that the identifier ends where it should, then that it holds no placeholder
    constructor
    · show quoteAfter none (String.ofList _).toList = none
      rw [String.toList_ofList, quoteAfter_append]
      show quoteAfter (quoteAfter (nextQuote none d.quoteMark) _) [d.quoteMark] = none
      rw [hopen, quoteAfter_doubleMark hmark]
      simp [quoteAfter, nextQuote]
    · show placeholdersFrom none (String.ofList _).toList = 0
      rw [String.toList_ofList, placeholdersFrom_append, placeholdersFrom, hopen,
        placeholdersFrom_doubleMark hmark]
      simp [placeholdersFrom, hne]

/-- A quoted name carries nothing, whatever stands in it. -/
theorem carries_quote (d : Dialect) (s : String) : Carries (d.quote s) 0 :=
  carries_quoteChars d s.toList

theorem carries_quoteDotted (d : Dialect) (name : List Char) : Carries (d.quoteDotted name) 0 := by
  refine CarriesAll.join (by decide) (carriesAll_zero fun t ht => ?_)
  obtain ⟨part, -, rfl⟩ := List.mem_map.mp ht
  exact carries_quoteChars d part

theorem carries_quoteWithAlias (d : Dialect) (name rest : List Char) :
    Carries (d.quoteWithAlias name rest) 0 :=
  ((carries_quoteDotted d name).append (by decide : Carries " as " 0)).append
    (carries_quoteChars d rest)

/-- A name carries nothing, with a label or without one. -/
theorem carries_quoteName (d : Dialect) (s : String) : Carries (d.quoteName s) 0 := by
  unfold Dialect.quoteName
  split
  · exact carries_quoteDotted d _
  · exact carries_quoteWithAlias d _ _

/-- A column that is given by its name carries nothing. -/
theorem carries_column_name (d : Dialect) (s : String) : Carries (d.column (.name s)) 0 :=
  carries_quoteName d s

theorem carries_source_table (d : Dialect) (s : String) : Carries (d.source (.table s)) 0 :=
  carries_quoteName d s

theorem CarriesAll.columns {d : Dialect} {cs : List Column} {n : Nat}
    (h : CarriesAll (cs.map d.column) n) : Carries (d.columns cs) n :=
  CarriesAll.join (by decide) h

/-! ## Operands and operators -/

/-- An operand carries what it binds; raw SQL among operands carries nothing. -/
theorem Operand.carries_sql {o : Operand} (hraw : ∀ sql, o = .raw sql → Carries sql 0) :
    Carries o.sql (scalarCount o.scalars) := by
  cases o with
  | value v =>
    show Carries "?" (scalarCount [v.scalar])
    rw [scalarCount_scalar]
    exact carries_mark
  | raw sql => exact hraw sql rfl

/-- Operands carry what they bind, one by one. -/
theorem carriesAll_sql {os : List Operand} (hraw : ∀ sql, .raw sql ∈ os → Carries sql 0) :
    CarriesAll (os.map Operand.sql) (scalarCount (os.flatMap Operand.scalars)) := by
  induction os with
  | nil => exact CarriesAll.nil
  | cons o os ih =>
    rw [List.map_cons, List.flatMap_cons, scalarCount_append]
    refine CarriesAll.cons (Operand.carries_sql ?_) (ih ?_)
    · rintro sql rfl
      exact hraw sql List.mem_cons_self
    · intro sql hsql
      exact hraw sql (List.mem_cons_of_mem o hsql)

/-- The operators of a dialect carry nothing. -/
theorem carries_of_knows {d : Dialect} {operator : String} (h : d.knows operator = true) :
    Carries operator 0 := by
  -- finitely many words, each looked at
  have hshared : ∀ o ∈ Dialect.sharedOperators, Carries o 0 := by decide
  have hown : ∀ o ∈ d.ownOperators, Carries o 0 := by cases d <;> decide
  simp only [Dialect.knows, Bool.or_eq_true, List.contains_iff_mem] at h
  rcases h with h | h
  · exact hshared operator h
  · exact hown operator h

/-- Digits neither open a quote nor stand for a value. -/
theorem inert_of_isDigit {cs : List Char} (h : ∀ c ∈ cs, c.isDigit = true) : Inert cs := by
  refine inert_of_ne fun c hc => ?_
  have hdigit := h c hc
  refine ⟨?_, ?_, ?_⟩ <;> rintro rfl <;> simp [Char.isDigit] at hdigit

theorem carries_toString (n : Nat) : Carries (toString n) 0 := by
  refine carries_of_inert (inert_of_isDigit fun c hc => ?_)
  rw [show (toString n).toList = Nat.toDigits 10 n by simp [toString]] at hc
  exact Nat.isDigit_of_mem_toDigits (by decide) (by decide) hc

/-- A limit is a number behind a word. -/
theorem carries_limitText (limit : Option Nat) : Carries (Dialect.limitText limit) 0 := by
  cases limit with
  | none => exact carries_empty
  | some n => exact (by decide : Carries "limit " 0).append (carries_toString n)

theorem carries_offsetText (offset : Option Nat) : Carries (Dialect.offsetText offset) 0 := by
  cases offset with
  | none => exact carries_empty
  | some n => exact (by decide : Carries "offset " 0).append (carries_toString n)

/-- Parentheses add nothing. -/
theorem Carries.parenthesized {s : String} {n : Nat} (h : Carries s n) :
    Carries ("(" ++ s ++ ")") n := by
  have hopen : Carries "(" 0 := by decide
  have hclose : Carries ")" 0 := by decide
  simpa using (hopen.append h).append hclose

/-- Text that carries nothing in front of and behind another. -/
theorem Carries.between {s before after : String} {n : Nat} (hbefore : Carries before 0)
    (h : Carries s n) (hafter : Carries after 0) : Carries (before ++ s ++ after) n := by
  simpa using (hbefore.append h).append hafter

end QueryBuilder
