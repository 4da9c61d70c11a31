import QueryBuilder.Proofs.CheckedOperators
import QueryBuilder.Proofs.Correlation

/-!
# Filters by the number of related rows

Rows are kept by how many related rows they have. Where one related row decides, the filter asks
whether there is one at all, otherwise it counts them; a table of operators and counts tells which,
and a second table turns an operator into its opposite. Both tables agree with the comparison of two
numbers.

- `Comparison`: the comparisons of two numbers, and the operators that are read as one.
- `Comparison.holds_iff_of_noneForm?`: what the first table says is what the comparison says of
  every number of rows. `Comparison.inverseOperator_eq`: the second table holds the opposites.
- `Query.CountFilter`: a condition on the number of rows of a query, and for which numbers it is
  true.
- `count_filters_compare`: the filters are true for the numbers of related rows that they are named
  for.
-/

namespace QueryBuilder

/-! ## Comparisons of numbers -/

/-- A comparison of two numbers. -/
inductive Comparison where
  | atLeast
  | above
  | below
  | atMost
  | equal
  | unequal
  deriving DecidableEq, Repr

namespace Comparison

/-- The comparison that an operator stands for; other operators stand for none. -/
def read : String → Option Comparison
  | ">=" => some atLeast
  | ">" => some above
  | "<" => some below
  | "<=" => some atMost
  | "=" => some equal
  | "!=" => some unequal
  | "<>" => some unequal
  | _ => none

/-- Two numbers stand in the relation. -/
def Holds : Comparison → Int → Int → Prop
  | atLeast, a, b => b ≤ a
  | above, a, b => b < a
  | below, a, b => a < b
  | atMost, a, b => a ≤ b
  | equal, a, b => a = b
  | unequal, a, b => a ≠ b

instance (c : Comparison) (a b : Int) : Decidable (c.Holds a b) := by
  cases c <;> unfold Holds <;> infer_instance

/-- The comparison that holds where this one does not. -/
def opposite : Comparison → Comparison
  | atLeast => below
  | above => atMost
  | below => atLeast
  | atMost => above
  | equal => unequal
  | unequal => equal

/-- The opposite holds exactly where the comparison does not. -/
theorem holds_opposite (c : Comparison) (a b : Int) : c.opposite.Holds a b ↔ ¬ c.Holds a b := by
  cases c with
  | atLeast => exact Int.not_le.symm
  | above => exact Int.not_lt.symm
  | below => exact Int.not_lt.symm
  | atMost => exact Int.not_le.symm
  | equal => exact Iff.rfl
  | unequal => exact not_not.symm

variable {operator : String} {c : Comparison}

/-- The operators that stand for comparisons of numbers are among those that all dialects know. -/
theorem knows_of_read (h : read operator = some c) (d : Dialect) : d.knows operator = true := by
  have hmem : operator ∈ Dialect.sharedOperators := by
    unfold read at h
    split at h
    case h_8 => exact nomatch h
    all_goals decide
  rw [Dialect.knows, List.contains_iff_mem.mpr hmem, Bool.true_or]

/-- An operator that stands for a comparison has an inverse, which stands for the opposite. -/
theorem inverseOperator_eq (h : read operator = some c) :
    ∃ inverse, inverseOperator operator = .ok inverse ∧ read inverse = some c.opposite := by
  unfold read at h
  split at h
  case h_8 => exact nomatch h
  all_goals
    obtain rfl := Option.some.inj h
    exact ⟨_, rfl, rfl⟩

/-- Any other operator has none. -/
theorem inverseOperator_error (h : read operator = none) :
    inverseOperator operator = .error (.noInverse operator) := by
  unfold inverseOperator
  split
  case h_8 => rfl
  all_goals exact nomatch h

/-- Where a comparison of a number of rows comes down to whether there is a row, it is true for the
same numbers. -/
theorem holds_iff_of_noneForm? {count : Int} {negated : Bool} (h : read operator = some c)
    (hform : noneForm? operator count = some negated) (n : Nat) :
    c.Holds n count ↔ (decide (1 ≤ n) != negated) = true := by
  -- five pairs of an operator and a number come down to whether there is a row
  unfold noneForm? at hform
  split at hform
  · next hsome =>
    obtain rfl := Option.some.inj hform
    rw [Bool.bne_false, decide_eq_true_iff]
    rcases hsome with ⟨rfl, rfl⟩ | ⟨rfl, rfl⟩
    · obtain rfl : atLeast = c := Option.some.inj h
      show (1 : Int) ≤ n ↔ 1 ≤ n
      omega
    · obtain rfl : above = c := Option.some.inj h
      show (0 : Int) < n ↔ 1 ≤ n
      omega
  split at hform
  · next hnone =>
    obtain rfl := Option.some.inj hform
    rw [Bool.bne_true, Bool.not_eq_true', decide_eq_false_iff_not]
    rcases hnone with ⟨rfl, rfl⟩ | ⟨rfl, rfl⟩ | ⟨rfl, rfl⟩
    · obtain rfl : below = c := Option.some.inj h
      show (n : Int) < 1 ↔ ¬ 1 ≤ n
      omega
    · obtain rfl : atMost = c := Option.some.inj h
      show (n : Int) ≤ 0 ↔ ¬ 1 ≤ n
      omega
    · obtain rfl : equal = c := Option.some.inj h
      show (n : Int) = 0 ↔ ¬ 1 ≤ n
      omega
  · exact nomatch hform

end Comparison

/-! ## Conditions on the number of rows -/

namespace Query

/-- A query for the number of rows of another. -/
def counting (sub : Query) : Query := sub.select [.raw "count(*)"]

/-- A condition on the number of rows of a query, with the values that it binds: whether there is a
row, or how their number compares with a bound one. It is true for the numbers that the last
argument holds of. -/
inductive CountFilter (sub : Query) : Predicate → List Value → (Nat → Prop) → Prop
  | exists (negated : Bool) :
    CountFilter sub (.exists negated sub) sub.values fun n => (decide (1 ≤ n) != negated) = true
  | compared {operator : String} {c : Comparison} (count : Int)
    (h : Comparison.read operator = some c) :
    CountFilter sub
      (.compare (.raw ("(" ++ sub.counting.sql ++ ")")) operator (.value (.ofInt count)))
      (sub.counting.values ++ [.ofInt count]) fun n => c.Holds n count

/-- The query goes on with one more condition on the number of rows of `sub`, true exactly for the
numbers that `holds` is true of. -/
def Filters (q : Query) (connector : Connector) (sub : Query) (holds : Nat → Prop) (q' : Query) :
    Prop :=
  ∃ predicate values numbers, q' = (q.bind .wheres values).addWhere connector predicate ∧
    CountFilter sub predicate values numbers ∧ ∀ n, numbers n ↔ holds n

variable {q sub : Query} {connector : Connector} {operator : String} {c : Comparison}

/-- Only the numbers that are kept matter, not how they are described. -/
theorem Filters.congr {holds holds' : Nat → Prop} {q' : Query}
    (hq : q.Filters connector sub holds q') (h : ∀ n, holds n ↔ holds' n) :
    q.Filters connector sub holds' q' := by
  obtain ⟨predicate, values, numbers, hadded, hfilter, hnumbers⟩ := hq
  exact ⟨predicate, values, numbers, hadded, hfilter, fun n => (hnumbers n).trans (h n)⟩

/-- A comparison with the number of rows puts the counting query into parentheses; its values come
before the number. -/
theorem compare_counting (h : Comparison.read operator = some c) (count : Int) :
    q.compare connector (.query (.query sub.counting)) (some operator) (.value (.ofInt count)) =
      .ok ((q.bind .wheres (sub.counting.values ++ [.ofInt count])).addWhere connector
        (.compare (.raw ("(" ++ sub.counting.sql ++ ")")) operator (.value (.ofInt count)))) := by
  have hknows := Comparison.knows_of_read h q.dialect
  have htext : (Subquery.query sub.counting).text q = .ok (sub.counting.sql, sub.counting.values) :=
    rfl
  have hcompared := compareColumn_operand (q := q.bind .wheres sub.counting.values)
    ((normal_of_knows hknows).symm ▸ hknows) (o := .value (.ofInt count)) rfl connector
    (.raw ("(" ++ sub.counting.sql ++ ")"))
  rw [bind_bind, normal_of_knows hknows] at hcompared
  unfold compare
  simp only [Option.isNone_some, Bool.false_and, Bool.false_eq_true, if_false]
  exact bind_eq_ok.mpr ⟨_, htext, hcompared⟩

/-- A filter of the related rows `sub` by an operator that passes. -/
theorem has_eq {l : Link} {related : Except Error Query} {text : String} (count : Int)
    (hoperator : q.checkedOperator text = .ok operator)
    (hsub : related >>= l.correlate q.qualifier = .ok sub) :
    q.has connector l related text count = match noneForm? operator count with
      | some negated => .ok (q.addExists connector negated sub)
      | none => q.compare connector (.query (.query sub.counting)) (some operator)
        (.value (.ofInt count)) := by
  obtain ⟨rows, rfl, hcorrelate⟩ := bind_eq_ok.mp hsub
  unfold has
  rw [hoperator]
  show (l.correlate q.qualifier rows >>= _) = _
  rw [hcorrelate]
  rfl

/-- The condition that a comparison of the number of related rows adds is true for the numbers that
stand in that comparison. -/
theorem has_filters (connector : Connector) {l : Link} {related : Except Error Query}
    {text : String} (count : Int) (hsub : related >>= l.correlate q.qualifier = .ok sub)
    (h : Comparison.read (Text.lower (Text.trim text)) = some c) :
    ∃ q', q.has connector l related text count = .ok q' ∧
      q.Filters connector sub (fun n => c.Holds n count) q' := by
  have hoperator := checkedOperator_ok (Comparison.knows_of_read h q.dialect)
  rw [has_eq count hoperator hsub]
  -- where one row decides, the first table says so; elsewhere the rows are counted
  cases hform : noneForm? (Text.lower (Text.trim text)) count with
  | some negated =>
    exact ⟨_, rfl, _, _, _, rfl, .exists negated,
      fun n => (Comparison.holds_iff_of_noneForm? h hform n).symm⟩
  | none => exact ⟨_, compare_counting h count, _, _, _, rfl, .compared count h, fun n => Iff.rfl⟩

/-- The complement of a comparison adds a condition that is true for the other numbers. -/
theorem hasNot_filters {l : Link} {related : Except Error Query} (count : Int)
    (hsub : related >>= l.correlate q.qualifier = .ok sub) (h : Comparison.read operator = some c) :
    ∃ q', q.hasNot l related operator count = .ok q' ∧
      q.Filters .and sub (fun n => ¬ c.Holds n count) q' := by
  -- the complement is the filter by the opposite
  obtain ⟨inverse, hinverse, hread⟩ := Comparison.inverseOperator_eq h
  have hnormal := normal_of_knows (Comparison.knows_of_read hread q.dialect)
  obtain ⟨q', hq', hfilters⟩ := has_filters .and count hsub (hnormal.symm ▸ hread)
  exact ⟨q', bind_eq_ok.mpr ⟨inverse, hinverse, hq'⟩, hfilters.congr fun n =>
    c.holds_opposite n count⟩

end Query

/-! ## Filters -/

/-- A filter by the number of related rows adds one condition, whose truth for `n` rows is that of
the comparison of `n` with the count; the complement adds one that is true for the other numbers,
and the filter for rows without related ones one that is true for none. An operator that is no
comparison has no complement, whatever the relation. -/
theorem count_filters_compare (q sub : Query) (l : Link) (related : Except Error Query)
    (connector : Connector) (hsub : related >>= l.correlate q.qualifier = .ok sub) :
    (∀ text c (count : Int), Comparison.read (Text.lower (Text.trim text)) = some c →
      ∃ q', q.has connector l related text count = .ok q' ∧
        q.Filters connector sub (fun n => c.Holds n count) q') ∧
    (∀ operator c (count : Int), Comparison.read operator = some c →
      ∃ q', q.hasNot l related operator count = .ok q' ∧
        q.Filters .and sub (fun n => ¬ c.Holds n count) q') ∧
    (∃ q', q.lacks connector l related = .ok q' ∧ q.Filters connector sub (fun n => n = 0) q') ∧
    ∀ operator (count : Int) other, Comparison.read operator = none →
      q.hasNot l other operator count = .error (.noInverse operator) := by
  refine ⟨fun _ _ count h => Query.has_filters connector count hsub h,
    fun _ _ count h => Query.hasNot_filters count hsub h, ?_, fun operator count other h => ?_⟩
  · -- a filter for no related rows is one for fewer than one
    have hbelow : Comparison.read (Text.lower (Text.trim "<")) = some .below := rfl
    obtain ⟨q', hq', hfilters⟩ := Query.has_filters connector 1 hsub hbelow
    refine ⟨q', hq', hfilters.congr fun n => ?_⟩
    show (n : Int) < 1 ↔ n = 0
    omega
  · unfold Query.hasNot
    rw [Comparison.inverseOperator_error h]
    rfl

/-- Users with two posts at least, by an operator with blanks around it; the other users; those
without posts. Only the operator without blanks has a complement. -/
theorem count_filters_compare_posts :
    ∃ sub kept dropped without,
      Link.correlate (.hasMany "posts" "user_id" "id") "users" (.table {} "posts") = .ok sub ∧
      (Query.table {} "users").has .and (.hasMany "posts" "user_id" "id")
        (.ok (.table {} "posts")) " >= " 2 = .ok kept ∧
      (Query.table {} "users").Filters .and sub (fun n => (2 : Int) ≤ n) kept ∧
      (Query.table {} "users").hasNot (.hasMany "posts" "user_id" "id")
        (.ok (.table {} "posts")) ">=" 2 = .ok dropped ∧
      (Query.table {} "users").Filters .and sub (fun n => ¬ (2 : Int) ≤ n) dropped ∧
      (Query.table {} "users").lacks .and (.hasMany "posts" "user_id" "id")
        (.ok (.table {} "posts")) = .ok without ∧
      (Query.table {} "users").Filters .and sub (fun n => n = 0) without ∧
      (Query.table {} "users").hasNot (.hasMany "posts" "user_id" "id")
        (.ok (.table {} "posts")) " >= " 2 = .error (.noInverse " >= ") := by
  have hsub := Link.compareColumns_equals (.table {} "posts") (.name "posts.user_id")
    (.name "users.id")
  obtain ⟨hhas, hnot, ⟨without, hlacks, hwithout⟩, hnone⟩ :=
    count_filters_compare (.table {} "users") _ (.hasMany "posts" "user_id" "id")
      (.ok (.table {} "posts")) .and hsub
  obtain ⟨kept, hkept, hkeeps⟩ := hhas " >= " .atLeast 2 (by decide +kernel)
  obtain ⟨dropped, hdropped, hdrops⟩ := hnot ">=" .atLeast 2 rfl
  exact ⟨_, kept, dropped, without, hsub, hkept, hkeeps, hdropped, hdrops, hlacks, hwithout,
    hnone " >= " 2 _ (by decide)⟩

end QueryBuilder
