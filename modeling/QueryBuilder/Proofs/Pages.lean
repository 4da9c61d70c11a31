import QueryBuilder.Proofs.DerivedStatements
import QueryBuilder.Proofs.Windows

/-!
# Pages of a result

A page is read in two statements: one counts the rows of the whole result, the other reads the rows
of the page. If the executor answers the first with the number of some rows, and the second with
those that its window selects, then the pages are the rows in order, none of them lost or repeated,
whatever the number of rows, the size of a page and the page that is asked for.

- `Tail.cut`: the rows that a window keeps. `Query.cut_page`: for the window of a page these are the
  rows of one window of its size, also where the row number does not fit into 64 bits.
- `Session.AnswersPage`: the executor answers a page of some rows.
- `Query.paginate_apply`: the page that is read.
- `pages_partition`: all pages together.
-/

namespace QueryBuilder

/-! ## Windows of a page -/

section Windows

variable {α : Type} {rows : List α} {size k : Nat}

/-- As many windows hold a row as it takes for all rows to have a place. -/
theorem windowCount_le_iff (count : Nat) (hsize : 0 < size) :
    windowCount count size ≤ k ↔ count ≤ k * size := by
  unfold windowCount
  rw [Nat.div_le_iff_le_mul_add_pred hsize, Nat.mul_comm]
  omega

/-- The windows behind the last are empty, and no others are. -/
theorem windowOf_eq_nil_iff (rows : List α) (hsize : 0 < size) :
    windowOf rows size k = [] ↔ windowCount rows.length size ≤ k := by
  rw [windowCount_le_iff rows.length hsize, ← List.length_eq_zero_iff, length_windowOf]
  omega

/-- A window with another behind it is full. -/
theorem length_windowOf_of_more (hsize : 0 < size) (h : k + 1 < windowCount rows.length size) :
    (windowOf rows size k).length = size := by
  have hmore : ¬ rows.length ≤ (k + 1) * size := by
    rw [← windowCount_le_iff rows.length hsize]
    omega
  rw [Nat.succ_mul] at hmore
  rw [length_windowOf]
  omega

/-- The rows that a window keeps. -/
def Tail.cut (tail : Tail) (rows : List α) : List α :=
  match tail.limit with
  | some count => (rows.drop (tail.offset.getD 0)).take count
  | none => rows.drop (tail.offset.getD 0)

/-- A start that is kept within 64 bits makes no difference: no row has so great a number. -/
theorem cut_pageStart {tail : Tail} (hrows : rows.length ≤ maxRow) (number : Nat)
    (hoffset : tail.offset = some (pageStart number size)) (hlimit : tail.limit = some size) :
    tail.cut rows = windowOf rows size (Nat.max number 1 - 1) := by
  unfold Tail.cut windowOf
  rw [hlimit, hoffset]
  show (rows.drop (min ((Nat.max number 1 - 1) * size) maxRow)).take size = _
  -- a start that was capped lies behind all rows, and so does the one it stands for
  by_cases hfits : (Nat.max number 1 - 1) * size ≤ maxRow
  · rw [Nat.min_eq_left hfits]
  · rw [List.drop_eq_nil_of_le (by omega), List.drop_eq_nil_of_le (by omega)]

end Windows

/-! ## Statements and answers -/

namespace Query

/-- The orderings and the window that the whole result stands under. -/
def outerTail (q : Query) : Tail :=
  if q.isUnion then q.unionTail else q.tail

variable {q : Query}

/-- A change of the tail is one of the tail that the whole result stands under. -/
theorem outerTail_updateTail (f : Tail → Tail) : (q.updateTail f).outerTail = f q.outerTail := by
  unfold updateTail outerTail
  by_cases hunion : q.isUnion = true
  · rw [if_pos hunion, if_pos hunion]
    exact if_pos hunion
  · rw [if_neg hunion, if_neg hunion]
    exact if_neg hunion

/-- Two changes to the tail are one. -/
theorem updateTail_updateTail (q : Query) (f g : Tail → Tail) :
    (q.updateTail f).updateTail g = q.updateTail fun tail => g (f tail) := by
  unfold updateTail
  by_cases hunion : q.isUnion = true
  · rw [if_pos hunion, if_pos hunion]
    exact if_pos hunion
  · rw [if_neg hunion, if_neg hunion]
    exact if_neg hunion

/-- A page has the orderings of the query, and a window of its own. -/
theorem outerTail_page (number size : Nat) :
    (q.page number size).outerTail =
      { q.outerTail with offset := some (pageStart number size), limit := some size } := by
  unfold page limit offset
  rw [outerTail_updateTail, outerTail_updateTail]

/-- Page zero is the first. -/
theorem page_max (q : Query) (number size : Nat) :
    q.page (Nat.max number 1) size = q.page number size := by
  unfold page pageStart
  rw [Nat.max_eq_left (Nat.le_max_right number 1)]

/-- The window of a page, united queries or not, keeps the rows of one window of its size. -/
theorem cut_page {α : Type} {rows : List α} (hrows : rows.length ≤ maxRow) (number size : Nat) :
    (q.page number size).outerTail.cut rows = windowOf rows size (Nat.max number 1 - 1) := by
  rw [outerTail_page]
  exact cut_pageStart hrows number rfl rfl

/-- An aggregate runs where the query does. -/
theorem connection_computing (function : String) (columns : List Column) :
    (q.computing function columns).connection = q.connection := by
  rw [computing_eq]
  split <;> rfl

/-- Every query has one that counts its rows. -/
theorem countQuery_ok (q : Query) :
    ∃ counted, q.countQuery = .ok counted ∧ counted.connection = q.connection := by
  unfold countQuery
  split
  · refine ⟨q.plainCountQuery, rfl, ?_⟩
    unfold plainCountQuery
    rw [connection_computing]
    split
    · show Query.connection (if _ then _ else _) = _
      split <;> rfl
    · rfl
  · exact ⟨_, rfl, connection_computing "count" [Column.star]⟩

end Query

/-- The number of rows that a count is answered with. -/
def countOf (answer : List Record) : Option Int :=
  (answer.head?.bind fun row => row.get? "aggregate").bind Value.toInt?

/-- The next select is answered with the number of some rows; if there are any, the one behind it is
answered with those that the window of a page keeps. -/
structure Session.AnswersPage (s : Session) (q : Query) (rows : List Record) (number size : Nat) :
    Prop where
  count : ∃ answer, s.answer = .ok answer ∧ countOf answer = some (rows.length : Int)
  window : rows ≠ [] → s.secondAnswer = .ok ((q.page number size).outerTail.cut rows)

/-- One page of some rows. -/
def pageOf (rows : List Record) (size number : Nat) : Page :=
  Page.of (windowOf rows size (Nat.max number 1 - 1)) (Nat.max number 1) size rows.length

/-- Pages are counted from one, windows from zero. -/
theorem rows_pageOf (rows : List Record) (size : Nat) {number : Nat} (hfirst : 1 ≤ number) :
    (pageOf rows size number).rows = windowOf rows size (number - 1) := by
  have hnumber : Nat.max number 1 = number := Nat.max_eq_left hfirst
  show windowOf rows size (Nat.max number 1 - 1) = _
  rw [hnumber]

/-- The rows of all pages, from the first to the last. -/
theorem flatten_pageOf (rows : List Record) {size : Nat} (hsize : 0 < size) :
    ((List.range' 1 (windowCount rows.length size)).map fun number =>
      (pageOf rows size number).rows).flatten = rows := by
  have hrow : (fun number => (pageOf rows size number).rows) ∘ (fun k => 1 + k) =
      windowOf rows size := by
    funext k
    show (pageOf rows size (1 + k)).rows = _
    rw [rows_pageOf rows size (Nat.le_add_right 1 k), Nat.add_sub_cancel_left]
  rw [List.range'_eq_map_range, List.map_map, hrow, flatten_windowOf]
  exact List.take_of_length_le (le_windowCount_mul rows.length hsize)

/-! ## Reading a page -/

namespace Query

variable {q : Query} {s : Session} {rows : List Record}

/-- One statement is sent for a total, and nothing but its answer counts. -/
theorem totalCount_sent (hattached : q.connection.attached = true) {counted : Query}
    (hcounted : q.countQuery = .ok counted) (hconnection : counted.connection = q.connection)
    (s : Session) :
    q.totalCount s = (s.answer.map fun rows => ((countOf rows).getD 0).toNat,
      s.sending counted.sql counted.values) := by
  have hmade : (Run.ofExcept q.countQuery) s = (.ok counted, s) := by
    rw [hcounted]
    rfl
  have hfetch := fetchWithin_apply (eagerLoads_countQuery hcounted)
    (by rw [hconnection]; exact hattached) counted.loadDepth s
  unfold totalCount
  rw [bind_apply_ok hmade]
  cases hanswer : s.answer with
  | ok rows =>
    rw [hanswer] at hfetch
    exact bind_apply_ok hfetch
  | error why =>
    rw [hanswer] at hfetch
    exact bind_apply_error hfetch

/-- The statement that counts the rows is sent, and its answer is the total. -/
theorem totalCount_apply (hattached : q.connection.attached = true) {counted : Query}
    (hcounted : q.countQuery = .ok counted) (hconnection : counted.connection = q.connection)
    {answer : List Record} (hanswer : s.answer = .ok answer) {total : Nat}
    (htotal : countOf answer = some (total : Int)) :
    q.totalCount s = (.ok total, s.sending counted.sql counted.values) := by
  rw [totalCount_sent hattached hcounted hconnection, hanswer]
  show (Except.ok (((countOf answer).getD 0).toNat), _) = _
  rw [htotal]
  rfl

/-- A page that the executor answers. Behind a count of zero nothing is asked for. -/
theorem paginate_apply (hloads : q.eagerLoads = []) (hattached : q.connection.attached = true)
    (hrows : rows.length ≤ maxRow) {counted : Query} (hcounted : q.countQuery = .ok counted)
    (hconnection : counted.connection = q.connection) {given : Option Nat} {size : Nat}
    (hsize : Nat.max (given.getD q.connection.config.pageSize) 1 = size) {number : Nat}
    (hanswers : s.AnswersPage q rows number size) :
    ∃ s', q.paginate number given s = (.ok (pageOf rows size number), s') ∧
      s'.sent = s.sent ++ .query counted.sql counted.values ::
        if rows = [] then []
        else [.query (q.page number size).sql (q.page number size).values] := by
  obtain ⟨answer, hanswer, htotal⟩ := hanswers.count
  have hcount := totalCount_apply hattached hcounted hconnection hanswer htotal
  -- a total of zero is answered without a second statement (§4.5)
  by_cases hempty : rows = []
  · refine ⟨s.sending counted.sql counted.values, ?_, ?_⟩
    · unfold paginate
      dsimp only
      rw [hsize, bind_apply_ok hcount, hempty]
      unfold pageOf windowOf
      rw [List.drop_nil, List.take_nil]
      rfl
    · rw [if_pos hempty]
      rfl
  · have hfilled : 0 < rows.length := List.length_pos_iff.mpr hempty
    have hderives := derives_page (q := q) number size
    have hfetch := fetch_answered (hderives.unloaded hloads)
      (by rw [hderives.connection]; exact hattached)
      ((s.answer_sending counted.sql counted.values).trans (hanswers.window hempty))
    refine ⟨(s.sending counted.sql counted.values).sending (q.page number size).sql
      (q.page number size).values, ?_, ?_⟩
    · unfold paginate
      dsimp only
      rw [hsize, bind_apply_ok hcount, if_pos hfilled, page_max, bind_apply_ok hfetch,
        cut_page hrows]
      rfl
    · rw [if_neg hempty]
      exact List.append_assoc s.sent _ _

end Query

/-! ## All pages -/

/-- The pages of a result, each of them read in a session whose executor answers with the rows. Each
page has its number, the size, the total, and the least number of pages in which all rows find a
place, which is not beyond the total. The rows of all pages, from the first to the last, are the
rows of the result in order; all pages but the last are full, pages behind the last are empty, and
page zero is the first. A count comes before every window, and without rows there is no window. -/
theorem pages_partition (q : Query) (hloads : q.eagerLoads = [])
    (hattached : q.connection.attached = true) (rows : List Record) (hrows : rows.length ≤ maxRow)
    (given : Option Nat) (size : Nat)
    (hsize : Nat.max (given.getD q.connection.config.pageSize) 1 = size)
    (sessions : Nat → Session)
    (hanswers : ∀ number, (sessions number).AnswersPage q rows number size) :
    ∃ (pages : Nat) (page : Nat → Page) (counted : Query), q.countQuery = .ok counted ∧
      (∀ number, ∃ s', q.paginate number given (sessions number) = (.ok (page number), s') ∧
        s'.sent = (sessions number).sent ++ .query counted.sql counted.values ::
          if rows = [] then []
          else [.query (q.page number size).sql (q.page number size).values]) ∧
      (∀ number, (page number).number = Nat.max number 1 ∧ (page number).size = size ∧
        (page number).total = rows.length ∧ (page number).pages = pages) ∧
      ((∀ n, pages ≤ n ↔ rows.length ≤ n * size) ∧ pages ≤ rows.length) ∧
      ((List.range' 1 pages).map fun number => (page number).rows).flatten = rows ∧
      (∀ number, 1 ≤ number → number < pages → (page number).rows.length = size) ∧
      (∀ number, pages < number → (page number).rows = []) ∧ page 0 = page 1 := by
  have hpositive := size_pos hsize
  obtain ⟨counted, hcounted, hconnection⟩ := Query.countQuery_ok q
  have hpages : ∀ n, windowCount rows.length size ≤ n ↔ rows.length ≤ n * size :=
    fun n => windowCount_le_iff rows.length hpositive
  refine ⟨windowCount rows.length size, pageOf rows size, counted, hcounted, fun number => ?_,
    fun number => ⟨rfl, rfl, rfl, ?_⟩, ⟨hpages, ?_⟩, ?_, fun number hfirst hlast => ?_,
    fun number hbehind => ?_, rfl⟩
  · exact Query.paginate_apply hloads hattached hrows hcounted hconnection hsize (hanswers number)
  · -- the size is positive, so the number of pages is a quotient and not the zero for no size
    exact if_neg (Nat.ne_of_gt hpositive)
  · rw [hpages]
    exact Nat.le_mul_of_pos_right rows.length hpositive
  · exact flatten_pageOf rows hpositive
  · rw [rows_pageOf rows size hfirst]
    exact length_windowOf_of_more hpositive (by omega)
  · rw [rows_pageOf rows size (by omega), windowOf_eq_nil_iff rows hpositive]
    omega

/-- The answers to a page of three users, two on each. -/
def threeUsersPaged (number : Nat) : Session :=
  { rows := [.ok [[("aggregate", .ofInt 3)]],
      .ok (((Query.table { attached := true } "users").page number 2).outerTail.cut threeUsers)] }

/-- Three users, two on a page: two pages, the second of them with one row. -/
theorem pages_partition_three :
    ∃ page : Nat → Page,
      (∀ number, ((Query.table { attached := true } "users").paginate number (some 2)
        (threeUsersPaged number)).1 = .ok (page number)) ∧
      (page 2).pages = 2 ∧ (page 1).rows ++ (page 2).rows = threeUsers ∧ (page 3).rows = [] := by
  have hanswers : ∀ number, (threeUsersPaged number).AnswersPage
      (Query.table { attached := true } "users") threeUsers number 2 := by
    intro number
    exact ⟨⟨_, rfl, rfl⟩, fun _ => rfl⟩
  obtain ⟨pages, page, counted, hcounted, hread, hmeta, ⟨hleast, hbound⟩, hall, hfull,
      hbehind, hzero⟩ :=
    pages_partition (Query.table { attached := true } "users") rfl rfl threeUsers
      (by decide) (some 2) 2
      rfl threeUsersPaged hanswers
  have hpages : pages = 2 := by
    have htwo : pages ≤ 2 := (hleast 2).mpr (by decide)
    have hone : ¬ pages ≤ 1 := fun h => absurd ((hleast 1).mp h) (by decide)
    omega
  subst hpages
  refine ⟨page, fun number => ?_, (hmeta 2).2.2.2, ?_, hbehind 3 (by decide)⟩
  · obtain ⟨s', hpage, -⟩ := hread number
    rw [hpage]
  · rw [← List.append_nil (page 2).rows]
    exact hall

end QueryBuilder
