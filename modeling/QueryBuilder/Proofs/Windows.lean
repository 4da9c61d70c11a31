import QueryBuilder.Query.Walking
import QueryBuilder.Proofs.Sessions

/-!
# Walking over windows

A walk by row number reads one window after the other until one is not full. If the executor answers
each select with the window that it asks for, the callback is shown every row exactly once and in
order, whatever the number of rows and the size of the windows.

The number of statements follows from that: as many as there are full windows, and one more, which
comes back short or empty (§4.5). Where the last rows fill a window, the one behind it is asked for
all the same.

- `windowOf`: some of the rows, by the number of the window.
- `Session.AnswersWindows`: the executor answers with the windows of some rows.
- `Query.windows_apply`: the induction over the windows, for any callback that is known to go on.
- `walk_visits_once`: what is sent and what the callback is shown, window by window and row by row.
-/

namespace QueryBuilder

/-! ## Windows -/

section Windows

variable {α : Type} {rows : List α} {size k : Nat}

/-- The rows of the `k`-th window, counted from zero. -/
def windowOf (rows : List α) (size k : Nat) : List α :=
  (rows.drop (k * size)).take size

/-- How many windows hold a row. -/
def windowCount (count size : Nat) : Nat :=
  (count + size - 1) / size

/-- A size that is read with one as its least value is positive. -/
theorem size_pos {given : Nat} (h : Nat.max given 1 = size) : 0 < size := by
  rw [← h]
  exact Nat.lt_of_lt_of_le Nat.zero_lt_one (Nat.le_max_right given 1)

theorem length_windowOf (rows : List α) (size k : Nat) :
    (windowOf rows size k).length = min size (rows.length - k * size) := by
  unfold windowOf
  rw [List.length_take, List.length_drop]

/-- Every window but the last is full. -/
theorem length_windowOf_full (h : k < rows.length / size) :
    (windowOf rows size k).length = size := by
  have hbound : (k + 1) * size ≤ rows.length := Nat.mul_le_of_le_div size (k + 1) rows.length h
  rw [length_windowOf]
  rw [Nat.succ_mul] at hbound
  omega

/-- The last window holds what is left over, perhaps nothing. -/
theorem length_windowOf_last (rows : List α) (hsize : 0 < size) :
    (windowOf rows size (rows.length / size)).length = rows.length % size := by
  have hsplit := Nat.div_add_mod rows.length size
  have hrest := Nat.mod_lt rows.length hsize
  rw [length_windowOf, Nat.mul_comm]
  omega

/-- One window for each full one, and one more for what is left over. -/
theorem windowCount_eq (count : Nat) (hsize : 0 < size) :
    windowCount count size = count / size + if count % size = 0 then 0 else 1 := by
  -- whether a rest is left decides between the two quotients
  have hsplit := Nat.div_add_mod' count size
  have hrest := Nat.mod_lt count hsize
  unfold windowCount
  split
  · rw [Nat.add_zero]
    refine Nat.div_eq_of_lt_le ?_ ?_
    · omega
    · rw [Nat.succ_mul]
      omega
  · refine Nat.div_eq_of_lt_le ?_ ?_
    · rw [Nat.succ_mul]
      omega
    · rw [Nat.succ_mul, Nat.succ_mul]
      omega

/-- So many windows have room for all rows. -/
theorem le_windowCount_mul (count : Nat) (hsize : 0 < size) :
    count ≤ windowCount count size * size := by
  have hsplit := Nat.div_add_mod' count size
  have hrest := Nat.mod_lt count hsize
  rw [windowCount_eq count hsize]
  split
  · rw [Nat.add_zero]
    omega
  · rw [Nat.succ_mul]
    omega

/-- One more window is taken behind those before. -/
theorem take_succ_mul (rows : List α) (size k : Nat) :
    rows.take ((k + 1) * size) = rows.take (k * size) ++ windowOf rows size k := by
  rw [Nat.succ_mul, List.take_add]
  rfl

/-- Windows put together are the rows up to where they end. -/
theorem flatten_windowOf (rows : List α) (size k : Nat) :
    ((List.range k).map (windowOf rows size)).flatten = rows.take (k * size) := by
  -- one window more puts its rows behind those of the windows before
  induction k with
  | zero => simp
  | succ k ih =>
    rw [List.range_succ, List.map_append, List.flatten_append, ih, take_succ_mul]
    simp

end Windows

/-! ## Answers -/

/-- The next selects are answered with the windows of some rows, from the `k`-th on. -/
def Session.AnswersWindows (s : Session) (rows : List Record) (size k : Nat) : Prop :=
  ∀ j, k + j ≤ rows.length / size →
    (s.rows.drop j).headD (.ok []) = .ok (windowOf rows size (k + j))

namespace Session.AnswersWindows

variable {s : Session} {rows : List Record} {size k : Nat}

theorem answers (h : s.AnswersWindows rows size k) :
    s.Answers (windowOf rows size) k (rows.length / size) :=
  h

theorem answer (h : s.AnswersWindows rows size k) (hk : k ≤ rows.length / size) :
    s.answer = .ok (windowOf rows size k) :=
  h.answers.answer hk

theorem sending (h : s.AnswersWindows rows size k) (sql : String) (vs : List Value) :
    (s.sending sql vs).AnswersWindows rows size (k + 1) :=
  h.answers.sending sql vs

/-- A queue that holds every window is long enough for the walk. -/
theorem length_le (h : s.AnswersWindows rows size 0) (hsize : 0 < size) :
    rows.length / size ≤ s.rows.length := by
  refine h.answers.length_le fun j hj => ?_
  have hfull : (windowOf rows size j).length = size := length_windowOf_full hj
  rw [← List.length_pos_iff, hfull]
  exact hsize

end Session.AnswersWindows

/-! ## Walking -/

namespace Query

variable {α : Type} {q : Query} {s : Session} {rows : List Record} {size k : Nat}

/-- The query with this window in the place of its own. -/
def windowed (q : Query) (offset size : Nat) : Query :=
  { q with tail := { q.tail with limit := some size, offset := some offset } }

/-- The select of the `k`-th window. Row numbers stay within 64 bits. -/
def windowStatement (q : Query) (size k : Nat) : Sent :=
  .query (q.windowed (min (k * size) maxRow) size).sql q.values

/-- The selects of a walk over so many rows: one for each full window, and one more. -/
def windowStatements (q : Query) (size count : Nat) : List Sent :=
  (List.range (count / size + 1)).map (q.windowStatement size)

/-- The page of a number is the window that starts behind the pages before. -/
theorem page_eq (hunions : q.unions = []) (k size : Nat) :
    q.page (k + 1) size = q.windowed (min (k * size) maxRow) size := by
  have hunited : q.isUnion = false := by
    unfold isUnion
    rw [hunions]
    rfl
  have hstart : pageStart (k + 1) size = min (k * size) maxRow := by
    unfold pageStart
    rw [Nat.max_eq_left (Nat.le_add_left 1 k), Nat.add_sub_cancel]
  have hoffset : q.offset (min (k * size) maxRow) =
      { q with tail := { q.tail with offset := some (min (k * size) maxRow) } } := by
    unfold offset updateTail
    rw [hunited]
    rfl
  unfold page
  rw [hstart, hoffset]
  unfold limit updateTail
  exact if_neg (by simp [isUnion, hunions])

/-- One window: its select is sent, and what follows depends on the answer. -/
theorem windows_succ (hloads : q.eagerLoads = []) (hunions : q.unions = [])
    (hattached : q.connection.attached = true) {window : List Record}
    (hanswer : s.answer = .ok window) (size k : Nat) (visit : Nat → List Record → Walk α Bool)
    (bound : Nat) (calls : List α) :
    ∃ s', s' = s.sending (q.windowed (min (k * size) maxRow) size).sql q.values ∧
      q.windows size visit (bound + 1) (k + 1) ⟨s, calls⟩ =
        (if window.isEmpty then return true
        else do
          if ← visit (k + 1) window then
            if window.length = size then q.windows size visit bound (k + 2) else return true
          else return false : Walk α Bool) ⟨s', calls⟩ := by
  refine ⟨_, rfl, ?_⟩
  have hpage := page_eq hunions k size
  have hfetch : (q.page (k + 1) size).fetch s =
      (.ok window, s.sending (q.windowed (min (k * size) maxRow) size).sql q.values) := by
    rw [hpage]
    exact fetch_answered (q := q.windowed _ size) hloads hattached hanswer
  rw [windows]
  exact bind_apply_ok (Run.toWalk_apply hfetch calls)

/-- A walk from the `k`-th window on, whose callback goes on: every window that is left is read, and
every one that holds a row is shown. `shown` says what calls have been made when so many windows
have been shown. -/
theorem windows_apply (hsize : 0 < size) (hloads : q.eagerLoads = []) (hunions : q.unions = [])
    (hattached : q.connection.attached = true) {visit : Nat → List Record → Walk α Bool}
    {shown : Nat → List α}
    (hvisit : ∀ k session, visit (k + 1) (windowOf rows size k) ⟨session, shown k⟩ =
      (.ok true, ⟨session, shown (k + 1)⟩)) :
    ∀ left bound k s, k + left = rows.length / size → left < bound →
      s.AnswersWindows rows size k →
      ∃ s', q.windows size visit bound (k + 1) ⟨s, shown k⟩ =
          (.ok true, ⟨s', shown (windowCount rows.length size)⟩) ∧
        s'.sent = s.sent ++ (List.range' k (left + 1)).map (q.windowStatement size) := by
  intro left
  -- on the full windows that are left, for every bound beyond them: the last case ends the walk
  induction left with
  | zero =>
    intro bound k s hk hbound hanswers
    obtain ⟨bound, rfl⟩ := Nat.exists_eq_succ_of_ne_zero (Nat.ne_of_gt hbound)
    have hlast : k = rows.length / size := hk
    have hlength : (windowOf rows size k).length = rows.length % size := by
      rw [hlast]
      exact length_windowOf_last rows hsize
    obtain ⟨s', hs', hwindow⟩ := windows_succ hloads hunions hattached
      (hanswers.answer (Nat.le_of_eq hlast)) size k visit bound (shown k)
    have hsent : s'.sent = s.sent ++ (List.range' k 1).map (q.windowStatement size) := by
      rw [hs']
      rfl
    have hcount := windowCount_eq rows.length hsize
    refine ⟨s', ?_, hsent⟩
    rw [hwindow]
    by_cases hrest : rows.length % size = 0
    · -- the rows fill their windows, and the last select finds nothing
      have hempty : windowOf rows size k = [] := by
        rw [← List.length_eq_zero_iff, hlength, hrest]
      rw [if_pos hrest, Nat.add_zero, ← hlast] at hcount
      rw [hcount, hempty]
      rfl
    · -- a window that is not full is shown, and nothing is asked for behind it
      have hfilled : windowOf rows size k ≠ [] := by
        rw [← List.length_pos_iff, hlength]
        exact Nat.pos_of_ne_zero hrest
      have hshort : (windowOf rows size k).length ≠ size := by
        rw [hlength]
        exact Nat.ne_of_lt (Nat.mod_lt _ hsize)
      rw [if_neg hrest, ← hlast] at hcount
      rw [hcount, if_neg (by simpa using hfilled), bind_apply_ok (hvisit k s'), if_pos rfl,
        if_neg hshort]
      rfl
  | succ left ih =>
    intro bound k s hk hbound hanswers
    obtain ⟨bound, rfl⟩ := Nat.exists_eq_succ_of_ne_zero (Nat.ne_of_gt (Nat.zero_lt_of_lt hbound))
    have hfull : (windowOf rows size k).length = size := length_windowOf_full (by omega)
    have hfilled : windowOf rows size k ≠ [] := by
      rw [← List.length_pos_iff, hfull]
      exact hsize
    obtain ⟨s', hs', hwindow⟩ := windows_succ hloads hunions hattached
      (hanswers.answer (by omega)) size k visit bound (shown k)
    have hanswers' : s'.AnswersWindows rows size (k + 1) := by
      rw [hs']
      exact hanswers.sending _ _
    obtain ⟨s'', hrest, hsent⟩ := ih bound (k + 1) s' (by omega) (by omega) hanswers'
    refine ⟨s'', ?_, ?_⟩
    · rw [hwindow, if_neg (by simpa using hfilled), bind_apply_ok (hvisit k s'), if_pos rfl,
        if_pos hfull]
      exact hrest
    · rw [hsent, hs', List.range'_succ, List.map_cons]
      show (s.sent ++ [q.windowStatement size k]) ++ _ = _
      rw [List.append_assoc]
      rfl

end Query

/-! ## Callbacks that go on -/

section Callbacks

variable {α : Type}

/-- A call is noted, and its answer depends on how many have been made. -/
theorem Visitor.call_apply (visitor : Visitor α) (x : α) (s : Session) (calls : List α) :
    visitor.call x ⟨s, calls⟩ = (visitor (calls.length + 1) x, ⟨s, calls ++ [x]⟩) := by
  have hnote : Walk.note x ⟨s, calls⟩ = (.ok (), ⟨s, calls ++ [x]⟩) := rfl
  have hcount : (get : Walk α (Tour α)) ⟨s, calls ++ [x]⟩ =
      (.ok ⟨s, calls ++ [x]⟩, ⟨s, calls ++ [x]⟩) := rfl
  have hlength : (calls ++ [x]).length = calls.length + 1 := List.length_append
  unfold Visitor.call
  rw [bind_apply_ok hnote, bind_apply_ok hcount]
  dsimp only
  rw [hlength]
  cases visitor (calls.length + 1) x <;> rfl

theorem call_apply {visitor : Visitor α} (h : ∀ n x, visitor n x = .ok true) (x : α) (s : Session)
    (calls : List α) : visitor.call x ⟨s, calls⟩ = (.ok true, ⟨s, calls ++ [x]⟩) := by
  rw [Visitor.call_apply, h]

/-- Rows are shown one by one; their indices go on from the number of calls before. -/
theorem visitRows_apply {visitor : Visitor (Nat × Record)} (h : ∀ n x, visitor n x = .ok true)
    (rows : List Record) (s : Session) (calls : List (Nat × Record)) :
    Query.visitRows visitor rows ⟨s, calls⟩ =
      (.ok true, ⟨s, calls ++ rows.mapIdx fun i row => (i + calls.length, row)⟩) := by
  -- on the rows, for all calls before: their number is the index of the next row
  induction rows generalizing calls with
  | nil =>
    rw [List.mapIdx_nil, List.append_nil]
    rfl
  | cons row rest ih =>
    have hcall := call_apply h (calls.length, row) s calls
    show (visitor.call (calls.length, row) >>= fun goOn =>
      if goOn then Query.visitRows visitor rest else pure false) ⟨s, calls⟩ = _
    rw [bind_apply_ok hcall, if_pos rfl, ih, List.mapIdx_cons, List.append_assoc]
    simp only [List.length_append, List.length_singleton, List.singleton_append, Nat.zero_add,
      Nat.add_assoc, Nat.add_comm 1]

/-- The calls of a callback that has been shown the first `k` of some windows with their numbers. -/
def shownAnswers (answers : Nat → List Record) (k : Nat) : List (Nat × List Record) :=
  (List.range k).map fun j => (j + 1, answers j)

/-- The calls of a callback that has been shown the rows of `k` windows with their indices. -/
def shownRows (rows : List Record) (size k : Nat) : List (Nat × Record) :=
  (rows.take (k * size)).mapIdx Prod.mk

/-- A callback that goes on is shown the windows one behind the other. -/
theorem call_shownAnswers {visitor : Visitor (Nat × List Record)}
    (h : ∀ n x, visitor n x = .ok true) (answers : Nat → List Record) (k : Nat) (s : Session) :
    visitor.call (k + 1, answers k) ⟨s, shownAnswers answers k⟩ =
      (.ok true, ⟨s, shownAnswers answers (k + 1)⟩) := by
  rw [call_apply h]
  unfold shownAnswers
  rw [List.range_succ, List.map_append, List.map_singleton]

/-- Row by row a window is shown with indices that go on from those of the windows before. -/
theorem visitRows_shownRows {visitor : Visitor (Nat × Record)} (h : ∀ n x, visitor n x = .ok true)
    (rows : List Record) (size k : Nat) (s : Session) :
    Query.visitRows visitor (windowOf rows size k) ⟨s, shownRows rows size k⟩ =
      (.ok true, ⟨s, shownRows rows size (k + 1)⟩) := by
  have hlength : (shownRows rows size k).length = (rows.take (k * size)).length :=
    List.length_mapIdx
  rw [visitRows_apply h, hlength]
  unfold shownRows
  rw [take_succ_mul, List.mapIdx_append]

end Callbacks

/-! ## Whole walks -/

namespace Query

variable {α : Type} {q : Query} {s : Session} {rows : List Record}

/-- A walk over every window from the first on. -/
theorem walk_apply (horders : q.tail.orders ≠ [] ∨ q.unionTail.orders ≠ [])
    (hloads : q.eagerLoads = []) (hunions : q.unions = [])
    (hattached : q.connection.attached = true) (size : Nat)
    (hanswers : s.AnswersWindows rows (Nat.max size 1) 0) (visit : Nat → List Record → Walk α Bool)
    (shown : Nat → List α) (hstart : shown 0 = [])
    (hvisit : ∀ k session, visit (k + 1) (windowOf rows (Nat.max size 1) k) ⟨session, shown k⟩ =
      (.ok true, ⟨session, shown (k + 1)⟩)) :
    ∃ s', q.walk size visit ⟨s, []⟩ =
        (.ok true, ⟨s', shown (windowCount rows.length (Nat.max size 1))⟩) ∧
      s'.sent = s.sent ++ q.windowStatements (Nat.max size 1) rows.length := by
  have hsize : 0 < Nat.max size 1 := Nat.lt_of_lt_of_le Nat.zero_lt_one (Nat.le_max_right size 1)
  have hordered : (q.tail.orders.isEmpty && q.unionTail.orders.isEmpty) = false := by
    rcases horders with h | h
    · simp [List.isEmpty_eq_false_iff.mpr h]
    · simp [List.isEmpty_eq_false_iff.mpr h]
  have hbound : (windowBound : Walk α Nat) ⟨s, []⟩ = (.ok (s.rows.length + 1), ⟨s, []⟩) := rfl
  have hlong := hanswers.length_le hsize
  obtain ⟨s', hwalk, hsent⟩ := windows_apply hsize hloads hunions hattached hvisit
    (rows.length / Nat.max size 1) (s.rows.length + 1) 0 s (Nat.zero_add _)
    (Nat.lt_succ_of_le hlong) hanswers
  have hall : s'.sent = s.sent ++ q.windowStatements (Nat.max size 1) rows.length := by
    unfold windowStatements
    rw [hsent, List.range_eq_range']
  refine ⟨s', ?_, hall⟩
  unfold walk
  rw [hordered, if_neg Bool.false_ne_true, bind_apply_ok hbound]
  rw [hstart] at hwalk
  exact hwalk

/-- Without an order nothing is read. -/
theorem walk_unordered (horders : q.tail.orders = []) (hunion : q.unionTail.orders = [])
    (size : Nat) (visit : Nat → List Record → Walk α Bool) (s : Session) :
    q.walk size visit ⟨s, []⟩ = (.error .orderRequired, ⟨s, []⟩) := by
  unfold walk
  rw [horders, hunion]
  rfl

end Query

/-- Over an ordered query without relations and unions, whose selects are answered with the windows
of some rows: a walk whose callback goes on ends with `true` after a select for each full window and
one more. Window by window, the callback is shown the windows under their numbers, and these make up
the rows; row by row, it is shown every row once, with its index. Below 64 bits the windows start
where they should. Without any ordering a walk fails and sends nothing. -/
theorem walk_visits_once (q : Query) (size : Nat) (s : Session) :
    (∀ rows : List Record, q.tail.orders ≠ [] ∨ q.unionTail.orders ≠ [] → q.eagerLoads = [] →
      q.unions = [] → q.connection.attached = true →
      s.AnswersWindows rows (Nat.max size 1) 0 →
      (∀ visitor : Visitor (Nat × List Record), (∀ n x, visitor n x = .ok true) →
        ∃ s', q.chunk size visitor ⟨s, []⟩ = (.ok true,
            ⟨s', (List.range (windowCount rows.length (Nat.max size 1))).map fun k =>
              (k + 1, windowOf rows (Nat.max size 1) k)⟩) ∧
          s'.sent = s.sent ++ q.windowStatements (Nat.max size 1) rows.length) ∧
      (∀ (count : Option Nat) (visitor : Visitor (Nat × Record)),
        count.getD q.connection.config.chunkSize = size → (∀ n x, visitor n x = .ok true) →
        ∃ s', q.each count visitor ⟨s, []⟩ = (.ok true, ⟨s', rows.mapIdx Prod.mk⟩) ∧
          s'.sent = s.sent ++ q.windowStatements (Nat.max size 1) rows.length) ∧
      ((List.range (windowCount rows.length (Nat.max size 1))).map
        (windowOf rows (Nat.max size 1))).flatten = rows ∧
      (rows.length ≤ maxRow → ∀ k ≤ rows.length / Nat.max size 1,
        q.windowStatement (Nat.max size 1) k =
          .query (q.windowed (k * Nat.max size 1) (Nat.max size 1)).sql q.values)) ∧
    (q.tail.orders = [] → q.unionTail.orders = [] →
      (∀ visitor, q.chunk size visitor ⟨s, []⟩ = (.error .orderRequired, ⟨s, []⟩)) ∧
      (∀ count visitor, q.each count visitor ⟨s, []⟩ = (.error .orderRequired, ⟨s, []⟩))) := by
  have hsize : 0 < Nat.max size 1 := Nat.lt_of_lt_of_le Nat.zero_lt_one (Nat.le_max_right size 1)
  constructor
  · intro rows horders hloads hunions hattached hanswers
    -- the windows shown have room for all rows, so nothing is cut off
    have hwhole : rows.take (windowCount rows.length (Nat.max size 1) * Nat.max size 1) = rows :=
      List.take_of_length_le (le_windowCount_mul rows.length hsize)
    refine ⟨fun visitor hvisitor => ?_, fun count visitor hcount hvisitor => ?_, ?_, ?_⟩
    · exact Query.walk_apply horders hloads hunions hattached size hanswers
        (fun number rows => visitor.call (number, rows))
        (shownAnswers (windowOf rows (Nat.max size 1))) rfl
        fun k session => call_shownAnswers hvisitor _ k session
    · have hstart : shownRows rows (Nat.max size 1) 0 = [] := by
        unfold shownRows
        rw [Nat.zero_mul, List.take_zero, List.mapIdx_nil]
      obtain ⟨s', hwalk, hsent⟩ := Query.walk_apply horders hloads hunions hattached size hanswers
        (fun _ rows => Query.visitRows visitor rows) (shownRows rows (Nat.max size 1)) hstart
        fun k session => visitRows_shownRows hvisitor rows _ k session
      refine ⟨s', ?_, hsent⟩
      unfold shownRows at hwalk
      rw [hwhole] at hwalk
      unfold Query.each
      rw [hcount]
      exact hwalk
    · rw [flatten_windowOf, hwhole]
    · intro hrows k hk
      have hstart : k * Nat.max size 1 ≤ rows.length := Nat.mul_le_of_le_div _ _ _ hk
      unfold Query.windowStatement
      rw [Nat.min_eq_left (Nat.le_trans hstart hrows)]
  · intro horders hunion
    exact ⟨fun visitor => Query.walk_unordered horders hunion size _ s,
      fun count visitor => Query.walk_unordered horders hunion _ _ s⟩

/-- The users in the order of their keys. -/
def orderedUsers : Query :=
  (Query.table { attached := true } "users").orderBy (.name "id") .ascending

/-- Three users in that order. -/
def threeUsers : List Record :=
  [[("id", .ofInt 1)], [("id", .ofInt 2)], [("id", .ofInt 3)]]

/-- Three users two by two, and the same one by one. -/
theorem walk_visits_once_three :
    (∃ s', orderedUsers.chunk 2 (fun _ _ => .ok true)
        ⟨{ rows := [.ok (threeUsers.take 2), .ok (threeUsers.drop 2)] }, []⟩ =
      (.ok true, ⟨s', [(1, threeUsers.take 2), (2, threeUsers.drop 2)]⟩) ∧ s'.sent.length = 2) ∧
    ∃ s', orderedUsers.each (some 2) (fun _ _ => .ok true)
        ⟨{ rows := [.ok (threeUsers.take 2), .ok (threeUsers.drop 2)] }, []⟩ =
      (.ok true,
        ⟨s', [(0, [("id", .ofInt 1)]), (1, [("id", .ofInt 2)]), (2, [("id", .ofInt 3)])]⟩) ∧
      s'.sent.length = 2 := by
  have hanswers : Session.AnswersWindows
      { rows := [.ok (threeUsers.take 2), .ok (threeUsers.drop 2)] } threeUsers 2 0 := by
    intro j hj
    have hcases : j = 0 ∨ j = 1 := by
      have hj' : 0 + j ≤ 1 := hj
      omega
    rcases hcases with rfl | rfl
    · rfl
    · rfl
  have hwalk := (walk_visits_once orderedUsers 2
    { rows := [.ok (threeUsers.take 2), .ok (threeUsers.drop 2)] }).1 threeUsers
    (.inl (List.cons_ne_nil _ _)) rfl rfl rfl hanswers
  obtain ⟨s', hchunk, hsent⟩ := hwalk.1 (fun _ _ => .ok true) fun _ _ => rfl
  obtain ⟨s'', heach, hsent'⟩ := hwalk.2.1 (some 2) (fun _ _ => .ok true) rfl fun _ _ => rfl
  refine ⟨⟨s', hchunk, ?_⟩, s'', heach, ?_⟩
  · rw [hsent]
    rfl
  · rw [hsent']
    rfl

end QueryBuilder
