import QueryBuilder.Proofs.DerivedStatements
import QueryBuilder.Proofs.KeyedStatements
import QueryBuilder.Proofs.Windows

/-!
# Walking by a cursor

A walk by cursor reads a window, notes the value that its last row has in the cursor column, and
goes on with the rows beyond that value. Each window is made from the query as it was given, so
there is never more than one condition on the cursor.

- `Query.cursorStart`, `Query.cursorWindow`: the window that a walk starts with, and the one beyond
  a value.
- `lastSeen`: the value beyond which a window goes on.
- `Query.cursorWindows_succ`: what one window does. `Query.cursorWindows_full`: any number of full
  windows, by induction on how many have been read.
- `Query.walkByCursor_apply`: the three ways in which a walk ends.
- `cursor_walk_follows_keys`: what is sent and what the callback is shown, for any sequence of
  answers.
-/

namespace QueryBuilder

/-! ## The windows -/

namespace Query

/-- The window that a walk by cursor starts with: in the order of the cursor column, under no
condition on it. -/
def cursorStart (q : Query) (size : Nat) (column : String) : Query :=
  ((q.withoutOrdersBy column).orderBy (.name column) .ascending).limit size

/-- The window beyond a value of the cursor column, if there is one. -/
def cursorWindow (q : Query) (size : Nat) (column : String) : Option Value → Query
  | none => q.cursorStart size column
  | some last => (q.cursorStart size column).keyed column ">" (.value last)

/-- The select of a window. -/
def cursorStatement (q : Query) (size : Nat) (column : String) (last : Option Value) : Sent :=
  .query (q.cursorWindow size column last).sql (q.cursorWindow size column last).values

variable {q : Query} {size : Nat} {column : String} {last : Option Value}

/-- Orderings and windows do not touch the conditions, so it does not matter which comes first. -/
theorem updateTail_keyed (q : Query) (column operator : String) (key : Operand) (f : Tail → Tail) :
    (q.keyed column operator key).updateTail f = (q.updateTail f).keyed column operator key := by
  unfold updateTail
  show (if q.isUnion then _ else _) = _
  split <;> rfl

/-- Beyond a value that is not null, the window is made, and it is the one of that value. -/
theorem pageAfter_ok (hlast : ∀ v ∈ last, v.isNull = false) (size : Nat) (column : String) :
    q.pageAfter size last column = .ok (q.cursorWindow size column last) := by
  cases last with
  | none => rfl
  | some v =>
    rw [pageAfter_eq (hlast v rfl)]
    unfold cursorWindow cursorStart orderBy addSortKey limit
    rw [updateTail_keyed, updateTail_keyed]

/-- The first window has the conditions of the query. -/
theorem wheres_cursorStart (q : Query) (size : Nat) (column : String) :
    (q.cursorStart size column).wheres = q.wheres :=
  wheres_orderBy_limit _ _ _ _

/-- Nothing is bound for it. -/
theorem bindings_cursorStart (q : Query) (size : Nat) (column : String) :
    (q.cursorStart size column).bindings = q.bindings :=
  (bindings_updateTail _ _).trans (bindings_updateTail _ _)

end Query

/-- The value beyond which the `k`-th window goes on, windows being counted from zero: that of the
window before. -/
def lastSeen (field : String) (answers : Nat → List Record) : Nat → Option Value
  | 0 => none
  | k + 1 => Query.cursorOf field (answers k)

/-- Null is no value to go on from. -/
theorem isNull_of_mem_lastSeen {field : String} {answers : Nat → List Record} {k : Nat} :
    ∀ v ∈ lastSeen field answers k, v.isNull = false := by
  intro v hv
  cases k with
  | zero => exact absurd hv (by simp [lastSeen])
  | succ k =>
    have hkept := (Option.filter_eq_some_iff.mp (Option.mem_def.mp hv)).2
    simpa using hkept

/-! ## Walking -/

namespace Query

variable {α : Type} {q : Query} {s : Session} {answers : Nat → List Record}
  {given size n : Nat} {column : String}

/-- One window: its select is sent, and what follows depends on the answer. -/
theorem cursorWindows_succ (hloads : q.eagerLoads = []) (hattached : q.connection.attached = true)
    {last : Option Value} (hlast : ∀ v ∈ last, v.isNull = false) {window : List Record}
    (hanswer : s.answer = .ok window) (size : Nat) (column : String)
    (visit : Nat → List Record → Walk α Bool) (bound k : Nat) (calls : List α) :
    ∃ s', s' = s.sending (q.cursorWindow size column last).sql
        (q.cursorWindow size column last).values ∧
      q.cursorWindows size column visit (bound + 1) k last ⟨s, calls⟩ =
        (if window.isEmpty then return true
        else do
          if ← visit k window then
            match cursorOf (Column.resultField column) window with
            | none => throw (.missingCursor (Column.resultField column))
            | some v =>
              if window.length = size then q.cursorWindows size column visit bound (k + 1) (some v)
              else return true
          else return false : Walk α Bool) ⟨s', calls⟩ := by
  refine ⟨_, rfl, ?_⟩
  have hmade := pageAfter_ok (q := q) hlast size column
  have hderives := derives_pageAfter hmade
  have hfetch : (q.cursorWindow size column last).fetch s =
      (.ok window, s.sending (q.cursorWindow size column last).sql
        (q.cursorWindow size column last).values) := by
    refine fetch_answered (hderives.unloaded hloads) ?_ hanswer
    rw [hderives.connection]
    exact hattached
  have hwindow : (Run.ofExcept (q.pageAfter size last column)) s =
      (.ok (q.cursorWindow size column last), s) := by
    rw [hmade]
    rfl
  rw [cursorWindows, bind_apply_ok (Run.toWalk_apply hwindow calls)]
  exact bind_apply_ok (Run.toWalk_apply hfetch calls)

variable {visit : Nat → List Record → Walk α Bool} {shown : Nat → List α}

/-- After `k` full windows whose last rows have a value to go on from, the walk stands before the
next one and has sent a select for each of the `k`. `shown` says what calls have been made when so
many windows have been shown. -/
theorem cursorWindows_full (hsize : 0 < size) (hloads : q.eagerLoads = [])
    (hattached : q.connection.attached = true) (hanswers : s.Answers answers 0 n)
    (hvisit : ∀ k session, visit (k + 1) (answers k) ⟨session, shown k⟩ =
      (.ok true, ⟨session, shown (k + 1)⟩)) (k bound : Nat) (hk : k ≤ n)
    (hfull : ∀ j < k, (answers j).length = size)
    (hseen : ∀ j < k, cursorOf (Column.resultField column) (answers j) ≠ none) :
    ∃ s', q.cursorWindows size column visit (bound + k) 1 none ⟨s, shown 0⟩ =
        q.cursorWindows size column visit bound (k + 1)
          (lastSeen (Column.resultField column) answers k) ⟨s', shown k⟩ ∧
      s'.Answers answers k n ∧
      s'.sent = s.sent ++ (List.range k).map fun j =>
        q.cursorStatement size column (lastSeen (Column.resultField column) answers j) := by
  -- on the number of windows: the last of them is read in the session that the others leave
  induction k generalizing bound with
  | zero => exact ⟨s, rfl, hanswers, by simp⟩
  | succ k ih =>
    -- the windows before this one leave one more in the bound
    obtain ⟨s', hbefore, hanswers', hsent⟩ := ih (bound + 1) (by omega)
      (fun j hj => hfull j (by omega)) (fun j hj => hseen j (by omega))
    obtain ⟨s'', hs'', hwindow⟩ := cursorWindows_succ hloads hattached isNull_of_mem_lastSeen
      (hanswers'.answer (by omega)) size column visit bound (k + 1) (shown k)
    -- a full window is not empty, so the walk shows it
    have hfilled : ¬ (answers k).isEmpty = true := by
      intro hempty
      have hlength := hfull k (by omega)
      rw [List.isEmpty_iff.mp hempty, List.length_nil] at hlength
      omega
    obtain ⟨v, hv⟩ := Option.ne_none_iff_exists'.mp (hseen k (by omega))
    refine ⟨s'', ?_, ?_, ?_⟩
    · rw [show bound + (k + 1) = bound + 1 + k by omega, hbefore, hwindow, if_neg hfilled,
        bind_apply_ok (hvisit k s''), if_pos rfl]
      simp only [hv, if_pos (hfull k (Nat.lt_succ_self k))]
      rw [lastSeen, hv]
    · rw [hs'']
      exact hanswers'.sending _ _
    · rw [hs'', List.range_succ, List.map_append, ← List.append_assoc, ← hsent]
      rfl

/-- A walk whose first `n` windows are full and have values to go on from. It ends with the next
window: without a call if that is empty; else after a call, and for want of a value to go on from it
fails. -/
theorem walkByCursor_apply (hloads : q.eagerLoads = []) (hattached : q.connection.attached = true)
    (named : Option String) (hcolumn : named.getD q.connection.config.primaryKey = column)
    (hsize : Nat.max given 1 = size) (hanswers : s.Answers answers 0 n)
    (visit : Nat → List Record → Walk α Bool) (shown : Nat → List α) (hstart : shown 0 = [])
    (hvisit : ∀ k session, visit (k + 1) (answers k) ⟨session, shown k⟩ =
      (.ok true, ⟨session, shown (k + 1)⟩))
    (hfull : ∀ j < n, (answers j).length = size)
    (hseen : ∀ j < n, cursorOf (Column.resultField column) (answers j) ≠ none) :
    ∃ s', s'.sent = s.sent ++ (List.range (n + 1)).map (fun j =>
        q.cursorStatement size column (lastSeen (Column.resultField column) answers j)) ∧
      (answers n = [] → q.walkByCursor given named visit ⟨s, []⟩ = (.ok true, ⟨s', shown n⟩)) ∧
      (answers n ≠ [] → cursorOf (Column.resultField column) (answers n) = none →
        q.walkByCursor given named visit ⟨s, []⟩ =
          (.error (.missingCursor (Column.resultField column)), ⟨s', shown (n + 1)⟩)) ∧
      (answers n ≠ [] → cursorOf (Column.resultField column) (answers n) ≠ none →
        (answers n).length ≠ size →
        q.walkByCursor given named visit ⟨s, []⟩ = (.ok true, ⟨s', shown (n + 1)⟩)) := by
  have hpositive := size_pos hsize
  -- full windows hold rows, and rows take an answer from the queue
  have hlong : n ≤ s.rows.length := by
    refine hanswers.length_le fun j hj hempty => ?_
    have hlength := hfull j hj
    rw [hempty, List.length_nil] at hlength
    omega
  -- the queue allows for the windows before the last, the last one, and some more
  obtain ⟨spare, hspare⟩ : ∃ spare, s.rows.length + 1 = spare + 1 + n :=
    ⟨s.rows.length - n, by omega⟩
  obtain ⟨s', hbefore, hanswers', hsent⟩ := cursorWindows_full hpositive hloads hattached hanswers
    hvisit n (spare + 1) (Nat.le_refl n) hfull hseen
  obtain ⟨s'', hs'', hlast⟩ := cursorWindows_succ hloads hattached isNull_of_mem_lastSeen
    (hanswers'.answer (Nat.le_refl n)) size column visit spare (n + 1) (shown n)
  have hwalk : q.walkByCursor given named visit ⟨s, []⟩ =
      q.cursorWindows size column visit (spare + 1) (n + 1)
        (lastSeen (Column.resultField column) answers n) ⟨s', shown n⟩ := by
    have hbound : (windowBound : Walk α Nat) ⟨s, []⟩ = (.ok (spare + 1 + n), ⟨s, []⟩) := by
      rw [← hspare]
      rfl
    unfold walkByCursor
    rw [hcolumn, hsize, bind_apply_ok hbound, ← hbefore, hstart]
  refine ⟨s'', ?_, fun hempty => ?_, fun hfilled hnone => ?_, fun hfilled hsome hshort => ?_⟩
  · rw [hs'', List.range_succ, List.map_append, ← List.append_assoc, ← hsent]
    rfl
  · rw [hwalk, hlast, hempty]
    rfl
  · rw [hwalk, hlast, if_neg (by simpa using hfilled), bind_apply_ok (hvisit n s''), if_pos rfl]
    simp only [hnone]
    rfl
  · obtain ⟨v, hv⟩ := Option.ne_none_iff_exists'.mp hsome
    rw [hwalk, hlast, if_neg (by simpa using hfilled), bind_apply_ok (hvisit n s''), if_pos rfl]
    simp only [hv, if_neg hshort]
    rfl

end Query

/-! ## Whole walks -/

/-- Of windows all of which but the last hold rows, the last alone may be passed over. -/
theorem filter_shownAnswers {answers : Nat → List Record} {k : Nat}
    (hfilled : ∀ j < k, answers j ≠ []) :
    (shownAnswers answers (k + 1)).filter (fun call => !call.2.isEmpty) =
      if answers k = [] then shownAnswers answers k else shownAnswers answers (k + 1) := by
  -- the windows before the last hold rows and stay
  have hbefore : (shownAnswers answers k).filter (fun call => !call.2.isEmpty) =
      shownAnswers answers k := by
    refine List.filter_eq_self.mpr fun call hcall => ?_
    obtain ⟨j, hj, rfl⟩ := List.mem_map.mp hcall
    simpa using hfilled j (List.mem_range.mp hj)
  have hsplit : shownAnswers answers (k + 1) = shownAnswers answers k ++ [(k + 1, answers k)] := by
    unfold shownAnswers
    rw [List.range_succ, List.map_append, List.map_singleton]
  rw [hsplit, List.filter_append, hbefore]
  by_cases hempty : answers k = []
  · simp [hempty]
  · simp [hempty]

/-- A walk by cursor over any sequence of answers, the `k`-th being the first that is not a full
window, with a callback that goes on. If the last row of every window has a value in the cursor
column, the walk ends with `true` after the `k`-th window, and the callback has been shown those
that hold rows, in order. If the `i`-th is the first to lack that value, the walk fails behind it.
The select of the first window is that of the query in the order of the cursor column, under the
query's own conditions; each further one has a single condition more, which compares the column with
the value of the window before. -/
theorem cursor_walk_follows_keys (q : Query) (hloads : q.eagerLoads = [])
    (hattached : q.connection.attached = true) (given : Nat) (named : Option String) (s : Session)
    (visitor : Visitor (Nat × List Record)) (hvisitor : ∀ n x, visitor n x = .ok true)
    (answers : Nat → List Record) (k size : Nat) (column field : String)
    (hsize : Nat.max given 1 = size) (hcolumn : named.getD q.connection.config.primaryKey = column)
    (hfield : Column.resultField column = field) (hanswers : s.Answers answers 0 k)
    (hfull : ∀ j < k, (answers j).length = size) (hshort : (answers k).length ≠ size) :
    ((∀ j ≤ k, answers j ≠ [] → Query.cursorOf field (answers j) ≠ none) →
      ∃ s', q.chunkByCursor given named visitor ⟨s, []⟩ = (.ok true, ⟨s',
          ((List.range (k + 1)).map fun j => (j + 1, answers j)).filter
            fun call => !call.2.isEmpty⟩) ∧
        s'.sent = s.sent ++ (List.range (k + 1)).map fun j =>
          q.cursorStatement size column (lastSeen field answers j)) ∧
    (∀ i ≤ k, answers i ≠ [] → Query.cursorOf field (answers i) = none →
      (∀ j < i, answers j ≠ [] → Query.cursorOf field (answers j) ≠ none) →
      ∃ s', q.chunkByCursor given named visitor ⟨s, []⟩ = (.error (.missingCursor field), ⟨s',
          (List.range (i + 1)).map fun j => (j + 1, answers j)⟩) ∧
        s'.sent = s.sent ++ (List.range (i + 1)).map fun j =>
          q.cursorStatement size column (lastSeen field answers j)) ∧
    (q.cursorWindow size column none =
        ((q.withoutOrdersBy column).orderBy (.name column) .ascending).limit size ∧
      (q.cursorWindow size column none).wheres = q.wheres ∧
      (q.cursorWindow size column none).bindings = q.bindings) ∧
    ∀ last, q.cursorWindow size column (some last) =
      { q.cursorWindow size column none with
        wheres := q.wheres ++ [⟨.and, .compare (.name column) ">" (.value last)⟩]
        bindings := q.bindings.extend .wheres [last.scalar] } := by
  -- sizes are positive, so full windows hold rows
  have hfilled : ∀ j < k, answers j ≠ [] := by
    intro j hj hempty
    have hlength := hfull j hj
    rw [hempty, List.length_nil] at hlength
    have hpositive := size_pos hsize
    omega
  have hvisit := fun k session => call_shownAnswers hvisitor answers k session
  subst hfield
  refine ⟨fun hseen => ?_, fun i hi hrows hnone hseen => ?_, ?_, fun last => ?_⟩
  · obtain ⟨s', hsent, hends⟩ :=
      Query.walkByCursor_apply hloads hattached named hcolumn hsize hanswers
      (fun number rows => visitor.call (number, rows)) (shownAnswers answers) rfl hvisit hfull
      fun j hj => hseen j (Nat.le_of_lt hj) (hfilled j hj)
    refine ⟨s', ?_, hsent⟩
    show _ = (_, Tour.mk s' ((shownAnswers answers (k + 1)).filter _))
    rw [filter_shownAnswers hfilled]
    split
    · next hempty => exact hends.1 hempty
    · next hrows => exact hends.2.2 hrows (hseen k (Nat.le_refl k) hrows) hshort
  · -- the same answers as far as the window without a value
    have hanswers' : s.Answers answers 0 i := fun j hj => hanswers j (by omega)
    obtain ⟨s', hsent, hends⟩ := Query.walkByCursor_apply hloads hattached named hcolumn hsize
      hanswers' (fun number rows => visitor.call (number, rows)) (shownAnswers answers) rfl hvisit
      (fun j hj => hfull j (by omega)) fun j hj => hseen j hj (hfilled j (by omega))
    exact ⟨s', hends.2.1 hrows hnone, hsent⟩
  · exact ⟨rfl, Query.wheres_cursorStart q size column, Query.bindings_cursorStart q size column⟩
  · show (q.cursorStart size column).keyed column ">" (.value last) = _
    rw [← Query.wheres_cursorStart q size column, ← Query.bindings_cursorStart q size column]
    rfl

/-- Pairs of users in the order of their keys; the second pair is the last row and one without a
key. -/
def keyedPairs : Nat → List Record
  | 0 => threeUsers.take 2
  | 1 => [[("id", .ofInt 3)], [("name", .text "b")]]
  | _ => []

/-- A single user behind a pair ends a walk, and a row without a key breaks one off. -/
theorem cursor_walk_follows_keys_pairs :
    (∃ s', (Query.table { attached := true } "users").chunkByCursor 2 none (fun _ _ => .ok true)
        ⟨{ rows := [.ok (threeUsers.take 2), .ok (threeUsers.drop 2)] }, []⟩ =
      (.ok true, ⟨s', [(1, threeUsers.take 2), (2, threeUsers.drop 2)]⟩) ∧ s'.sent.length = 2) ∧
    ∃ s', (Query.table { attached := true } "users").chunkByCursor 2 none (fun _ _ => .ok true)
        ⟨{ rows := [.ok (keyedPairs 0), .ok (keyedPairs 1)] }, []⟩ =
      (.error (.missingCursor "id"), ⟨s', [(1, keyedPairs 0), (2, keyedPairs 1)]⟩) ∧
        s'.sent.length = 2 := by
  constructor
  · have hanswers : Session.Answers
        { rows := [.ok (threeUsers.take 2), .ok (threeUsers.drop 2)] }
        (fun j => windowOf threeUsers 2 j) 0 1 := by
      intro j hj
      have hcases : j = 0 ∨ j = 1 := by omega
      rcases hcases with rfl | rfl
      · rfl
      · rfl
    have hfull : ∀ j < 1, (windowOf threeUsers 2 j).length = 2 := by
      intro j hj
      have hzero : j = 0 := by omega
      subst hzero
      rfl
    have hwalk :=
      (cursor_walk_follows_keys (Query.table { attached := true } "users") rfl rfl 2 none
      _ (fun _ _ => .ok true) (fun _ _ => rfl) _ 1 2 "id" "id" rfl rfl rfl hanswers hfull
      (by decide)).1
    obtain ⟨s', hchunk, hsent⟩ := hwalk fun j hj _ => by
      have hcases : j = 0 ∨ j = 1 := by omega
      rcases hcases with rfl | rfl
      · exact Option.some_ne_none _
      · exact Option.some_ne_none _
    refine ⟨s', hchunk, ?_⟩
    rw [hsent]
    rfl
  · have hanswers : Session.Answers { rows := [.ok (keyedPairs 0), .ok (keyedPairs 1)] }
        keyedPairs 0 2 := by
      intro j hj
      have hcases : j = 0 ∨ j = 1 ∨ j = 2 := by omega
      rcases hcases with rfl | rfl | rfl
      · rfl
      · rfl
      · rfl
    have hfull : ∀ j < 2, (keyedPairs j).length = 2 := by
      intro j hj
      have hcases : j = 0 ∨ j = 1 := by omega
      rcases hcases with rfl | rfl
      · rfl
      · rfl
    have hwalk :=
      (cursor_walk_follows_keys (Query.table { attached := true } "users") rfl rfl 2 none
      _ (fun _ _ => .ok true) (fun _ _ => rfl) _ 2 2 "id" "id" rfl rfl rfl hanswers hfull
      (by decide)).2.1
    obtain ⟨s', hchunk, hsent⟩ := hwalk 1 (by omega) (List.cons_ne_nil _ _) rfl fun j hj _ => by
      have hzero : j = 0 := by omega
      subst hzero
      exact Option.some_ne_none _
    refine ⟨s', hchunk, ?_⟩
    rw [hsent]
    rfl

end QueryBuilder
