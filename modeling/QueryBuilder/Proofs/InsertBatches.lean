import QueryBuilder.Proofs.InsertedRows
import QueryBuilder.Proofs.Pages

/-!
# Inserts in batches

Many rows are inserted in statements of a bounded size, one after another. Each batch takes its
columns from its own first row, so that rows with one set of columns are written as in a single
statement, only cut into pieces.

- `batches_eq_windows`: the batches of a list are its windows.
- `Session.writeAll`: writes sent one after another. `Session.writeAll_answered` and
  `Session.writeAll_failed` say how they end: all are sent, or those up to the first that fails.
- `Grid.CutInto`: a grid in pieces. `gridOf_cutInto_batches`: rows with the same columns are cut so.
- `Query.insertMany_fails`: an insert that cannot be made or sent fails for one reason, whatever the
  rows are.
- `insert_batches_unobservable`: what an insert in batches sends and answers.
-/

namespace QueryBuilder

/-! ## Batches of a list -/

section Batches

variable {α : Type} {size fuel : Nat} {xs : List α}

/-- The windows behind the first are the windows of what is behind it. -/
theorem windowOf_drop (xs : List α) (size k : Nat) :
    windowOf (xs.drop size) size k = windowOf xs size (k + 1) := by
  unfold windowOf
  rw [List.drop_drop, Nat.succ_mul, Nat.add_comm]

/-- One window more for the rows of the first. -/
theorem windowCount_drop (hsize : 0 < size) (hxs : xs ≠ []) :
    windowCount xs.length size = windowCount (xs.drop size).length size + 1 := by
  have hlength : 0 < xs.length := List.length_pos_iff.mpr hxs
  unfold windowCount
  rw [List.length_drop, ← Nat.add_div_right _ hsize]
  by_cases hmore : size ≤ xs.length
  · congr 1
    omega
  · -- a list that is no longer than one window
    have hrest : xs.length - size = 0 := by omega
    rw [hrest, Nat.zero_add, Nat.div_eq_of_lt_le (k := 1) (by omega) (by omega),
      Nat.div_eq_of_lt_le (k := 1) (by omega) (by omega)]

/-- Nothing needs no window. -/
theorem windowCount_zero (hsize : 0 < size) : windowCount 0 size = 0 :=
  Nat.div_eq_of_lt (by omega)

/-- With as much fuel as there are elements, the batches are the windows. -/
theorem batchesWithin_eq_windows (hsize : 0 < size) (hfuel : xs.length ≤ fuel) :
    Query.batchesWithin size fuel xs =
      (List.range (windowCount xs.length size)).map (windowOf xs size) := by
  -- on the fuel: a batch takes one element at least
  induction fuel generalizing xs with
  | zero =>
    obtain rfl : xs = [] := List.length_eq_zero_iff.mp (Nat.le_zero.mp hfuel)
    rw [List.length_nil, windowCount_zero hsize]
    rfl
  | succ fuel ih =>
    cases xs with
    | nil =>
      rw [List.length_nil, windowCount_zero hsize]
      rfl
    | cons x rest =>
      have hfirst : windowOf (x :: rest) size 0 = (x :: rest).take size := by
        unfold windowOf
        rw [Nat.zero_mul, List.drop_zero]
      -- the first batch is not empty, so the fuel suffices for the rest
      have hdrop : ((x :: rest).drop size).length ≤ fuel := by
        rw [List.length_drop]
        rw [List.length_cons] at hfuel ⊢
        omega
      rw [Query.batchesWithin, ih hdrop, windowCount_drop hsize (List.cons_ne_nil x rest),
        List.range_succ_eq_map, List.map_cons, List.map_map, hfirst]
      congr 1
      exact List.map_congr_left fun k _ => windowOf_drop (x :: rest) size k

/-- The batches of a list are its windows. -/
theorem batches_eq_windows (size : Nat) (xs : List α) :
    Query.batches size xs =
      (List.range (windowCount xs.length (Nat.max size 1))).map (windowOf xs (Nat.max size 1)) :=
  batchesWithin_eq_windows (size_pos rfl) (Nat.le_refl xs.length)

/-- The batches together are the list. -/
theorem flatten_batches (size : Nat) (xs : List α) : (Query.batches size xs).flatten = xs := by
  rw [batches_eq_windows, flatten_windowOf,
    List.take_of_length_le (le_windowCount_mul xs.length (size_pos rfl))]

/-- No batch is empty, and none has more than `size` elements. -/
theorem length_of_mem_batches {batch : List α} (h : batch ∈ Query.batches size xs) :
    1 ≤ batch.length ∧ batch.length ≤ Nat.max size 1 := by
  rw [batches_eq_windows] at h
  obtain ⟨k, hk, rfl⟩ := List.mem_map.mp h
  have hfilled : windowOf xs (Nat.max size 1) k ≠ [] := by
    rw [ne_eq, windowOf_eq_nil_iff xs (size_pos rfl)]
    exact Nat.not_le.mpr (List.mem_range.mp hk)
  refine ⟨List.length_pos_iff.mpr hfilled, ?_⟩
  rw [length_windowOf]
  exact Nat.min_le_left _ _

end Batches

/-! ## Writes one after another -/

namespace Session

variable {s : Session} {sts : List Statement} {counts : List Nat}

/-- The answer to the next write. -/
def count (s : Session) : Except Error Nat :=
  (s.counts.headD (.ok 1)).mapError .execution

/-- The session after several writes were sent. -/
def writingAll (s : Session) (sts : List Statement) : Session :=
  { s with counts := s.counts.drop sts.length, sent := s.sent ++ sts.map fun st =>
    .update st.sql st.values }

/-- The next writes are answered with these counts. -/
def Counts (s : Session) (counts : List Nat) : Prop :=
  ∀ k n, counts[k]? = some n → (s.counts.drop k).headD (.ok 1) = .ok n

/-- Writes sent one after another, up to one that fails: how many rows they changed together, or why
one failed. -/
def writeAll (s : Session) : List Statement → Except Error Nat × Session
  | [] => (.ok 0, s)
  | st :: rest =>
    match s.count with
    | .error why => (.error why, s.writing st.sql st.values)
    | .ok n =>
      let written := (s.writing st.sql st.values).writeAll rest
      (written.1.map (n + ·), written.2)

/-- What is sent first stands first. -/
theorem writingAll_cons (s : Session) (st : Statement) (rest : List Statement) :
    (s.writing st.sql st.values).writingAll rest = s.writingAll (st :: rest) := by
  unfold writingAll writing
  simp

/-- The answer to a write is the next count, and the counts behind it answer the writes behind
it. -/
theorem Counts.head {n : Nat} {rest : List Nat} (h : s.Counts (n :: rest)) (sql : String)
    (vs : List Value) : s.count = .ok n ∧ (s.writing sql vs).Counts rest := by
  constructor
  · have hfirst : s.counts.headD (.ok 1) = .ok n := h 0 n rfl
    unfold count
    rw [hfirst]
    rfl
  · intro k m hm
    show (s.counts.tail.drop k).headD (.ok 1) = .ok m
    rw [List.drop_tail]
    exact h (k + 1) m hm

/-- A queue that starts with some counts answers the next writes with them. -/
theorem counts_of_queue {r : List (Reply Nat)} (h : s.counts = counts.map .ok ++ r) :
    s.Counts counts := by
  intro k n hn
  -- the index lies within the queue
  have hk : k < (counts.map (Except.ok : Nat → Reply Nat)).length := by
    rw [List.length_map]
    exact (List.getElem?_eq_some_iff.mp hn).1
  rw [List.headD_eq_head?_getD, List.head?_drop, h, List.getElem?_append_left hk,
    List.getElem?_map, hn]
  rfl

/-- If all writes are answered, all are sent. -/
theorem writeAll_answered (hlength : counts.length = sts.length) (h : s.Counts counts) :
    s.writeAll sts = (.ok counts.sum, s.writingAll sts) := by
  -- on the writes; the counts behind the first answer the rest in the session it leaves
  induction sts generalizing s counts with
  | nil =>
    obtain rfl := List.length_eq_zero_iff.mp hlength
    unfold writeAll writingAll
    simp
  | cons st rest ih =>
    obtain ⟨n, more, rfl⟩ := List.exists_cons_of_length_eq_add_one hlength
    obtain ⟨hcount, hmore⟩ := h.head st.sql st.values
    unfold writeAll
    rw [hcount]
    simp only [ih (Nat.succ.inj hlength) hmore, writingAll_cons]
    rfl

/-- A write that fails is the last that is sent. -/
theorem writeAll_failed {reason : String} (hlength : counts.length < sts.length)
    (h : s.Counts counts) (hfails : (s.counts.drop counts.length).headD (.ok 1) = .error reason) :
    s.writeAll sts = (.error (.execution reason), s.writingAll (sts.take (counts.length + 1))) := by
  induction sts generalizing s counts with
  | nil => exact absurd hlength (Nat.not_lt_zero _)
  | cons st rest ih =>
    -- the write that fails is this one, or a later one
    cases counts with
    | nil =>
      have hcount : s.count = .error (.execution reason) := by
        unfold count
        rw [show s.counts.headD (.ok 1) = .error reason from hfails]
        rfl
      unfold writeAll writingAll
      rw [hcount]
      simp [writing]
    | cons n more =>
      obtain ⟨hcount, hmore⟩ := h.head st.sql st.values
      have hrest : ((s.writing st.sql st.values).counts.drop more.length).headD (.ok 1) =
          .error reason := by
        show (s.counts.tail.drop more.length).headD (.ok 1) = .error reason
        rw [List.drop_tail]
        exact hfails
      unfold writeAll
      rw [hcount]
      simp only [ih (Nat.lt_of_succ_lt_succ hlength) hmore hrest, writingAll_cons]
      rfl

end Session

/-! ## Pieces of a grid -/

/-- A grid is cut into pieces of so many rows at most, and of one row at least. All of them stand
under its columns, and one after another they hold its rows and bind its values. -/
structure Grid.CutInto (g : Grid) (size : Nat) (pieces : List Grid) : Prop where
  number : pieces.length = windowCount g.rows.length size
  columns : ∀ piece ∈ pieces, piece.columns = g.columns
  sizes : ∀ piece ∈ pieces, 1 ≤ piece.rows.length ∧ piece.rows.length ≤ size
  rows : pieces.flatMap Grid.rows = g.rows
  values : pieces.flatMap Grid.values = g.values

section Pieces

variable {rows batch : List Assignments} {columns : List String}

/-- Rows with the same columns stand under these, whichever of them is the first. -/
theorem gridOf_eq (hrows : ∀ row ∈ rows, row.columns = columns) (hempty : rows ≠ []) :
    gridOf rows = ⟨columns, rows.map (cells columns)⟩ := by
  obtain ⟨first, rest, rfl⟩ := List.exists_cons_of_ne_nil hempty
  have hcolumns : insertColumns (first :: rest) = columns := hrows first List.mem_cons_self
  unfold gridOf
  rw [hcolumns]

/-- Rows with the same columns are cut into the grids of their batches. -/
theorem gridOf_cutInto_batches (hrows : ∀ row ∈ rows, row.columns = columns) (size : Nat) :
    (gridOf rows).CutInto (Nat.max size 1) ((Query.batches size rows).map gridOf) := by
  -- each batch has its own first row, with the columns of them all
  have hgrid : ∀ batch ∈ Query.batches size rows, gridOf batch =
      ⟨columns, batch.map (cells columns)⟩ := by
    intro batch hbatch
    refine gridOf_eq (fun row hrow => hrows row ?_)
      (List.length_pos_iff.mp (length_of_mem_batches hbatch).1)
    rw [← flatten_batches size rows]
    exact List.mem_flatten_of_mem hbatch hrow
  have hwhole : (gridOf rows).rows = rows.map (cells columns) := by
    by_cases hempty : rows = []
    · subst hempty
      rfl
    · rw [gridOf_eq hrows hempty]
  have hpieces : ((Query.batches size rows).map gridOf).flatMap Grid.rows = (gridOf rows).rows := by
    calc ((Query.batches size rows).map gridOf).flatMap Grid.rows
        = (Query.batches size rows).flatMap fun batch => (gridOf batch).rows := List.flatMap_map ..
      _ = (Query.batches size rows).flatMap (List.map (cells columns)) := by
          rw [List.flatMap_def, List.flatMap_def]
          congr 1
          exact List.map_congr_left fun batch hbatch => by rw [hgrid batch hbatch]
      _ = (gridOf rows).rows := by
          rw [List.flatMap_def, ← List.map_flatten, flatten_batches, hwhole]
  constructor
  case number =>
    have hlength : (gridOf rows).rows.length = rows.length := List.length_map _
    rw [List.length_map, batches_eq_windows, List.length_map, List.length_range, hlength]
  case columns =>
    intro piece hpiece
    obtain ⟨batch, hbatch, rfl⟩ := List.mem_map.mp hpiece
    have hempty : rows ≠ [] := by
      rintro rfl
      exact absurd hbatch List.not_mem_nil
    rw [hgrid batch hbatch, gridOf_eq hrows hempty]
  case sizes =>
    intro piece hpiece
    obtain ⟨batch, hbatch, rfl⟩ := List.mem_map.mp hpiece
    have hlength : (gridOf batch).rows.length = batch.length := List.length_map _
    rw [hlength]
    exact length_of_mem_batches hbatch
  case rows => exact hpieces
  case values =>
    unfold Grid.values
    rw [← hpieces, List.flatMap_assoc]

end Pieces

/-! ## Inserting -/

namespace Query

variable {q : Query} {table : String}

/-- A single insert of rows is one statement. -/
theorem insertMany_apply (hcan : q.CanInsert .strict) (htarget : q.target = .ok table)
    {rows : List Assignments} (hrows : rows ≠ []) (s : Session) :
    let inserted := InsertKind.strict.statement q.dialect table (gridOf rows)
    q.insertMany rows s = (s.count, s.writing inserted.sql inserted.values) := by
  obtain ⟨table', htable, hrun⟩ := insertAs_sends hrows hcan s
  obtain rfl := Except.ok.inj (htarget.symm.trans htable)
  exact hrun

/-- The batches are written one after another, and what they change is added up. -/
theorem foldlM_insertMany (hcan : q.CanInsert .strict) (htarget : q.target = .ok table)
    {batches : List (List Assignments)} (hfilled : ∀ batch ∈ batches, batch ≠ []) (total : Nat)
    (s : Session) :
    let written := s.writeAll
      (batches.map fun batch => InsertKind.strict.statement q.dialect table (gridOf batch))
    (batches.foldlM (fun total batch => do return total + (← q.insertMany batch)) total : Run Nat)
        s = (written.1.map (total + ·), written.2) := by
  induction batches generalizing total s with
  | nil => rfl
  | cons batch rest ih =>
    rw [List.forall_mem_cons] at hfilled
    have hrun := insertMany_apply hcan htarget hfilled.1 s
    rw [List.map_cons]
    unfold Session.writeAll
    -- the sum so far goes into the rest, or the rest does not happen
    cases hcount : s.count with
    | error why =>
      rw [hcount] at hrun
      exact bind_apply_error (bind_apply_error hrun)
    | ok n =>
      rw [hcount] at hrun
      have hstep : (do return total + (← q.insertMany batch) : Run Nat) s = (.ok (total + n), _) :=
        bind_apply_ok hrun
      rw [List.foldlM_cons, bind_apply_ok hstep, ih hfilled.2]
      dsimp only
      cases (Session.writeAll _ (rest.map _)).1 with
      | error why => rfl
      | ok m => exact congrArg (fun sum => (Except.ok sum, _)) (Nat.add_assoc total n m)

/-- Inserting in batches is writing the statements of the batches. -/
theorem insertBatches_apply (hcan : q.CanInsert .strict) (htarget : q.target = .ok table)
    (rows : List Assignments) (size : Nat) (s : Session) :
    q.insertBatches rows size s = s.writeAll (((batches size rows).map gridOf).map
      (InsertKind.strict.statement q.dialect table)) := by
  have hfilled : ∀ batch ∈ batches size rows, batch ≠ [] := fun batch hbatch =>
    List.length_pos_iff.mp (length_of_mem_batches hbatch).1
  have hrun := foldlM_insertMany hcan htarget hfilled 0 s
  rw [List.map_map]
  refine hrun.trans ?_
  rw [Function.comp_def]
  rcases s.writeAll _ with ⟨result, s'⟩
  cases result with
  | error why => rfl
  | ok n => exact congrArg (fun sum => (Except.ok sum, s')) (Nat.zero_add n)

/-- An insert of rows fails for the same reason whatever the rows are, and sends nothing. -/
theorem insertMany_fails (h : ¬ q.CanInsert .strict) :
    ∃ why, ∀ rows s, rows ≠ [] → q.insertMany rows s = (.error why, s) := by
  have hrun {rows : List Assignments} (hrows : rows ≠ []) :
      q.insertMany rows = Run.ofExcept (q.insertWith "insert" rows) >>= fun sql =>
        q.connection.update sql (insertValues rows) := if_neg (by simpa using hrows)
  -- no table to insert into, or no executor to send to
  cases htarget : q.target with
  | error why =>
    refine ⟨why, fun rows s hrows => ?_⟩
    rw [hrun hrows, insertWith_eq_grid, htarget]
    rfl
  | ok table =>
    have hdetached : q.connection.attached = false := by
      refine Bool.eq_false_iff.mpr fun hattached => h ⟨?_, trivial, hattached⟩
      unfold target at htarget
      cases hsource : q.source with
      | none =>
        rw [hsource] at htarget
        exact nomatch htarget
      | some source => rfl
    refine ⟨.noExecutor, fun rows s hrows => ?_⟩
    rw [hrun hrows, insertWith_grid htarget hrows]
    exact Connection.update_detached hdetached _ (insertValues rows) s

/-- If the first batch fails, nothing else happens. -/
theorem insertBatches_error {rows : List Assignments} (hrows : rows ≠ []) {why : Error}
    {s : Session} (hfails : ∀ rows, rows ≠ [] → q.insertMany rows s = (.error why, s))
    (size : Nat) : q.insertBatches rows size s = (.error why, s) := by
  unfold insertBatches
  cases hbatches : batches size rows with
  | nil =>
    have hflat := flatten_batches size rows
    rw [hbatches] at hflat
    exact absurd hflat.symm hrows
  | cons batch rest =>
    have hbatch : 1 ≤ batch.length :=
      (length_of_mem_batches (hbatches ▸ List.mem_cons_self : batch ∈ batches size rows)).1
    have hfirst := hfails batch (List.length_pos_iff.mp hbatch)
    rw [List.foldlM_cons]
    exact bind_apply_error (bind_apply_error hfirst)

end Query

/-- Rows with the same columns, inserted in batches of a size, for which zero counts as one. An
insert that cannot be made or sent fails in batches as it does at once, and nothing is sent.
Otherwise the statements are those of the pieces that the rows are cut into, where a single insert
of all rows has a single statement of the whole. If each of them is answered with a count, all are
sent and the result is their sum; if one fails, those up to it are sent, and its error is the
result. -/
theorem insert_batches_unobservable (q : Query) {rows : List Assignments} {columns : List String}
    (hrows : ∀ row ∈ rows, row.columns = columns) (size : Nat) :
    (¬ q.CanInsert .strict → rows ≠ [] → ∃ why, ∀ s,
      q.insertMany rows s = (.error why, s) ∧ q.insertBatches rows size s = (.error why, s)) ∧
    (q.CanInsert .strict →
      ∃ table pieces, q.target = .ok table ∧ (gridOf rows).CutInto (Nat.max size 1) pieces ∧
        let whole := InsertKind.strict.statement q.dialect table (gridOf rows)
        let statements := pieces.map (InsertKind.strict.statement q.dialect table)
        ∀ s : Session,
          (rows ≠ [] → q.insertMany rows s = (s.count, s.writing whole.sql whole.values)) ∧
          (∀ counts, counts.length = statements.length → s.Counts counts →
            q.insertBatches rows size s = (.ok counts.sum, s.writingAll statements)) ∧
          ∀ counts reason, counts.length < statements.length → s.Counts counts →
            (s.counts.drop counts.length).headD (.ok 1) = .error reason →
            q.insertBatches rows size s =
              (.error (.execution reason), s.writingAll
                (statements.take (counts.length + 1)))) := by
  refine ⟨fun hcannot hempty => ?_, fun hcan => ?_⟩
  · obtain ⟨why, hfails⟩ := Query.insertMany_fails hcannot
    exact ⟨why, fun s => ⟨hfails rows s hempty,
      Query.insertBatches_error hempty (fun rows hrows => hfails rows s hrows) size⟩⟩
  -- one table for all pieces: the statements differ in their grids alone
  obtain ⟨table, htarget⟩ := hcan.exists_target
  refine ⟨table, (Query.batches size rows).map gridOf, htarget, gridOf_cutInto_batches hrows size,
    fun s => ⟨?_, ?_, ?_⟩⟩
  · intro hempty
    exact Query.insertMany_apply hcan htarget hempty s
  · intro counts hlength hcounts
    rw [Query.insertBatches_apply hcan htarget]
    exact Session.writeAll_answered hlength hcounts
  · intro counts reason hlength hcounts hfails
    rw [Query.insertBatches_apply hcan htarget]
    exact Session.writeAll_failed hlength hcounts hfails

/-- Five users with a key and a name. -/
def fiveUsers : List Assignments :=
  [1, 2, 3, 4, 5].map fun id => .ofList [("name", .value (.text "n")), ("id", .value (.ofInt id))]

/-- Two users at a time are three statements; the second may find the table locked. -/
theorem insert_batches_unobservable_pairs :
    ∃ table pieces, (gridOf fiveUsers).CutInto 2 pieces ∧ pieces.length = 3 ∧
      let q := Query.table { attached := true } "users"
      let statements := pieces.map (InsertKind.strict.statement .mysql table)
      q.insertBatches fiveUsers 2 { counts := [.ok 2, .ok 2, .ok 1] } =
          (.ok 5, ({ counts := [.ok 2, .ok 2, .ok 1] } : Session).writingAll statements) ∧
        q.insertBatches fiveUsers 2 { counts := [.ok 2, .error "locked"] } =
          (.error (.execution "locked"),
            ({ counts := [.ok 2, .error "locked"] } : Session).writingAll (statements.take 2)) := by
  have hcan : (Query.table { attached := true } "users").CanInsert .strict := ⟨rfl, trivial, rfl⟩
  have hrows : ∀ row ∈ fiveUsers, row.columns = ["id", "name"] := by decide +kernel
  obtain ⟨table, pieces, -, hcut, hrun⟩ :=
    (insert_batches_unobservable (.table { attached := true } "users") hrows 2).2 hcan
  have hnumber : pieces.length = 3 := hcut.number
  have hlength : (pieces.map (InsertKind.strict.statement .mysql table)).length = 3 := by
    rw [List.length_map, hnumber]
  refine ⟨table, pieces, hcut, hnumber, ?_, ?_⟩
  · exact (hrun _).2.1 [2, 2, 1] hlength.symm (Session.counts_of_queue (r := []) rfl)
  · exact (hrun _).2.2 [2] "locked" (hlength ▸ by decide) (Session.counts_of_queue rfl) rfl

end QueryBuilder
