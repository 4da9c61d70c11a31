import QueryBuilder.Proofs.Itineraries

/-!
# Stopping a walk

A callback may decline or fail. A walk then ends with that call: the callback is not called again,
and nothing more is sent, not even for the rest of the window. Up to there the walk is the same as
one whose callback goes on.

- `Query.pages`, `Query.cursorPages`: the itineraries of the walks by row number and by cursor.
- `windowsShown`, `rowsShown`: what a callback is shown, window by window and row by row.
- `Visitor.follow_cases`: the first call to which a callback does not say `true` is its last.
- `StopsPromptly`: what that makes of the runs of a walk. `Itinerary.Governs`: the same for the
  reads of an itinerary, where a read that fails is the last.
- `stopping_is_prompt`: all four walks.
-/

namespace QueryBuilder

/-! ## The walks of a query -/

namespace Query

variable {α : Type}

/-- Windows by row number. Behind a full window there may be another. -/
def pages (q : Query) (size : Nat) : Itinerary Nat where
  read number := (q.page number size).fetch
  next number rows := .ok (if rows.length = size then some (number + 1) else none)

/-- Windows by cursor: a place is the number of a window and the value to go on from. -/
def cursorPages (q : Query) (size : Nat) (column : String) : Itinerary (Nat × Option Value) where
  read place := Run.ofExcept (q.pageAfter size place.2 column) >>= fetch
  next place rows :=
    match cursorOf (Column.resultField column) rows with
    | none => .error (.missingCursor (Column.resultField column))
    | some v => .ok (if rows.length = size then some (place.1 + 1, some v) else none)

/-- The windows by row number are the walk along `pages`. -/
theorem windows_eq_walk (q : Query) (size : Nat) (visit : Nat → List Record → Walk α Bool)
    (bound number : Nat) :
    q.windows size visit bound number = (q.pages size).walk visit bound number := by
  -- on the bound, for every window to begin with
  induction bound generalizing number with
  | zero => rfl
  | succ bound ih =>
    rw [windows, Itinerary.walk]
    refine bind_congr fun rows => ?_
    split
    · rfl
    · refine bind_congr fun goOn => ?_
      split
      · by_cases hfull : rows.length = size
        · simp only [pages, if_pos hfull]
          exact ih (number + 1)
        · simp only [pages, if_neg hfull]
      · rfl

/-- The windows by cursor are the walk along `cursorPages`. -/
theorem cursorWindows_eq_walk (q : Query) (size : Nat) (column : String)
    (visit : Nat → List Record → Walk α Bool) (bound number : Nat) (last : Option Value) :
    q.cursorWindows size column visit bound number last =
      (q.cursorPages size column).walk (fun place rows => visit place.1 rows) bound
        (number, last) := by
  induction bound generalizing number last with
  | zero => rfl
  | succ bound ih =>
    rw [cursorWindows, Itinerary.walk]
    -- the condition of the window is checked inside of the walk, and inside of the read
    have hread : ((q.cursorPages size column).read (number, last)).toWalk =
        (Run.ofExcept (q.pageAfter size last column)).toWalk >>= fun window =>
          (window.fetch.toWalk : Walk α _) :=
      Run.toWalk_bind _ _
    rw [hread, bind_assoc]
    refine bind_congr fun window => bind_congr fun rows => ?_
    split
    · rfl
    · refine bind_congr fun goOn => ?_
      split
      · cases hseen : cursorOf (Column.resultField column) rows with
        | none => simp only [cursorPages, hseen]
        | some v =>
          by_cases hfull : rows.length = size
          · simp only [cursorPages, hseen, if_pos hfull]
            exact ih (number + 1) (some v)
          · simp only [cursorPages, hseen, if_neg hfull]
      · rfl

end Query

/-! ## What a callback is shown -/

section Shown

variable {σ : Type}

/-- A window is one call, with its number. -/
def windowsShown (numberOf : σ → Nat) : Showing σ (Nat × List Record) :=
  fun place _ rows => [(numberOf place, rows)]

/-- Every row is a call; their indices go on from the number of calls before. -/
def rowsShown : Showing σ (Nat × Record) :=
  fun _ calls rows => rows.mapIdx fun i row => (i + calls, row)

/-- A callback for windows is shown windows. -/
theorem shows_windows (numberOf : σ → Nat) :
    Itinerary.Shows (fun visitor place rows => visitor.call (numberOf place, rows))
      (windowsShown numberOf) := by
  intro visitor place rows s calls _
  show visitor.call (numberOf place, rows) ⟨s, calls⟩ =
    (visitor.call (numberOf place, rows) >>= fun goOn =>
      if goOn then visitor.showAll [] else pure false) ⟨s, calls⟩
  rw [← bind_pure (visitor.call (numberOf place, rows)), bind_assoc]
  refine bind_apply_congr fun goOn tour _ => ?_
  cases goOn <;> rfl

/-- Visiting the rows of a window shows them, with indices that go on from the calls before. -/
theorem visitRows_eq_showAll (visitor : Visitor (Nat × Record)) (rows : List Record) (s : Session)
    (calls : List (Nat × Record)) :
    Query.visitRows visitor rows ⟨s, calls⟩ =
      visitor.showAll (rows.mapIdx fun i row => (i + calls.length, row)) ⟨s, calls⟩ := by
  induction rows generalizing calls with
  | nil => rfl
  | cons row rest ih =>
    have hlater : (fun (i : Nat) (later : Record) => (i + 1 + calls.length, later)) =
        fun i later => (i + (calls ++ [(calls.length, row)]).length, later) := by
      funext i later
      rw [List.length_append, List.length_singleton, Nat.add_assoc, Nat.add_comm 1]
    rw [List.mapIdx_cons, Nat.zero_add, hlater]
    show (visitor.call (calls.length, row) >>= fun goOn =>
      if goOn then Query.visitRows visitor rest else pure false) ⟨s, calls⟩ =
        (visitor.call (calls.length, row) >>= fun goOn =>
          if goOn then visitor.showAll _ else pure false) ⟨s, calls⟩
    refine bind_apply_congr fun goOn tour htour => ?_
    -- the call is noted, so the next row has the next index
    obtain ⟨-, rfl⟩ := Prod.mk.inj ((Visitor.call_apply visitor _ s calls).symm.trans htour)
    cases goOn with
    | false => rfl
    | true => exact ih _

theorem shows_rows :
    Itinerary.Shows (fun visitor (_ : σ) rows => Query.visitRows visitor rows) rowsShown :=
  fun visitor _ rows s calls _ => visitRows_eq_showAll visitor rows s calls

end Shown

/-! ## The last call -/

section LastCall

variable {α : Type}

/-- A callback either says `true` to every call, and then it has no part in how a walk ends; or the
first call to which it does not say `true` is the last, in whose session the walk ends with what the
callback said. -/
theorem Visitor.follow_cases (visitor : Visitor α) (result : Except Error Bool) (s : Session)
    (stops : List (Session × α)) (calls : List α) :
    ((∀ k session x, stops[k]? = some (session, x) → visitor (calls.length + k + 1) x = .ok true) ∧
      visitor.follow result s stops calls = (result, ⟨s, calls ++ stops.map Prod.snd⟩)) ∨
    ∃ k session x, stops[k]? = some (session, x) ∧ visitor (calls.length + k + 1) x ≠ .ok true ∧
      (∀ j < k, ∀ earlier y, stops[j]? = some (earlier, y) →
        visitor (calls.length + j + 1) y = .ok true) ∧
      visitor.follow result s stops calls = (visitor (calls.length + k + 1) x,
        ⟨session, calls ++ (stops.take (k + 1)).map Prod.snd⟩) := by
  -- on the calls to come, for every list of calls that have been made
  induction stops generalizing calls with
  | nil =>
    refine .inl ⟨fun k session x hstop => by simp at hstop, ?_⟩
    rw [List.map_nil, List.append_nil]
    rfl
  | cons stop stops ih =>
    obtain ⟨session, x⟩ := stop
    have hcount : ∀ k, (calls ++ [x]).length + k + 1 = calls.length + (k + 1) + 1 := by
      intro k
      rw [List.length_append, List.length_singleton]
      omega
    -- the first call decides, or it says `true` and the rest decides
    by_cases hyes : visitor (calls.length + 1) x = .ok true
    · rw [Visitor.follow_goOn hyes]
      obtain ⟨hall, hend⟩ | ⟨k, session', y, hstop, hnot, hbefore, hend⟩ := ih (calls ++ [x])
      · refine .inl ⟨fun k session' y hstop => ?_, ?_⟩
        · cases k with
          | zero =>
            obtain ⟨-, rfl⟩ := Prod.mk.inj (Option.some.inj hstop)
            exact hyes
          | succ k =>
            rw [← hcount k]
            exact hall k session' y hstop
        · rw [hend, List.append_assoc]
          rfl
      · refine .inr ⟨k + 1, session', y, hstop, ?_, fun j hj earlier z hearlier => ?_, ?_⟩
        · rw [← hcount k]
          exact hnot
        · cases j with
          | zero =>
            obtain ⟨-, rfl⟩ := Prod.mk.inj (Option.some.inj hearlier)
            exact hyes
          | succ j =>
            rw [← hcount j]
            exact hbefore j (Nat.lt_of_succ_lt_succ hj) earlier z hearlier
        · rw [hend, hcount k, List.append_assoc]
          rfl
    · -- this is the call, and none came before it
      exact .inr ⟨0, session, x, rfl, hyes, by simp,
        Visitor.follow_stop hyes result s session stops⟩

/-- How the runs of a walk end, by its callback. `stops` are the calls that the walk makes if its
callback goes on, each with the session in which it is made; `result` and `s'` are what it then ends
with. -/
structure StopsPromptly (run : Visitor α → Except Error Bool × Tour α) (stops : List (Session × α))
    (result : Except Error Bool) (s' : Session) : Prop where
  /-- A callback that always goes on. -/
  goesOn : run (fun _ _ => .ok true) = (result, ⟨s', stops.map Prod.snd⟩)
  /-- No callback sees or sends anything else. -/
  calls : ∀ visitor, (run visitor).2.calls <+: stops.map Prod.snd
  sent : ∀ visitor, (run visitor).2.session.sent <+: s'.sent
  /-- A callback that does not say `true` to a call: the walk ends in the session of the call, with
  what the callback said, and that call was the last. -/
  stopped : ∀ visitor k x, (run visitor).2.calls[k]? = some x → visitor (k + 1) x ≠ .ok true →
    ∃ session, stops[k]? = some (session, x) ∧
      run visitor = (visitor (k + 1) x, ⟨session, (stops.take (k + 1)).map Prod.snd⟩)
  /-- A callback that says `true` to every call is no different from one that always would. -/
  untouched : ∀ visitor,
    (∀ k x, (run visitor).2.calls[k]? = some x → visitor (k + 1) x = .ok true) →
    run visitor = (result, ⟨s', stops.map Prod.snd⟩)
  /-- The answer is `true` only if the callback said so to every call. -/
  finished : ∀ visitor, (run visitor).1 = .ok true →
    ∀ k x, (run visitor).2.calls[k]? = some x → visitor (k + 1) x = .ok true

theorem exists_stop {stops : List (Session × α)} {k : Nat} {x : α}
    (h : (stops.map Prod.snd)[k]? = some x) : ∃ session, stops[k]? = some (session, x) := by
  rw [List.getElem?_map] at h
  obtain ⟨⟨session, y⟩, hstop, rfl⟩ := Option.map_eq_some_iff.mp h
  exact ⟨session, hstop⟩

/-- A call among the first few of a walk is one of the walk. -/
theorem exists_stop_take {stops : List (Session × α)} {n k : Nat} {x : α}
    (h : ((stops.take n).map Prod.snd)[k]? = some x) :
    k < n ∧ ∃ session, stops[k]? = some (session, x) := by
  obtain ⟨session, hstop⟩ := exists_stop h
  rw [List.getElem?_take] at hstop
  split at hstop
  · exact ⟨‹k < n›, session, hstop⟩
  · cases hstop

/-- A callback that follows the calls of a walk stops it promptly. -/
theorem stopsPromptly_follow {run : Visitor α → Except Error Bool × Tour α}
    {stops : List (Session × α)} {result : Except Error Bool} {s' : Session}
    (hrun : ∀ visitor, run visitor = visitor.follow result s' stops [])
    (hsent : ∀ stop ∈ stops, stop.1.sent <+: s'.sent) : StopsPromptly run stops result s' := by
  have hrun' : ∀ visitor, (∀ k session x, stops[k]? = some (session, x) →
      visitor (k + 1) x = .ok true) ∧
        run visitor = (result, ⟨s', stops.map Prod.snd⟩) ∨
      ∃ k session x, stops[k]? = some (session, x) ∧ visitor (k + 1) x ≠ .ok true ∧
        (∀ j < k, ∀ earlier y, stops[j]? = some (earlier, y) → visitor (j + 1) y = .ok true) ∧
        run visitor = (visitor (k + 1) x, ⟨session, (stops.take (k + 1)).map Prod.snd⟩) := by
    intro visitor
    rw [hrun visitor]
    simpa using visitor.follow_cases result s' stops []
  -- the fields of `StopsPromptly` in turn, each by the two ways in which a walk ends
  refine ⟨?_, fun visitor => ?_, fun visitor => ?_, fun visitor k x hx hnot => ?_,
    fun visitor hyes => ?_, fun visitor htrue k x hx => ?_⟩
  · obtain ⟨-, hend⟩ | ⟨k, session, x, -, hnot, -⟩ := hrun' fun _ _ => .ok true
    · exact hend
    · exact absurd rfl hnot
  · obtain ⟨-, hend⟩ | ⟨k, session, x, -, -, -, hend⟩ := hrun' visitor
    · exact ⟨[], by rw [hend, List.append_nil]⟩
    · rw [hend]
      exact (List.take_prefix _ _).map Prod.snd
  · obtain ⟨-, hend⟩ | ⟨k, session, x, hstop, -, -, hend⟩ := hrun' visitor
    · exact ⟨[], by rw [hend, List.append_nil]⟩
    · rw [hend]
      exact hsent _ (List.mem_of_getElem? hstop)
  · obtain ⟨hall, hend⟩ | ⟨last, session, y, hstop, -, hbefore, hend⟩ := hrun' visitor
    · rw [hend] at hx
      obtain ⟨session, hstop⟩ := exists_stop hx
      exact absurd (hall k session x hstop) hnot
    · rw [hend] at hx
      obtain ⟨hlater, earlier, hearlier⟩ := exists_stop_take hx
      -- the call declined is the last: every earlier one was said `true` to
      obtain hless | rfl := Nat.lt_or_eq_of_le (Nat.le_of_lt_succ hlater)
      · exact absurd (hbefore k hless earlier x hearlier) hnot
      · obtain ⟨rfl, rfl⟩ := Prod.mk.inj (Option.some.inj (hstop.symm.trans hearlier))
        exact ⟨session, hstop, hend⟩
  · obtain ⟨-, hend⟩ | ⟨last, session, y, hstop, hnot, -, hend⟩ := hrun' visitor
    · exact hend
    · have hmade : (run visitor).2.calls[last]? = some y := by
        rw [hend, List.getElem?_map, List.getElem?_take, if_pos (Nat.lt_succ_self last), hstop]
        rfl
      exact absurd (hyes last y hmade) hnot
  · obtain ⟨hall, hend⟩ | ⟨last, session, y, -, hnot, -, hend⟩ := hrun' visitor
    · rw [hend] at hx
      obtain ⟨session, hstop⟩ := exists_stop hx
      exact hall k session x hstop
    · rw [hend] at htrue
      exact absurd htrue hnot

end LastCall

/-! ## Walks over windows -/

namespace Itinerary

variable {σ α : Type} {w : Itinerary σ} {place : σ} {s s' : Session} {reads : List (WindowRead σ)}
  {result : Except Error Bool}

/-- The calls of some reads and those of later ones, whose numbers go on. -/
theorem stopsOf_append (shown : Showing σ α) (before after : List (WindowRead σ)) (calls : Nat) :
    stopsOf shown calls (before ++ after) = stopsOf shown calls before ++
      stopsOf shown (calls + (stopsOf shown calls before).length) after := by
  induction before generalizing calls with
  | nil => rfl
  | cons read before ih =>
    rw [List.cons_append, stopsOf, stopsOf, ih, List.append_assoc, List.length_append,
      Nat.add_assoc]

/-- A read that failed gives rise to no call. -/
theorem stopsOf_failed (shown : Showing σ α) (before : List (WindowRead σ)) {read : WindowRead σ}
    {why : Error} (hfailed : read.answer = .error why) :
    stopsOf shown 0 (before ++ [read]) = stopsOf shown 0 before := by
  rw [stopsOf_append, stopsOf, WindowRead.stops, hfailed]
  exact List.append_nil _

/-- Nothing that was sent when a call is made is taken back. -/
theorem Reads.sent (h : w.Reads place s reads result s')
    (happends : ∀ place, (w.read place).Appends) :
    s.sent <+: s'.sent ∧ ∀ read ∈ reads, read.session.sent <+: s'.sent := by
  -- on the reads, from the last one back: what one read adds stands in front of the rest
  induction h with
  | @last place s s' answer result hread hend =>
    have hsent := happends place s
    rw [hread] at hsent
    refine ⟨hsent, fun read hmem => ?_⟩
    exact ⟨[], by rw [List.mem_singleton.mp hmem, List.append_nil]⟩
  | @more place place' s s' s'' answer reads result hread hnext hrest ih =>
    have hsent := happends place s
    rw [hread] at hsent
    refine ⟨hsent.trans ih.1, fun read hmem => ?_⟩
    obtain rfl | hlater := List.mem_cons.mp hmem
    · exact ih.1
    · exact ih.2 read hlater

/-- Every call is made in the session that one of the reads ended in. -/
theorem session_of_mem_stopsOf {shown : Showing σ α} {reads : List (WindowRead σ)} {calls : Nat}
    {stop : Session × α} (h : stop ∈ stopsOf shown calls reads) :
    ∃ read ∈ reads, read.session = stop.1 := by
  induction reads generalizing calls with
  | nil => cases h
  | cons read reads ih =>
    rw [stopsOf] at h
    obtain hhere | hlater := List.mem_append.mp h
    · refine ⟨read, List.mem_cons_self, ?_⟩
      unfold WindowRead.stops at hhere
      split at hhere
      · cases hhere
      · cases hhere
      · obtain ⟨x, -, rfl⟩ := List.mem_map.mp hhere
        rfl
    · obtain ⟨other, hmem, hsession⟩ := ih hlater
      exact ⟨other, List.mem_cons_of_mem read hmem, hsession⟩

/-- The runs of a walk along an itinerary: there are the reads that the walk makes while nothing
stops it. A callback stops it promptly; and if a read fails, no call is made for that window,
nothing is read behind it, and its failure is the answer. -/
def Governs (w : Itinerary σ) (start : σ) (shown : Showing σ α) (s : Session)
    (run : Visitor α → Except Error Bool × Tour α) : Prop :=
  ∃ reads result s', w.Reads start s reads result s' ∧
    StopsPromptly run (stopsOf shown 0 reads) result s' ∧
    ∀ before read after why, reads = before ++ read :: after → read.answer = .error why →
      after = [] ∧ result = .error why ∧ s' = read.session ∧
        stopsOf shown 0 reads = stopsOf shown 0 before

/-- Walks whose runs are those of an itinerary are governed by it. -/
theorem governs (hconsumes : w.Consumes) (happends : ∀ place, (w.read place).Appends)
    {visit : Visitor α → σ → List Record → Walk α Bool} {shown : Showing σ α}
    (hshows : Shows visit shown) (start : σ) (s : Session)
    {run : Visitor α → Except Error Bool × Tour α}
    (hrun : ∀ visitor, run visitor = w.walk (visit visitor) (s.rows.length + 1) start ⟨s, []⟩) :
    w.Governs start shown s run := by
  -- the bound of the walk is larger than the number of reads, so it never ends the walk
  obtain ⟨reads, result, s', hreads, hbound⟩ := exists_reads hconsumes start s
  refine ⟨reads, result, s', hreads, ?_, fun before read after why hsplit hfailed => ?_⟩
  · refine stopsPromptly_follow (fun visitor => ?_) fun stop hmem => ?_
    · rw [hrun visitor]
      exact walk_of_reads hreads hshows visitor _ hbound []
    · obtain ⟨read, hread, hsession⟩ := session_of_mem_stopsOf hmem
      exact hsession ▸ (hreads.sent happends).2 read hread
  · obtain ⟨hlast, hresult, hsession⟩ := hreads.failed hsplit hfailed
    subst hlast
    rw [hsplit]
    exact ⟨rfl, hresult, hsession, stopsOf_failed shown before hfailed⟩

end Itinerary

namespace Query

variable (q : Query) (s : Session)

theorem consumes_pages (size : Nat) : (q.pages size).Consumes :=
  fun _ _ _ _ hread hrows => fetch_consumes hread hrows

theorem appends_pages (size number : Nat) : ((q.pages size).read number).Appends :=
  Session.kept_sent.fetch _

/-- A window by cursor uses up an answer too, unless its condition is refused, and then it gives
no rows. -/
theorem consumes_cursorPages (size : Nat) (column : String) :
    (q.cursorPages size column).Consumes := by
  intro place s s' rows hread hrows
  cases hmade : q.pageAfter size place.2 column with
  | error why =>
    have hnone : (Run.ofExcept (q.pageAfter size place.2 column)) s = (.error why, s) := by
      rw [hmade]
      rfl
    have hfailed := (bind_apply_error (f := fetch) hnone).symm.trans hread
    cases hfailed
  | ok window =>
    have hwindow : (Run.ofExcept (q.pageAfter size place.2 column)) s = (.ok window, s) := by
      rw [hmade]
      rfl
    have hfetch : window.fetch s = (.ok rows, s') :=
      (bind_apply_ok (f := fetch) hwindow).symm.trans hread
    exact fetch_consumes hfetch hrows

theorem appends_cursorPages (size : Nat) (column : String) (place : Nat × Option Value) :
    ((q.cursorPages size column).read place).Appends :=
  Session.kept_sent.bind (Session.kept_sent.ofExcept _) fun window => Session.kept_sent.fetch window

/-- A walk by row number, if there is an order to number the rows by. -/
theorem walk_ordered {α : Type} (horders : q.tail.orders ≠ [] ∨ q.unionTail.orders ≠ [])
    (size : Nat) (visit : Nat → List Record → Walk α Bool) :
    q.walk size visit ⟨s, []⟩ =
      (q.pages (Nat.max size 1)).walk visit (s.rows.length + 1) 1 ⟨s, []⟩ := by
  have hordered : (q.tail.orders.isEmpty && q.unionTail.orders.isEmpty) = false := by
    simpa [← Decidable.not_and_iff_not_or_not] using horders
  have hbound : (windowBound : Walk α Nat) ⟨s, []⟩ = (.ok (s.rows.length + 1), ⟨s, []⟩) := rfl
  unfold walk
  rw [hordered, if_neg Bool.false_ne_true, bind_apply_ok hbound, windows_eq_walk]

/-- The itinerary of a walk by row number begins at the first window. -/
theorem walk_governed {α : Type} (horders : q.tail.orders ≠ [] ∨ q.unionTail.orders ≠ [])
    (size : Nat) {visit : Visitor α → Nat → List Record → Walk α Bool} {shown : Showing Nat α}
    (hshows : Itinerary.Shows visit shown) :
    (q.pages (Nat.max size 1)).Governs 1 shown s fun visitor =>
      q.walk size (visit visitor) ⟨s, []⟩ :=
  Itinerary.governs (q.consumes_pages _) (q.appends_pages _) hshows 1 s fun visitor =>
    q.walk_ordered s horders size (visit visitor)

/-- A walk by cursor. -/
theorem walkByCursor_governed {α : Type} (size : Nat) (column : Option String)
    {visit : Visitor α → Nat → List Record → Walk α Bool} {shown : Showing (Nat × Option Value) α}
    (hshows : Itinerary.Shows (fun visitor place => visit visitor place.1) shown) :
    (q.cursorPages (Nat.max size 1) (column.getD q.connection.config.primaryKey)).Governs
      (1, none) shown s fun visitor => q.walkByCursor size column (visit visitor) ⟨s, []⟩ := by
  refine Itinerary.governs (q.consumes_cursorPages _ _) (q.appends_cursorPages _ _) hshows
    (1, none) s fun visitor => ?_
  have hbound : (windowBound : Walk α Nat) ⟨s, []⟩ = (.ok (s.rows.length + 1), ⟨s, []⟩) := rfl
  unfold walkByCursor
  rw [bind_apply_ok hbound, cursorWindows_eq_walk]

end Query

/-- For every query, every executor and every callback: the walks by row number and by cursor,
window by window and row by row, stop promptly. Without any ordering, walks by row number make no
call and send nothing. -/
theorem stopping_is_prompt (q : Query) (s : Session) :
    (q.tail.orders ≠ [] ∨ q.unionTail.orders ≠ [] →
      (∀ size, (q.pages (Nat.max size 1)).Governs 1 (windowsShown id) s
        fun visitor => q.chunk size visitor ⟨s, []⟩) ∧
      (∀ size, (q.pages (Nat.max (size.getD q.connection.config.chunkSize) 1)).Governs 1 rowsShown s
        fun visitor => q.each size visitor ⟨s, []⟩)) ∧
    (q.tail.orders = [] → q.unionTail.orders = [] →
      (∀ size visitor, q.chunk size visitor ⟨s, []⟩ = (.error .orderRequired, ⟨s, []⟩)) ∧
      (∀ size visitor, q.each size visitor ⟨s, []⟩ = (.error .orderRequired, ⟨s, []⟩))) ∧
    (∀ size column,
      (q.cursorPages (Nat.max size 1) (column.getD q.connection.config.primaryKey)).Governs
        (1, none) (windowsShown Prod.fst) s
        fun visitor => q.chunkByCursor size column visitor ⟨s, []⟩) ∧
    (∀ size column,
      (q.cursorPages (Nat.max (size.getD q.connection.config.chunkSize) 1)
        (column.getD q.connection.config.primaryKey)).Governs (1, none) rowsShown s
        fun visitor => q.eachByCursor size column visitor ⟨s, []⟩) := by
  refine ⟨fun horders => ⟨fun size => ?_, fun size => ?_⟩, fun horders hunion =>
    ⟨fun size visitor => ?_, fun size visitor => ?_⟩, fun size column => ?_, fun size column => ?_⟩
  · exact q.walk_governed s horders size (shows_windows id)
  · exact q.walk_governed s horders (size.getD q.connection.config.chunkSize) shows_rows
  · exact Query.walk_unordered horders hunion size _ s
  · exact Query.walk_unordered horders hunion _ _ s
  · exact q.walkByCursor_governed s size column (shows_windows Prod.fst)
  · exact q.walkByCursor_governed s (size.getD q.connection.config.chunkSize) column shows_rows

/-- An executor that gives three users two by two. -/
def answeringThree : Session :=
  { rows := [.ok (threeUsers.take 2), .ok (threeUsers.drop 2)] }

/-- A callback that declines the first of two windows, and one that fails at the third of three
rows. -/
theorem stopping_is_prompt_three :
    (∃ session, orderedUsers.chunk 2 (fun _ _ => .ok false) ⟨answeringThree, []⟩ =
      (.ok false, ⟨session, [(1, threeUsers.take 2)]⟩) ∧ session.sent.length = 1) ∧
    (∃ session, orderedUsers.each (some 2)
        (fun n _ => if n = 3 then .error (.execution "full") else .ok true) ⟨answeringThree, []⟩ =
      (.error (.execution "full"), ⟨session, threeUsers.mapIdx Prod.mk⟩) ∧
        session.sent.length = 2) ∧
    orderedUsers.reorder.chunk 2 (fun _ _ => .ok true) ⟨answeringThree, []⟩ =
      (.error .orderRequired, ⟨answeringThree, []⟩) := by
  have horders : orderedUsers.tail.orders ≠ [] := List.cons_ne_nil _ _
  have hwalks := (stopping_is_prompt orderedUsers answeringThree).1 (.inl horders)
  refine ⟨?_, ?_, ?_⟩
  · obtain ⟨_, _, _, -, hstops, -⟩ := hwalks.1 2
    obtain ⟨session, -, hrun⟩ := hstops.stopped (fun _ _ => .ok false) 0 (1, threeUsers.take 2) rfl
      (by simp)
    have hcalls : (orderedUsers.chunk 2 (fun _ _ => .ok false) ⟨answeringThree, []⟩).2.calls =
        [(1, threeUsers.take 2)] := rfl
    have hsent : (orderedUsers.chunk 2 (fun _ _ => .ok false)
        ⟨answeringThree, []⟩).2.session.sent.length = 1 := rfl
    rw [hrun] at hcalls hsent
    exact ⟨session, hrun.trans (Prod.ext rfl (congrArg (Tour.mk session) hcalls)), hsent⟩
  · obtain ⟨_, _, _, -, hstops, -⟩ := hwalks.2 (some 2)
    obtain ⟨session, -, hrun⟩ := hstops.stopped
      (fun n _ => if n = 3 then .error (.execution "full") else .ok true) 2
        (2, [("id", .ofInt 3)]) rfl (by simp)
    have hcalls : (orderedUsers.each (some 2)
        (fun n _ => if n = 3 then .error (.execution "full") else .ok true)
        ⟨answeringThree, []⟩).2.calls = threeUsers.mapIdx Prod.mk := rfl
    have hsent : (orderedUsers.each (some 2)
        (fun n _ => if n = 3 then .error (.execution "full") else .ok true)
        ⟨answeringThree, []⟩).2.session.sent.length = 2 := rfl
    rw [hrun] at hcalls hsent
    exact ⟨session, hrun.trans (Prod.ext rfl (congrArg (Tour.mk session) hcalls)), hsent⟩
  · exact ((stopping_is_prompt orderedUsers.reorder answeringThree).2.1 rfl rfl).1 2 _

end QueryBuilder
