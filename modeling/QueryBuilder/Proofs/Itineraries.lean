import QueryBuilder.Proofs.EagerLoading
import QueryBuilder.Proofs.Windows

/-!
# Itineraries of walks

Walks by row number and walks by cursor differ in how they read the window at a place, and in which
place they go on to. What both do with that is one loop. While nothing stops it the loop depends on
the session alone: it reads window after window, and its last read decides how it ends.

- `Itinerary`: how windows are read and where a walk goes on. `Itinerary.walk`: the loop over them.
- `Itinerary.Reads`: the reads of a walk that nothing stops, each with what came back and the
  session that it left. `Itinerary.exists_reads`: there are such reads from every session.
- `Query.fetch_consumes`: a window that holds rows has used up an answer, so the bound on a walk is
  no bound.
- `stopsOf`: the calls that reads give rise to. `Visitor.follow`: the calls that a callback lets
  happen.
- `Itinerary.walk_of_reads`: a walk with any callback is the callback following the calls of the
  reads.
-/

namespace QueryBuilder

/-! ## Answers are used up -/

/-- Rows that do not exist have no relations to load. -/
theorem loads_of_no_rows (fetch : Query → Run (List Record)) (c : Connection)
    (loads : List (String × Relation)) (s : Session) :
    (loads.foldlM (fun rows load => load.2.load fetch c load.1 rows) [] : Run _) s =
      (.ok [], s) := by
  induction loads with
  | nil => rfl
  | cons load loads ih =>
    -- no rows have no keys, so each relation sends nothing and leaves no rows
    rw [List.foldlM_cons, bind_apply_ok (load_of_no_keys fetch load.1 rfl)]
    exact ih

/-- A fetch that comes back with rows has used up an answer. -/
theorem Query.fetch_consumes {q : Query} {s s' : Session} {rows : List Record}
    (hfetch : q.fetch s = (.ok rows, s')) (hrows : rows ≠ []) : s'.rows.length < s.rows.length := by
  obtain ⟨depth, hwhole⟩ := q.fetch_eq
  rw [hwhole] at hfetch
  cases hattached : q.connection.attached with
  | false =>
    have hbase : q.fetchBase s = (.error .noExecutor, s) :=
      Connection.query_detached hattached _ _ s
    rw [bind_apply_error hbase] at hfetch
    cases hfetch
  | true =>
    have hbase : q.fetchBase s = (s.answer, s.sending q.sql q.values) :=
      Connection.query_attached hattached q.sql q.values s
    cases hanswer : s.answer with
    | error why =>
      rw [hanswer] at hbase
      rw [bind_apply_error hbase] at hfetch
      cases hfetch
    | ok found =>
      rw [hanswer] at hbase
      rw [bind_apply_ok hbase] at hfetch
      have hkept := Session.kept_rows.loads (Session.kept_rows.fetchWithin depth) q.connection
        q.eagerLoads found (s.sending q.sql q.values)
      rw [hfetch] at hkept
      have hsome : s.rows ≠ [] := by
        -- an empty queue answers with no rows, and no rows stay none
        intro hempty
        have hnone : found = [] := by
          unfold Session.answer at hanswer
          rw [hempty] at hanswer
          exact (Except.ok.inj hanswer).symm
        rw [hnone, loads_of_no_rows] at hfetch
        exact hrows (Except.ok.inj (congrArg Prod.fst hfetch)).symm
      have hlength : s'.rows.length ≤ s.rows.tail.length := hkept.length_le
      rw [List.length_tail] at hlength
      have hpositive := List.length_pos_iff.mpr hsome
      omega

/-! ## Itineraries -/

/-- A way through windows: how the window at a place is read, and the place behind a window, if
there is one. -/
structure Itinerary (σ : Type) where
  read : σ → Run (List Record)
  next : σ → List Record → Except Error (Option σ)

/-- A window that was asked for: its place, what came back, and the session that the read left. -/
structure WindowRead (σ : Type) where
  place : σ
  answer : Except Error (List Record)
  session : Session

namespace Itinerary

variable {σ α : Type}

/-- Reads windows from a place on and shows each of them. An empty window is the last. -/
def walk (w : Itinerary σ) (visit : σ → List Record → Walk α Bool) : Nat → σ → Walk α Bool
  | 0, _ => return true
  | bound + 1, place => do
    let rows ← (w.read place).toWalk
    if rows.isEmpty then return true
    else if ← visit place rows then
      match w.next place rows with
      | .error why => throw why
      | .ok none => return true
      | .ok (some place) => w.walk visit bound place
    else return false

/-- What follows a read while nothing stops the walk: its end, or another place. -/
def sequel (w : Itinerary σ) (place : σ) : Except Error (List Record) → Except Error Bool ⊕ σ
  | .error why => .inl (.error why)
  | .ok [] => .inl (.ok true)
  | .ok (row :: rows) =>
    match w.next place (row :: rows) with
    | .error why => .inl (.error why)
    | .ok none => .inl (.ok true)
    | .ok (some place) => .inr place

/-- The reads of a walk that nothing stops, from a place and a session on; its answer, and the
session that it leaves. -/
inductive Reads (w : Itinerary σ) :
    σ → Session → List (WindowRead σ) → Except Error Bool → Session → Prop
  | last {place : σ} {s s' : Session} {answer : Except Error (List Record)}
    {result : Except Error Bool}
      (hread : w.read place s = (answer, s')) (hend : w.sequel place answer = .inl result) :
      Reads w place s [⟨place, answer, s'⟩] result s'
  | more {place place' : σ} {s s' s'' : Session} {answer : Except Error (List Record)}
      {reads : List (WindowRead σ)} {result : Except Error Bool}
      (hread : w.read place s = (answer, s')) (hnext : w.sequel place answer = .inr place')
      (hrest : Reads w place' s' reads result s'') :
      Reads w place s (⟨place, answer, s'⟩ :: reads) result s''

/-- Every read that comes back with rows uses up an answer. -/
def Consumes (w : Itinerary σ) : Prop :=
  ∀ place s s' rows, w.read place s = (.ok rows, s') → rows ≠ [] → s'.rows.length < s.rows.length

variable {w : Itinerary σ} {place : σ} {s s' : Session} {reads : List (WindowRead σ)}
  {result : Except Error Bool}

/-- Where the walk goes on, the window held rows. -/
theorem rows_of_sequel {answer : Except Error (List Record)} {place' : σ}
    (h : w.sequel place answer = .inr place') : ∃ rows, answer = .ok rows ∧ rows ≠ [] := by
  cases answer with
  | error why => cases h
  | ok rows =>
    cases rows with
    | nil => cases h
    | cons row rows => exact ⟨row :: rows, rfl, List.cons_ne_nil row rows⟩

/-- Reads come to an end, because answers do: one more read than there are answers finds nothing. -/
theorem exists_reads (hconsumes : w.Consumes) (place : σ) (s : Session) :
    ∃ reads result s', w.Reads place s reads result s' ∧ reads.length ≤ s.rows.length + 1 := by
  -- on the number of answers left: a walk goes on only behind rows, which use one up
  induction hcount : s.rows.length using Nat.strongRecOn generalizing place s with
  | _ count ih =>
    rcases hread : w.read place s with ⟨answer, s'⟩
    cases hsequel : w.sequel place answer with
    | inl result => exact ⟨_, result, s', .last hread hsequel, Nat.le_add_left 1 count⟩
    | inr place' =>
      obtain ⟨rows, rfl, hrows⟩ := rows_of_sequel hsequel
      have hfewer := hconsumes place s s' rows hread hrows
      rw [hcount] at hfewer
      obtain ⟨reads, result, s'', hrest, hlength⟩ := ih _ hfewer place' s' rfl
      refine ⟨_, result, s'', .more hread hsequel hrest, ?_⟩
      rw [List.length_cons]
      omega

/-- A read that fails is the last, and its failure is the answer. -/
theorem Reads.failed (h : w.Reads place s reads result s') {before after : List (WindowRead σ)}
    {read : WindowRead σ} (hreads : reads = before ++ read :: after) {why : Error}
    (hfailed : read.answer = .error why) :
    after = [] ∧ result = .error why ∧ s' = read.session := by
  -- along the reads; the failed one is the first, or comes later
  induction h generalizing before with
  | last hread hend =>
    obtain ⟨rfl, hrest⟩ | ⟨_, rfl, hnone⟩ := List.cons_eq_append_iff.mp hreads
    · obtain ⟨rfl, rfl⟩ := List.cons.inj hrest
      obtain rfl := hfailed
      exact ⟨rfl, (Sum.inl.inj hend).symm, rfl⟩
    · exact absurd hnone.symm (by simp)
  | more hread hnext hrest ih =>
    obtain ⟨rfl, hrest⟩ | ⟨_, rfl, hlater⟩ := List.cons_eq_append_iff.mp hreads
    · -- the walk does not go on behind a failure
      obtain ⟨rfl, rfl⟩ := List.cons.inj hrest
      obtain rfl := hfailed
      cases hnext
    · exact ih hlater

end Itinerary

/-! ## Calls -/

section Calls

variable {σ α : Type}

/-- The things that a callback is to be shown of a read, when so many calls have been made
before. -/
abbrev Showing (σ α : Type) := σ → Nat → List Record → List α

/-- The calls that a read gives rise to, each with the session in which it is made: none if the read
failed or came back without rows. -/
def WindowRead.stops (shown : Showing σ α) (calls : Nat) (read : WindowRead σ) :
    List (Session × α) :=
  match read.answer with
  | .error _ => []
  | .ok [] => []
  | .ok (row :: rows) => (shown read.place calls (row :: rows)).map (Prod.mk read.session)

/-- The calls that reads give rise to, behind so many calls. -/
def stopsOf (shown : Showing σ α) : Nat → List (WindowRead σ) → List (Session × α)
  | _, [] => []
  | calls, read :: reads =>
    read.stops shown calls ++ stopsOf shown (calls + (read.stops shown calls).length) reads

/-- How a walk ends that is to make some calls, each in a session, before it comes to an answer: the
callback lets it happen, or breaks it off at the first call to which it does not say `true`. -/
def Visitor.follow (visitor : Visitor α) (result : Except Error Bool) (s : Session) :
    List (Session × α) → List α → Except Error Bool × Tour α
  | [], calls => (result, ⟨s, calls⟩)
  | (session, x) :: stops, calls =>
    match visitor (calls.length + 1) x with
    | .ok true => visitor.follow result s stops (calls ++ [x])
    | .ok false => (.ok false, ⟨session, calls ++ [x]⟩)
    | .error why => (.error why, ⟨session, calls ++ [x]⟩)

/-- Shows things one by one until the callback breaks off. -/
def Visitor.showAll (visitor : Visitor α) : List α → Walk α Bool
  | [] => return true
  | x :: xs => do if ← visitor.call x then visitor.showAll xs else return false

/-- Things that are shown one by one are calls in one session. -/
theorem Visitor.showAll_apply (visitor : Visitor α) (xs : List α) (s : Session) (calls : List α) :
    visitor.showAll xs ⟨s, calls⟩ = visitor.follow (.ok true) s (xs.map (Prod.mk s)) calls := by
  induction xs generalizing calls with
  | nil => rfl
  | cons x xs ih =>
    have hcall := Visitor.call_apply visitor x s calls
    show (visitor.call x >>= fun goOn => if goOn then visitor.showAll xs else pure false)
      ⟨s, calls⟩ = _
    rw [List.map_cons, Visitor.follow]
    cases hanswer : visitor (calls.length + 1) x with
    | error why =>
      rw [hanswer] at hcall
      rw [bind_apply_error hcall]
    | ok goOn =>
      rw [hanswer] at hcall
      rw [bind_apply_ok hcall]
      cases goOn with
      | false => rfl
      | true => exact ih (calls ++ [x])

/-- A call that is answered with `true` happens, and the walk goes on. -/
theorem Visitor.follow_goOn {visitor : Visitor α} {calls : List α} {x : α}
    (hyes : visitor (calls.length + 1) x = .ok true) (result : Except Error Bool)
    (s session : Session) (stops : List (Session × α)) :
    visitor.follow result s ((session, x) :: stops) calls =
      visitor.follow result s stops (calls ++ [x]) := by
  rw [Visitor.follow, hyes]

/-- Any other answer is the result, and that call is the last. -/
theorem Visitor.follow_stop {visitor : Visitor α} {calls : List α} {x : α}
    (hnot : visitor (calls.length + 1) x ≠ .ok true) (result : Except Error Bool)
    (s session : Session) (stops : List (Session × α)) :
    visitor.follow result s ((session, x) :: stops) calls =
      (visitor (calls.length + 1) x, ⟨session, calls ++ [x]⟩) := by
  rw [Visitor.follow]
  cases hanswer : visitor (calls.length + 1) x with
  | error why => rfl
  | ok goOn =>
    cases goOn with
    | false => rfl
    | true => exact absurd hanswer hnot

/-- Following some calls either breaks off whatever comes behind them, or goes on with what comes
behind them. -/
theorem Visitor.follow_append (visitor : Visitor α) (stops : List (Session × α)) (calls : List α)
    (s : Session) :
    (visitor.follow (.ok true) s stops calls = (.ok true, ⟨s, calls ++ stops.map Prod.snd⟩) ∧
      ∀ more result s', visitor.follow result s' (stops ++ more) calls =
        visitor.follow result s' more (calls ++ stops.map Prod.snd)) ∨
    ∃ answer tour, answer ≠ .ok true ∧ visitor.follow (.ok true) s stops calls = (answer, tour) ∧
      ∀ more result s', visitor.follow result s' (stops ++ more) calls = (answer, tour) := by
  induction stops generalizing calls with
  | nil =>
    rw [List.map_nil, List.append_nil]
    exact .inl ⟨rfl, fun _ _ _ => rfl⟩
  | cons stop stops ih =>
    obtain ⟨session, x⟩ := stop
    -- a call breaks off, or is one of those that have happened when the rest comes
    by_cases hyes : visitor (calls.length + 1) x = .ok true
    · have hcalls : calls ++ ((session, x) :: stops).map Prod.snd =
          (calls ++ [x]) ++ stops.map Prod.snd := by
        rw [List.append_assoc]
        rfl
      simp only [hcalls, List.cons_append, Visitor.follow_goOn hyes]
      exact ih (calls ++ [x])
    · exact .inr ⟨_, _, hyes, Visitor.follow_stop hyes _ s session stops,
        fun more result s' => Visitor.follow_stop hyes result s' session (stops ++ more)⟩

end Calls

/-! ## Walks follow their calls -/

namespace Itinerary

variable {σ α : Type} {w : Itinerary σ} {place : σ} {s s' : Session} {reads : List (WindowRead σ)}
  {result : Except Error Bool}

/-- A way of showing windows to a callback shows of each window the things of `shown`, one by
one. -/
def Shows (visit : Visitor α → σ → List Record → Walk α Bool) (shown : Showing σ α) : Prop :=
  ∀ visitor place rows s calls, rows ≠ [] →
    visit visitor place rows ⟨s, calls⟩ = visitor.showAll (shown place calls.length rows) ⟨s, calls⟩

/-- One window. Either the callback breaks off at one of its calls, whatever would come behind them;
or it lets all of them happen, and the walk does what follows the read. -/
theorem walk_succ {answer : Except Error (List Record)} (hread : w.read place s = (answer, s'))
    {visit : Visitor α → σ → List Record → Walk α Bool} {shown : Showing σ α}
    (hshows : Shows visit shown) (visitor : Visitor α) (bound : Nat) (calls : List α)
    {stops : List (Session × α)} (hstops : stops = WindowRead.stops shown calls.length
      ⟨place, answer, s'⟩) :
    (∀ more result t, visitor.follow result t (stops ++ more) calls =
      w.walk (visit visitor) (bound + 1) place ⟨s, calls⟩) ∨
    (∀ more result t, visitor.follow result t (stops ++ more) calls =
      visitor.follow result t more (calls ++ stops.map Prod.snd)) ∧
      w.walk (visit visitor) (bound + 1) place ⟨s, calls⟩ =
        match w.sequel place answer with
        | .inl result => (result, ⟨s', calls ++ stops.map Prod.snd⟩)
        | .inr place => w.walk (visit visitor) bound place ⟨s', calls ++ stops.map Prod.snd⟩ := by
  have hfound := Run.toWalk_apply hread calls
  rw [walk]
  -- a failure and an empty window give rise to no call
  cases answer with
  | error why =>
    subst hstops
    refine .inr ⟨fun more result t => by simp [WindowRead.stops], ?_⟩
    rw [bind_apply_error hfound]
    simp [WindowRead.stops, sequel]
  | ok rows =>
    cases rows with
    | nil =>
      subst hstops
      refine .inr ⟨fun more result t => by simp [WindowRead.stops], ?_⟩
      rw [bind_apply_ok hfound]
      simp [WindowRead.stops, sequel]
      rfl
    | cons row rows =>
      have hvisit := hshows visitor place (row :: rows) s' calls (List.cons_ne_nil row rows)
      rw [Visitor.showAll_apply] at hvisit
      rw [show (shown place calls.length (row :: rows)).map (Prod.mk s') = stops from
        hstops.symm] at hvisit
      rw [bind_apply_ok hfound, if_neg (by simp)]
      -- the callback has let all calls of the window happen, or broken off at one
      obtain ⟨hgone, hon⟩ | ⟨given, tour, hnot, hbroken, hoff⟩ :=
        visitor.follow_append stops calls s'
      · rw [hgone] at hvisit
        refine .inr ⟨hon, ?_⟩
        rw [bind_apply_ok hvisit, if_pos rfl]
        rw [sequel]
        cases w.next place (row :: rows) with
        | error why => rfl
        | ok place' => cases place' <;> rfl
      · rw [hbroken] at hvisit
        refine .inl fun more result t => ?_
        rw [hoff more result t]
        cases given with
        | error why => rw [bind_apply_error hvisit]
        | ok goOn =>
          cases goOn with
          | true => exact absurd rfl hnot
          | false => rw [bind_apply_ok hvisit]; rfl

/-- A walk with any callback is the callback following the calls that the reads of the walk give
rise to. -/
theorem walk_of_reads (h : w.Reads place s reads result s')
    {visit : Visitor α → σ → List Record → Walk α Bool} {shown : Showing σ α}
    (hshows : Shows visit shown) (visitor : Visitor α) (bound : Nat) (hbound : reads.length ≤ bound)
    (calls : List α) :
    w.walk (visit visitor) bound place ⟨s, calls⟩ =
      visitor.follow result s' (stopsOf shown calls.length reads) calls := by
  -- along the reads, with one window of the walk for each
  induction h generalizing bound calls with
  | @last place s s' answer result hread hend =>
    obtain ⟨bound, rfl⟩ := Nat.exists_eq_add_one_of_ne_zero (Nat.ne_of_gt hbound)
    rw [stopsOf, stopsOf]
    rcases walk_succ hread hshows visitor bound calls rfl with hoff | ⟨hon, hwalk⟩
    · exact (hoff [] result s').symm
    · rw [hon [] result s', hwalk, hend]
      rfl
  | @more place place' s s' s'' answer reads result hread hnext hrest ih =>
    obtain ⟨bound, rfl⟩ := Nat.exists_eq_add_one_of_ne_zero
      (Nat.ne_of_gt (Nat.zero_lt_of_lt hbound))
    rw [stopsOf]
    rcases walk_succ hread hshows visitor bound calls rfl with hoff | ⟨hon, hwalk⟩
    · exact (hoff _ result s'').symm
    · rw [hon, hwalk, hnext]
      dsimp only
      rw [ih bound (Nat.le_of_succ_le_succ hbound), List.length_append, List.length_map]

end Itinerary

end QueryBuilder
