import QueryBuilder.Proofs.Pages
import QueryBuilder.Proofs.Stopping

/-!
# Walks and the query's own window

A walk by row number writes the window of each page in the place of the query's own. So the query's
own limit and offset have no part in it: the walk begins with the first row and goes on behind every
full window, also where the query itself would keep fewer rows or pass over some.

- `Tail.Holds`: the rows that a window holds, by their number.
- `Query.page_updateTail`, `Query.walk_updateTail`: pages, and walks over them, are the same
  whatever window they take the place of.
- `Query.pages_read`: what the `k`-th read of a walk asks for, and when there is another behind it.
- `Query.pages_within_iff`: when all windows of a walk lie within the query's own.
- `walk_replaces_window`: all of it for both walks.
-/

namespace QueryBuilder

/-! ## The rows of a window -/

/-- A row, by its number in the ordered result, is among those that a window keeps. -/
def Tail.Holds (tail : Tail) (row : Nat) : Prop :=
  tail.offset.getD 0 ≤ row ∧ ∀ count ∈ tail.limit, row < tail.offset.getD 0 + count

namespace Query

variable {q : Query}

/-- A page is the same, whatever window it takes the place of. -/
theorem page_updateTail (q : Query) (limit offset : Option Nat) (number size : Nat) :
    (q.updateTail fun tail => { tail with limit, offset }).page number size =
      q.page number size := by
  unfold page Query.limit Query.offset
  simp only [updateTail_updateTail]

/-- The way from page to page is the same as well. -/
theorem pages_updateTail (q : Query) (limit offset : Option Nat) (size : Nat) :
    (q.updateTail fun tail => { tail with limit, offset }).pages size = q.pages size := by
  unfold pages
  simp only [page_updateTail]

/-- A walk over pages is the same, whatever window they take the place of. -/
theorem walk_updateTail {α : Type} (q : Query) (limit offset : Option Nat) (size : Nat)
    (visit : Nat → List Record → Walk α Bool) :
    (q.updateTail fun tail => { tail with limit, offset }).walk size visit = q.walk size visit := by
  -- a walk wants an ordering, and both queries have the same ones
  have horders : (q.updateTail fun tail => { tail with limit, offset }).tail.orders =
      q.tail.orders ∧
      (q.updateTail fun tail => { tail with limit, offset }).unionTail.orders =
        q.unionTail.orders := by
    unfold updateTail
    split <;> exact ⟨rfl, rfl⟩
  unfold walk
  simp only [windows_eq_walk, pages_updateTail, horders]

/-! ## What is read -/

variable {s s' : Session} {reads : List (WindowRead Nat)} {result : Except Error Bool}
  {size number : Nat}

/-- A walk goes on to the next page, if it goes on at all. -/
theorem place_of_sequel {answer : Except Error (List Record)} {place : Nat}
    (h : (q.pages size).sequel number answer = .inr place) : place = number + 1 := by
  obtain ⟨rows, rfl, hrows⟩ := Itinerary.rows_of_sequel h
  cases rows with
  | nil => exact absurd rfl hrows
  | cons row rows =>
    by_cases hfull : (row :: rows).length = size
    · simp only [Itinerary.sequel, pages, if_pos hfull] at h
      exact (Sum.inr.inj h).symm
    · simp only [Itinerary.sequel, pages, if_neg hfull] at h
      cases h

/-- It does so behind a full window. -/
theorem sequel_of_full (hsize : 0 < size) {rows : List Record} (hfull : rows.length = size) :
    (q.pages size).sequel number (.ok rows) = .inr (number + 1) := by
  cases rows with
  | nil =>
    rw [← hfull] at hsize
    exact absurd hsize (Nat.lt_irrefl 0)
  | cons row rows => simp only [Itinerary.sequel, pages, if_pos hfull]

/-- The `k`-th read of a walk over pages fetches the `k`-th page, in the session that the reads
before it have left. Behind a full window there is another read. -/
theorem pages_read (hsize : 0 < size) (h : (q.pages size).Reads number s reads result s') {k : Nat}
    {read : WindowRead Nat} (hread : reads[k]? = some read) :
    (∃ before, (s :: reads.map WindowRead.session)[k]? = some before ∧
      (q.page (number + k) size).fetch before = (read.answer, read.session)) ∧
    ∀ rows, read.answer = .ok rows → rows.length = size → k + 1 < reads.length := by
  -- along the reads: the page goes up by one with each, the index down by one
  induction h generalizing k with
  | @last number s s' answer result hfetch hend =>
    cases k with
    | succ k => cases hread
    | zero =>
      obtain rfl := Option.some.inj hread
      refine ⟨⟨s, rfl, hfetch⟩, fun rows hrows hfull => ?_⟩
      obtain rfl : answer = .ok rows := hrows
      rw [sequel_of_full hsize hfull] at hend
      cases hend
  | @more number place s s' s'' answer reads result hfetch hnext hrest ih =>
    obtain rfl := place_of_sequel hnext
    cases k with
    | zero =>
      obtain rfl := Option.some.inj hread
      refine ⟨⟨s, rfl, hfetch⟩, fun rows _ _ => ?_⟩
      have hmore : 0 < reads.length := by cases hrest <;> simp
      simpa using hmore
    | succ k =>
      obtain ⟨⟨before, hbefore, hpage⟩, hfull⟩ := ih hread
      refine ⟨⟨before, hbefore, ?_⟩, fun rows hrows hlength => ?_⟩
      · rw [← hpage, Nat.add_assoc, Nat.add_comm 1]
      · exact Nat.succ_lt_succ (hfull rows hrows hlength)

/-! ## Where the windows lie -/

/-- The rows of the `k + 1`-th page are `size` rows behind its start, which is kept within 64
bits. -/
theorem holds_page_iff (q : Query) (k size row : Nat) :
    (q.page (k + 1) size).outerTail.Holds row ↔
      min (k * size) maxRow ≤ row ∧ row < min (k * size) maxRow + size := by
  rw [outerTail_page]
  unfold Tail.Holds pageStart
  simp

/-- The first so many pages lie within the query's own window exactly if this begins with the first
row and is long enough for all of them. -/
theorem pages_within_iff (q : Query) (hsize : 0 < size) {count : Nat} (hcount : 0 < count) :
    (∀ k < count, ∀ row, (q.page (k + 1) size).outerTail.Holds row → q.outerTail.Holds row) ↔
      q.outerTail.offset.getD 0 = 0 ∧
        ∀ most ∈ q.outerTail.limit, min ((count - 1) * size) maxRow + size ≤ most := by
  constructor
  · intro hwithin
    have hfirst : q.outerTail.offset.getD 0 = 0 := by
      -- the first row of the first page says where the query's window begins
      have hzero := (hwithin 0 hcount 0 ((q.holds_page_iff 0 size 0).mpr (by simpa using hsize))).1
      exact Nat.le_zero.mp hzero
    refine ⟨hfirst, fun most hmost => ?_⟩
    -- the last row of the last page says how long it is
    have hlast := (hwithin (count - 1) (Nat.sub_lt hcount Nat.one_pos)
      (min ((count - 1) * size) maxRow + size - 1) ((q.holds_page_iff _ _ _).mpr (by omega))).2 most
        hmost
    omega
  · rintro ⟨hfirst, hlast⟩ k hk row hrow
    obtain ⟨-, hbelow⟩ := (q.holds_page_iff k size row).mp hrow
    refine ⟨by omega, fun most hmost => ?_⟩
    have hmost := hlast most hmost
    -- every other page ends in front of the last one
    have hbefore : k * size ≤ (count - 1) * size :=
      Nat.mul_le_mul_right size (Nat.le_sub_one_of_lt hk)
    omega

end Query

/-! ## Both walks -/

/-- For every query with an ordering and every executor. The query's own window has no part in a
walk by row number, window by window or row by row: with any other limit and offset it is the same
walk. Its reads fetch the first page, and behind every full one the next; with an executor the
statement of each page is sent. All of these windows lie within the query's own exactly if this
begins with the first row and is long enough for all of them; row numbers stay within 64 bits. -/
theorem walk_replaces_window (q : Query) (horders : q.tail.orders ≠ [] ∨ q.unionTail.orders ≠ [])
    (size : Nat) (s : Session) :
    (∀ limit offset,
      (∀ visitor, (q.updateTail fun tail => { tail with limit, offset }).chunk size visitor =
        q.chunk size visitor) ∧
      ∀ given visitor, (q.updateTail fun tail => { tail with limit, offset }).each given visitor =
        q.each given visitor) ∧
    ∃ reads result s', 0 < reads.length ∧
      (∀ visitor, q.chunk size visitor ⟨s, []⟩ =
        visitor.follow result s' (stopsOf (windowsShown id) 0 reads) []) ∧
      (∀ given visitor, given.getD q.connection.config.chunkSize = size →
        q.each given visitor ⟨s, []⟩ = visitor.follow result s' (stopsOf rowsShown 0 reads) []) ∧
      (∀ k read, reads[k]? = some read →
        (∃ before, (s :: reads.map WindowRead.session)[k]? = some before ∧
          (q.page (k + 1) (Nat.max size 1)).fetch before = (read.answer, read.session) ∧
          (q.connection.attached = true →
            before.sent ++ [.query (q.page (k + 1) (Nat.max size 1)).sql
              (q.page (k + 1) (Nat.max size 1)).values] <+: read.session.sent)) ∧
        ∀ rows, read.answer = .ok rows → rows.length = Nat.max size 1 → k + 1 < reads.length) ∧
      ((∀ k < reads.length, ∀ row,
          (q.page (k + 1) (Nat.max size 1)).outerTail.Holds row → q.outerTail.Holds row) ↔
        q.outerTail.offset.getD 0 = 0 ∧ ∀ most ∈ q.outerTail.limit,
          min ((reads.length - 1) * Nat.max size 1) maxRow + Nat.max size 1 ≤ most) := by
  have hsize : 0 < Nat.max size 1 := Nat.lt_of_lt_of_le Nat.zero_lt_one (Nat.le_max_right size 1)
  refine ⟨fun limit offset => ⟨fun visitor => q.walk_updateTail limit offset size _,
    fun given visitor => ?_⟩, ?_⟩
  · unfold Query.each
    rw [Query.connection_updateTail]
    exact q.walk_updateTail limit offset _ _
  -- the reads depend on the session alone, so they are the same for every callback
  obtain ⟨reads, result, s', hreads, hbound⟩ := Itinerary.exists_reads (q.consumes_pages _) 1 s
  have hcount : 0 < reads.length := by cases hreads <;> simp
  refine ⟨reads, result, s', hcount, fun visitor => ?_, fun given visitor hgiven => ?_,
    fun k read hread => ?_, q.pages_within_iff hsize hcount⟩
  · exact (q.walk_ordered s horders size _).trans
      (Itinerary.walk_of_reads hreads (shows_windows id) visitor _ hbound [])
  · unfold Query.each
    rw [hgiven]
    exact (q.walk_ordered s horders size _).trans
      (Itinerary.walk_of_reads hreads shows_rows visitor _ hbound [])
  · obtain ⟨⟨before, hbefore, hfetch⟩, hfull⟩ := Query.pages_read hsize hreads hread
    rw [Nat.add_comm 1 k] at hfetch
    refine ⟨⟨before, hbefore, hfetch, fun hattached => ?_⟩, hfull⟩
    have hconnection : (q.page (k + 1) (Nat.max size 1)).connection.attached = true := by
      rw [(Query.derives_page (q := q) (k + 1) (Nat.max size 1)).connection]
      exact hattached
    have hsent := Query.sent_fetch hconnection before
    rw [hfetch] at hsent
    exact hsent

/-- Users in the order of their keys, the first two of them. -/
def firstUsers : Query :=
  (orderedUsers.limit 2).offset 0

/-- The walk over the first two users is the walk over all of them. -/
theorem walk_replaces_window_first :
    firstUsers.tail.orders ≠ [] ∧
      orderedUsers.chunk 2 (fun _ _ => .ok true) ⟨answeringThree, []⟩ =
        firstUsers.chunk 2 (fun _ _ => .ok true) ⟨answeringThree, []⟩ := by
  have horders : firstUsers.tail.orders ≠ [] := List.cons_ne_nil _ _
  have hwalks := (walk_replaces_window firstUsers (.inl horders) 2 answeringThree).1 none none
  have hunlimited :
      (firstUsers.updateTail fun tail => { tail with limit := none, offset := none }) =
      orderedUsers := rfl
  rw [hunlimited] at hwalks
  exact ⟨horders, congrFun (hwalks.1 fun _ _ => .ok true) ⟨answeringThree, []⟩⟩

/-- A walk over the first two users that shows a third. -/
theorem walk_beyond_window_first :
    firstUsers.unions = [] ∧ firstUsers.tail.orders ≠ [] ∧ firstUsers.tail.limit = some 2 ∧
      firstUsers.tail.offset = some 0 ∧
      (firstUsers.chunk 2 (fun _ _ => .ok true) ⟨answeringThree, []⟩).2.calls =
        [(1, threeUsers.take 2), (2, threeUsers.drop 2)] ∧
      (firstUsers.chunk 2 (fun _ _ => .ok true) ⟨answeringThree, []⟩).2.session.sent =
        [.query "select * from \x60users\x60 order by \x60id\x60 asc limit 2 offset 0" [],
          .query "select * from \x60users\x60 order by \x60id\x60 asc limit 2 offset 2" []] ∧
      (firstUsers.page 2 2).outerTail.Holds 2 ∧ ¬ firstUsers.outerTail.Holds 2 := by
  have hshown : (firstUsers.page 2 2).outerTail.Holds 2 := ⟨by decide, by decide⟩
  have hbeyond : ¬ firstUsers.outerTail.Holds 2 := fun h => Nat.lt_irrefl 2 (h.2 2 rfl)
  exact ⟨rfl, List.cons_ne_nil _ _, rfl, rfl, rfl, rfl, hshown, hbeyond⟩

end QueryBuilder
