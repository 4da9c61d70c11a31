import QueryBuilder.Query.Fetch

/-!
# Operations in a session

How an operation that is put together from others goes through a session, and what a single
statement does to it.

- `bind_apply_ok`, `bind_apply_error`: what follows an operation goes on where it ends. `bind_leads`
  is the rule for relations between sessions.
- `Session.answer`, `Session.secondAnswer`: the answers to the next two selects.
- `Session.Answers`: the next selects are answered with the lists of a sequence.
- `Session.sending`: the session after a select.
- `Connection.query_attached`, `Connection.query_detached`: a select with an executor and without.
- `Connection.update_attached`, `Connection.update_detached`: a write with an executor and without.
- `Session.Kept`: a relation between sessions that every operation of a fetch keeps, as it is kept
  by a single select. The queue of answers grows only shorter (`Session.kept_rows`).
- `Run.Appends`: whatever an operation sends comes after what was sent before. A fetch sends its own
  statement first (`Query.sent_fetch`).
-/

namespace QueryBuilder

section Bind

variable {σ α β : Type} {x : ExceptT Error (StateM σ) α} {f : α → ExceptT Error (StateM σ) β}
  {s s' : σ}

theorem bind_apply_ok {a : α} (h : x s = (.ok a, s')) : (x >>= f) s = f a s' := by
  show (match x s with | (result, t) => ExceptT.bindCont f result t) = _
  rw [h]
  rfl

/-- An operation is not begun where the one before it fails. -/
theorem bind_apply_error {why : Error} (h : x s = (.error why, s')) :
    (x >>= f) s = (.error why, s') := by
  show (match x s with | (result, t) => ExceptT.bindCont f result t) = _
  rw [h]
  rfl

/-- What follows an operation matters only where the operation ends well. -/
theorem bind_apply_congr {g : α → ExceptT Error (StateM σ) β}
    (h : ∀ a s', x s = (.ok a, s') → f a s' = g a s') : (x >>= f) s = (x >>= g) s := by
  rcases hx : x s with ⟨result, s'⟩
  cases result with
  | error why => rw [bind_apply_error hx, bind_apply_error hx]
  | ok a =>
    rw [bind_apply_ok hx, bind_apply_ok hx]
    exact h a s' hx

/-- Where both parts of an operation lead, the whole leads, for a relation that composes. A first
part that fails ends it where it is. -/
theorem bind_leads {R : σ → σ → Prop} (htrans : ∀ {s t u}, R s t → R t u → R s u)
    (hx : ∀ s, R s (x s).2) (hf : ∀ a s, R s (f a s).2) (s : σ) : R s ((x >>= f) s).2 := by
  have hfirst := hx s
  rcases hresult : x s with ⟨result, s'⟩
  rw [hresult] at hfirst
  cases result with
  | ok a =>
    rw [bind_apply_ok hresult]
    exact htrans hfirst (hf a s')
  | error why =>
    rw [bind_apply_error hresult]
    exact hfirst

end Bind

/-! ## Statements -/

/-- The session after a select was sent. -/
def Session.sending (s : Session) (sql : String) (vs : List Value) : Session :=
  { s with rows := s.rows.tail, sent := s.sent ++ [.query sql vs] }

/-- The session after a write was sent. -/
def Session.writing (s : Session) (sql : String) (vs : List Value) : Session :=
  { s with counts := s.counts.tail, sent := s.sent ++ [.update sql vs] }

/-- The answer to the next select. -/
def Session.answer (s : Session) : Except Error (List Record) :=
  (s.rows.headD (.ok [])).mapError .execution

/-- The answer to the select after that. -/
def Session.secondAnswer (s : Session) : Except Error (List Record) :=
  (s.rows.tail.headD (.ok [])).mapError .execution

/-- After a select the second answer is next. -/
theorem Session.answer_sending (s : Session) (sql : String) (vs : List Value) :
    (s.sending sql vs).answer = s.secondAnswer :=
  rfl

/-- The next selects are answered with the lists of a sequence, from the `k`-th to the `n`-th. -/
def Session.Answers (s : Session) (answers : Nat → List Record) (k n : Nat) : Prop :=
  ∀ j, k + j ≤ n → (s.rows.drop j).headD (.ok []) = .ok (answers (k + j))

namespace Session.Answers

variable {s : Session} {answers : Nat → List Record} {k n : Nat}

/-- The next select is answered with the next list of the sequence. -/
theorem answer (h : s.Answers answers k n) (hk : k ≤ n) : s.answer = .ok (answers k) := by
  have hfirst : s.rows.headD (.ok []) = .ok (answers k) := h 0 hk
  unfold Session.answer
  rw [hfirst]
  rfl

/-- A select takes one answer away. -/
theorem sending (h : s.Answers answers k n) (sql : String) (vs : List Value) :
    (s.sending sql vs).Answers answers (k + 1) n := by
  intro j hj
  have hnext := h (j + 1) (by omega)
  show (s.rows.tail.drop j).headD (.ok []) = _
  rw [List.drop_tail, hnext]
  congr 2
  omega

/-- Behind the end of the queue all answers are empty. -/
theorem length_le (h : s.Answers answers 0 n) (hfilled : ∀ j < n, answers j ≠ []) :
    n ≤ s.rows.length := by
  -- the answer behind the end of the queue would be empty, and no answer before the `n`-th is
  refine Nat.le_of_not_lt fun hshort => hfilled s.rows.length hshort ?_
  have hanswer := h s.rows.length (by omega)
  rw [List.drop_length, Nat.zero_add] at hanswer
  exact (Except.ok.inj hanswer).symm

end Session.Answers

namespace Connection

variable {c : Connection}

/-- With an executor a select is sent and takes the next answer, be it rows or a failure. -/
theorem query_attached (hc : c.attached = true) (sql : String) (vs : List Value) (s : Session) :
    c.query sql vs s = (s.answer, s.sending sql vs) := by
  have hrequire : c.requireExecutor = pure () := by
    unfold requireExecutor
    rw [if_pos hc]
  unfold query Session.answer
  rw [hrequire]
  show (s.rows.headD (.ok [])).toRun (s.sending sql vs) = _
  cases s.rows.headD (.ok []) <;> rfl

/-- Without an executor nothing is sent. -/
theorem query_detached (hc : c.attached = false) (sql : String) (vs : List Value) (s : Session) :
    c.query sql vs s = (.error .noExecutor, s) := by
  have hrequire : c.requireExecutor = throw .noExecutor := by
    unfold requireExecutor
    rw [hc]
    rfl
  unfold query
  rw [hrequire]
  rfl

/-- With an executor a write is sent and takes the next count. -/
theorem update_attached (hc : c.attached = true) (sql : String) (vs : List Value) (s : Session) :
    c.update sql vs s = ((s.counts.headD (.ok 1)).mapError .execution, s.writing sql vs) := by
  have hrequire : c.requireExecutor = pure () := by
    unfold requireExecutor
    rw [if_pos hc]
  unfold update
  rw [hrequire]
  show (s.counts.headD (.ok 1)).toRun (s.writing sql vs) = _
  cases s.counts.headD (.ok 1) <;> rfl

/-- Without an executor nothing is written. -/
theorem update_detached (hc : c.attached = false) (sql : String) (vs : List Value) (s : Session) :
    c.update sql vs s = (.error .noExecutor, s) := by
  have hrequire : c.requireExecutor = throw .noExecutor := by
    unfold requireExecutor
    rw [hc]
    rfl
  unfold update
  rw [hrequire]
  rfl

end Connection

/-- Without relations a fetch is a single statement, however deep relations may nest. -/
theorem Query.fetchWithin_of_no_loads {q : Query} (h : q.eagerLoads = []) (depth : Nat) :
    fetchWithin depth q = q.fetchBase := by
  cases depth with
  | zero => rfl
  | succ depth =>
    unfold fetchWithin
    rw [h]
    exact bind_pure q.fetchBase

/-- The same at the depth that a fetch uses. -/
theorem Query.fetch_of_no_loads {q : Query} (h : q.eagerLoads = []) : q.fetch = q.fetchBase :=
  fetchWithin_of_no_loads h q.loadDepth

/-- With an executor, a query without relations is answered as it stands. -/
theorem Query.fetchWithin_apply {q : Query} (hloads : q.eagerLoads = [])
    (hattached : q.connection.attached = true) (depth : Nat) (s : Session) :
    fetchWithin depth q s = (s.answer, s.sending q.sql q.values) := by
  rw [fetchWithin_of_no_loads hloads]
  exact Connection.query_attached hattached q.sql q.values s

/-- A fetch without relations gives the rows that it is answered with. -/
theorem Query.fetch_answered {q : Query} {s : Session} {rows : List Record}
    (hloads : q.eagerLoads = []) (hattached : q.connection.attached = true)
    (hanswer : s.answer = .ok rows) : q.fetch s = (.ok rows, s.sending q.sql q.values) := by
  rw [← hanswer]
  exact fetchWithin_apply hloads hattached q.loadDepth s

/-- An operation makes no calls on a walk. -/
theorem Run.toWalk_apply {α β : Type} {r : Run β} {result : Except Error β} {s s' : Session}
    (h : r s = (result, s')) (calls : List α) :
    (r.toWalk : Walk α β) ⟨s, calls⟩ = (result, ⟨s', calls⟩) := by
  unfold Run.toWalk
  rw [h]

/-- Two operations without calls are one. -/
theorem Run.toWalk_bind {α β γ : Type} (r : Run β) (f : β → Run γ) :
    ((r >>= f).toWalk : Walk α γ) = r.toWalk >>= fun b => (f b).toWalk := by
  funext tour
  rcases hr : r tour.session with ⟨result, s⟩
  have hfound := Run.toWalk_apply hr tour.calls
  cases result with
  | error why =>
    rw [bind_apply_error hfound]
    exact Run.toWalk_apply (bind_apply_error hr) tour.calls
  | ok b =>
    rw [bind_apply_ok hfound]
    show Run.toWalk (r >>= f) ⟨tour.session, tour.calls⟩ = _
    unfold Run.toWalk
    rw [bind_apply_ok hr]

/-! ## What operations keep -/

/-- An operation leads from every session to one in a relation to it, also when it fails. -/
def Run.Leads {α : Type} (R : Session → Session → Prop) (r : Run α) : Prop :=
  ∀ s, R s (r s).2

/-- A relation between sessions that composes, and that every select keeps. -/
structure Session.Kept (R : Session → Session → Prop) : Prop where
  refl (s : Session) : R s s
  trans {s t u : Session} : R s t → R t u → R s u
  select (s : Session) (sql : String) (vs : List Value) : R s (s.sending sql vs)

namespace Session.Kept

variable {R : Session → Session → Prop} {α β : Type}

theorem pure (h : Kept R) (a : α) : (Pure.pure a : Run α).Leads R :=
  fun s => h.refl s

theorem bind (h : Kept R) {x : Run α} {f : α → Run β} (hx : x.Leads R) (hf : ∀ a, (f a).Leads R) :
    Run.Leads R (x >>= f) :=
  bind_leads h.trans hx hf

/-- A computation outside of the session leads nowhere, whether it succeeds or fails. -/
theorem ofExcept (h : Kept R) (e : Except Error α) : (Run.ofExcept e).Leads R := by
  cases e with
  | ok a => exact h.pure a
  | error why => exact fun s => h.refl s

/-- Operations repeated over a list lead where each of them leads. -/
theorem foldlM (h : Kept R) {f : β → α → Run β} (hf : ∀ b a, (f b a).Leads R)
    (as : List α) (b : β) : Run.Leads R (as.foldlM f b) := by
  induction as generalizing b with
  | nil => exact h.pure b
  | cons a as ih =>
    rw [List.foldlM_cons]
    exact h.bind (hf b a) ih

/-- A select leads where sending it leads; without an executor the session stays. -/
theorem query (h : Kept R) (c : Connection) (sql : String) (vs : List Value) :
    (c.query sql vs).Leads R := by
  intro s
  cases hattached : c.attached with
  | false =>
    have hsession : (c.query sql vs s).2 = s :=
      congrArg Prod.snd (Connection.query_detached hattached sql vs s)
    exact hsession.symm ▸ h.refl s
  | true =>
    have hsession : (c.query sql vs s).2 = s.sending sql vs :=
      congrArg Prod.snd (Connection.query_attached hattached sql vs s)
    exact hsession.symm ▸ h.select s sql vs

/-- Loading a relation leads where fetching leads. -/
theorem load (h : Kept R) {fetch : Query → Run (List Record)} (hfetch : ∀ q, (fetch q).Leads R)
    (c : Connection) (name : String) (r : Relation) (parents : List Record) :
    (r.load fetch c name parents).Leads R := by
  unfold Relation.load
  dsimp only
  -- without keys nothing is fetched; a pivot table is fetched after the rows
  split
  · exact h.pure _
  · refine h.bind (h.ofExcept _) fun related => ?_
    split
    · exact h.bind (h.ofExcept _) fun batch => h.bind (hfetch batch) fun rows => h.pure _
    · exact h.bind (h.ofExcept _) fun batch => h.bind (hfetch batch) fun rows => h.pure _
    · exact h.bind (h.ofExcept _) fun batch => h.bind (hfetch batch) fun rows => h.pure _
    · refine h.bind (h.ofExcept _) fun batch => h.bind (hfetch batch) fun rows => ?_
      exact h.bind (h.ofExcept _) fun batch => h.bind (hfetch batch) fun pivots => h.pure _

/-- Relations that are loaded one after the other lead where fetching leads. -/
theorem loads (h : Kept R) {fetch : Query → Run (List Record)} (hfetch : ∀ q, (fetch q).Leads R)
    (c : Connection) (entries : List (String × Relation)) (rows : List Record) :
    Run.Leads R (entries.foldlM (fun rows entry => entry.2.load fetch c entry.1 rows) rows) :=
  h.foldlM (fun rows entry => h.load hfetch c entry.1 entry.2 rows) entries rows

/-- A fetch leads, at every depth of relations. -/
theorem fetchWithin (h : Kept R) (depth : Nat) (q : Query) :
    (Query.fetchWithin depth q).Leads R := by
  -- relations of relations are fetched one level less deep
  induction depth generalizing q with
  | zero => exact h.query _ _ _
  | succ depth ih =>
    exact h.bind (h.query _ _ _) fun rows => h.loads ih q.connection q.eagerLoads rows

theorem fetch (h : Kept R) (q : Query) : q.fetch.Leads R :=
  h.fetchWithin q.loadDepth q

end Session.Kept

/-- The queue of answers grows only shorter. -/
theorem Session.kept_rows : Kept fun s t => t.rows <:+ s.rows where
  refl s := List.suffix_refl s.rows
  trans h h' := h'.trans h
  select s _ _ := List.tail_suffix s.rows

/-! ## What was sent stays sent -/

/-- Whatever an operation sends comes after what was sent before, also when it fails. -/
def Run.Appends {α : Type} (r : Run α) : Prop :=
  ∀ s, s.sent <+: (r s).2.sent

/-- What has been sent is the beginning of what will have been sent. -/
theorem Session.kept_sent : Kept fun s t => s.sent <+: t.sent where
  refl s := List.prefix_refl s.sent
  trans := List.IsPrefix.trans
  select s _ _ := List.prefix_append s.sent _

namespace Run.Appends

variable {α β : Type}

theorem pure (a : α) : Run.Appends (Pure.pure a : Run α) :=
  Session.kept_sent.pure a

/-- What an operation has sent stays sent, whatever follows it. -/
theorem after (x : Run α) {f : α → Run β} (hf : ∀ a, (f a).Appends) (s : Session) :
    (x s).2.sent <+: ((x >>= f) s).2.sent := by
  rcases hresult : x s with ⟨result, s'⟩
  cases result with
  | ok a =>
    rw [bind_apply_ok hresult]
    exact hf a s'
  | error why =>
    have hsession : ((x >>= f) s).2 = s' := congrArg Prod.snd (bind_apply_error hresult)
    exact hsession.symm ▸ List.prefix_refl s'.sent

end Run.Appends

/-- A fetch sends its own statement first; the relations that it loads come after that. -/
theorem Query.sent_fetch {q : Query} (hattached : q.connection.attached = true) (s : Session) :
    s.sent ++ [.query q.sql q.values] <+: (q.fetch s).2.sent := by
  have hbase : q.fetchBase s = (s.answer, s.sending q.sql q.values) :=
    Connection.query_attached hattached q.sql q.values s
  unfold Query.fetch
  cases q.loadDepth with
  | zero =>
    show s.sent ++ [.query q.sql q.values] <+: (q.fetchBase s).2.sent
    rw [hbase]
    exact List.prefix_refl _
  | succ depth =>
    have hafter := Run.Appends.after q.fetchBase
      (fun rows => Session.kept_sent.loads (Session.kept_sent.fetchWithin depth) q.connection
        q.eagerLoads rows) s
    rw [hbase] at hafter
    exact hafter

end QueryBuilder
