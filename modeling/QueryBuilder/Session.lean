import QueryBuilder.Dialect
import QueryBuilder.Error

/-!
# Sessions with an executor

The collaborator of §6 of the specification.

An executor runs statements against a database. Here it answers from three queues, and the session
keeps what it was sent; what was sent stays sent when an operation fails.

* `Session`: the queues and the statements so far.
* `Run`: an operation that may send statements and may fail.
* `Connection.query`, `Connection.update`, `Connection.insertReturning`: sending one statement.
* `Tour`, `Walk`: the same with a list of the calls made to a callback.
-/

namespace QueryBuilder

/-- A statement that the executor was sent (§6). -/
inductive Sent where
  | query (sql : String) (values : List Value)
  | update (sql : String) (values : List Value)
  | insertReturning (sql : String) (values : List Value) (key : String)
  deriving Repr

/-- What an executor answers: a result, or the reason why it failed. -/
abbrev Reply (α : Type) := Except String α

/-- An executor and what it was sent. An empty queue answers with no rows, one row changed, and
the key one (§10.1, a scripted executor). -/
structure Session where
  rows : List (Reply (List Record)) := []
  counts : List (Reply Nat) := []
  keys : List (Reply Int) := []
  sent : List Sent := []

/-- An operation in a session. -/
abbrev Run (α : Type) := ExceptT Error (StateM Session) α

/-- The answer as the result of an operation. -/
def Reply.toRun {α : Type} (reply : Reply α) : Run α :=
  match reply with
  | .ok a => pure a
  | .error reason => throw (.execution reason)

/-- The result of a step that sends nothing. -/
def Run.ofExcept {α : Type} (result : Except Error α) : Run α :=
  match result with
  | .ok a => pure a
  | .error why => throw why

namespace Connection

/-- Fails unless an executor is attached. -/
def requireExecutor (c : Connection) : Run Unit :=
  if c.attached then pure () else throw .noExecutor

/-- Sends a select (§6, `executeQuery`). -/
def query (c : Connection) (sql : String) (values : List Value) : Run (List Record) := do
  c.requireExecutor
  let s ← get
  set { s with rows := s.rows.tail, sent := s.sent ++ [Sent.query sql values] }
  (s.rows.headD (.ok [])).toRun

/-- Sends a write; the answer is how many rows it changed (§6, `executeUpdate`). -/
def update (c : Connection) (sql : String) (values : List Value) : Run Nat := do
  c.requireExecutor
  let s ← get
  set { s with counts := s.counts.tail, sent := s.sent ++ [Sent.update sql values] }
  (s.counts.headD (.ok 1)).toRun

/-- Sends an insert; the answer is the key that the row was given (§6,
`executeInsertReturningKey`). -/
def insertReturning (c : Connection) (sql : String) (values : List Value) (key : String) :
    Run Int := do
  c.requireExecutor
  let s ← get
  set { s with keys := s.keys.tail, sent := s.sent ++ [Sent.insertReturning sql values key] }
  (s.keys.headD (.ok 1)).toRun

end Connection

/-! ## Calls to a callback -/

/-- A session and the calls made to a callback, the earliest first. -/
structure Tour (α : Type) where
  session : Session
  calls : List α

/-- An operation in a session that calls a callback. -/
abbrev Walk (α β : Type) := ExceptT Error (StateM (Tour α)) β

/-- The answer of a callback to its n-th call, counted from one, by what it is shown. `false` asks
to stop (§4.5, the stop signal). -/
abbrev Visitor (α : Type) := Nat → α → Except Error Bool

/-- An operation without calls. -/
def Run.toWalk {α β : Type} (r : Run β) : Walk α β := fun tour =>
  let (result, session) := r tour.session
  (result, { tour with session })

/-- Notes a call. -/
def Walk.note {α : Type} (x : α) : Walk α Unit :=
  modify fun tour => { tour with calls := tour.calls ++ [x] }

/-- Calls a callback. -/
def Visitor.call {α : Type} (visitor : Visitor α) (x : α) : Walk α Bool := do
  Walk.note x
  match visitor (← get).calls.length x with
  | .ok answer => return answer
  | .error why => throw why

end QueryBuilder
