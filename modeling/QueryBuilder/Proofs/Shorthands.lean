import Mathlib.Data.List.Forall2
import QueryBuilder.Query.Where

/-!
# Rows, pairs and chains of conditions

A list of condition rows is a group that a chain of single calls builds: each row is read as a call,
whatever the query is, and the first row that cannot be read decides. Pairs are rows of two.

- `RowCall`: a single call. `RowCall.Reads`: the rows that are read as a call. `RefusesRow`: the
  rows that are read as none, with the reason.
- `reads_or_refuses`: there are no others.
- `addRow_of_reads`, `addRow_of_refuses`: what adding a row does.
- `rows_cases`: every list of rows is read as a chain, up to its end or to the first row that is
  refused.
- `shorthands_are_chains`: rows, pairs and groups.
-/

namespace QueryBuilder

/-! ## Rows as calls -/

/-- A single call on a query: a comparison, or a group that a closure builds. -/
inductive RowCall where
  | compare (connector : Connector) (subject : Subject) (operator : String) (value : Comparand)
  | nest (build : Query → Except Error Query)

/-- Makes the call. -/
def RowCall.run : RowCall → Query → Except Error Query
  | compare connector subject operator value, q => q.compare connector subject (some operator) value
  | nest build, q => q.group .and build

/-- Makes one call after the other. -/
def chain (calls : List RowCall) (q : Query) : Except Error Query :=
  calls.foldlM (fun q call => call.run q) q

/-- What the head of a row stands for: a text names a column, and an expression is one. -/
inductive HeadReads : Comparand → Subject → Prop where
  | name (s : String) : HeadReads (.operand (.value (.text s))) (.column (.name s))
  | raw (sql : String) : HeadReads (.operand (.raw sql)) (.column (.raw sql))
  | query (s : Subquery) : HeadReads (.query s) (.query s)

/-- The call that a row is read as. A row of two has the operator `=`, and the connector is `and`
unless the row has one. -/
inductive RowCall.Reads : List Comparand → RowCall → Prop where
  | nest (build : Query → Except Error Query) : Reads [.query (.closure build)] (.nest build)
  | two {head : Comparand} {subject : Subject} (hhead : HeadReads head subject)
      (value : Comparand) : Reads [head, value] (.compare .and subject "=" value)
  | three {head : Comparand} {subject : Subject} (hhead : HeadReads head subject)
      (operator : String) (value : Comparand) :
      Reads [head, .operand (.value (.text operator)), value] (.compare .and subject operator value)
  | four {head : Comparand} {subject : Subject} (hhead : HeadReads head subject) (operator : String)
      (value : Comparand) {word : String} {connector : Connector}
      (hword : Connector.read word = .ok connector) :
      Reads [head, .operand (.value (.text operator)), value, .operand (.value (.text word))]
        (.compare connector subject operator value)

/-- A comparand that is a text. -/
def Comparand.IsText (c : Comparand) : Prop :=
  ∃ s, c = .operand (.value (.text s))

/-- The rows that are read as no call, with the reason. A row is read from its head on. -/
inductive RefusesRow : List Comparand → Error → Prop where
  | length {row : List Comparand} (hlength : row.length = 0 ∨ 4 < row.length) :
      RefusesRow row (.misuse (.rowLength row.length))
  | single {c : Comparand} (hnest : ∀ build, c ≠ .query (.closure build)) :
      RefusesRow [c] (.misuse (.rowNotGroup c.describe))
  | head {o : Operand} {rest : List Comparand} (hhead : ∀ subject, ¬ HeadReads (.operand o) subject)
      (hrest : rest ≠ []) (hlength : rest.length < 4) :
      RefusesRow (.operand o :: rest) (.misuse (.notAColumn o.describe))
  | operator {head operator value : Comparand} {subject : Subject} {rest : List Comparand}
      (hhead : HeadReads head subject) (htext : ¬ operator.IsText) (hrest : rest.length < 2) :
      RefusesRow (head :: operator :: value :: rest)
        (.misuse (.rowPartNotText "operator" operator.describe))
  | connector {head value word : Comparand} {subject : Subject} {operator : String}
      (hhead : HeadReads head subject) (htext : ¬ word.IsText) :
      RefusesRow [head, .operand (.value (.text operator)), value, word]
        (.misuse (.rowPartNotText "boolean" word.describe))
  | word {head value : Comparand} {subject : Subject} {operator word : String} {why : Error}
      (hhead : HeadReads head subject) (hword : Connector.read word = .error why) :
      RefusesRow [head, .operand (.value (.text operator)), value,
        .operand (.value (.text word))] why

/-! ## Reading -/

theorem HeadReads.subject {head : Comparand} {subject : Subject} (h : HeadReads head subject) :
    head.subject = .ok subject := by
  cases h <;> rfl

/-- A head is read, or it is a value other than a text. -/
theorem headReads_or (head : Comparand) : (∃ subject, HeadReads head subject) ∨
    ∃ o, head = .operand o ∧ (∀ subject, ¬ HeadReads (.operand o) subject) ∧
      head.subject = .error (.misuse (.notAColumn o.describe)) := by
  cases head with
  | query s => exact .inl ⟨_, .query s⟩
  | operand o =>
    cases o with
    | raw sql => exact .inl ⟨_, .raw sql⟩
    | value v =>
      -- of values only a text names a column
      by_cases htext : ∃ s, v = .text s
      · obtain ⟨s, rfl⟩ := htext
        exact .inl ⟨_, .name s⟩
      · refine .inr ⟨_, rfl, ?_, ?_⟩
        · rintro subject ⟨⟩
          exact htext ⟨_, rfl⟩
        · cases v with
          | text s => exact absurd ⟨s, rfl⟩ htext
          | _ => rfl

/-- Where a row has to have a text, anything else is refused. -/
theorem Comparand.text_of_not_isText {c : Comparand} (h : ¬ c.IsText) (part : String) :
    c.text part = .error (.misuse (.rowPartNotText part c.describe)) := by
  unfold Comparand.text
  split
  · exact absurd ⟨_, rfl⟩ h
  · rfl

section Rows

variable (reading : Query.RowReading) (q : Query)

theorem addRow_two (head value : Comparand) : Query.addRow reading q [head, value] =
    head.subject >>= fun subject => reading q .and subject "=" value := by
  rw [Query.addRow]

theorem addRow_three (head operator value : Comparand) :
    Query.addRow reading q [head, operator, value] = head.subject >>= fun subject =>
      operator.text "operator" >>= fun operator => reading q .and subject operator value := by
  rw [Query.addRow]

theorem addRow_four (head operator value word : Comparand) :
    Query.addRow reading q [head, operator, value, word] = head.subject >>= fun subject =>
      operator.text "operator" >>= fun operator => word.text "boolean" >>= fun word =>
        Connector.read word >>= fun connector => reading q connector subject operator value := by
  rw [Query.addRow]

end Rows

/-- A row that is read as a call is that call. -/
theorem addRow_of_reads {row : List Comparand} {call : RowCall} (h : RowCall.Reads row call)
    (q : Query) : Query.addRow Query.compareRow q row = call.run q := by
  cases h with
  | nest build => rfl
  | two hhead value =>
    rw [addRow_two, hhead.subject]
    rfl
  | three hhead operator value =>
    rw [addRow_three, hhead.subject]
    rfl
  | @four head subject hhead operator value word connector hword =>
    simp only [addRow_four, hhead.subject, Comparand.text, hword, bind, Except.bind]
    rfl

/-- A row that is refused fails for its reason, whatever the query is. -/
theorem addRow_of_refuses {row : List Comparand} {why : Error} (h : RefusesRow row why)
    (q : Query) : Query.addRow Query.compareRow q row = .error why := by
  -- by the reason: each of them is found at its place, after all that is read before
  cases h with
  | length hlength =>
    match row, hlength with
    | [], _ => rfl
    | _ :: _ :: _ :: _ :: _ :: _, _ => rw [Query.addRow] <;> simp
  | @single c hnest =>
    rw [Query.addRow]
    intro build hclosure
    exact hnest build hclosure
  | @head o rest hhead hrest hlength =>
    obtain ⟨subject, hread⟩ | ⟨other, hother, -, hnone⟩ := headReads_or (.operand o)
    · exact absurd hread (hhead subject)
    · obtain rfl := Comparand.operand.inj hother
      match rest, hrest, hlength with
      | [_], _, _ => rw [addRow_two, hnone]; rfl
      | [_, _], _, _ => rw [addRow_three, hnone]; rfl
      | [_, _, _], _, _ => rw [addRow_four, hnone]; rfl
  | @operator head operator value subject rest hhead htext hrest =>
    match rest, hrest with
    | [], _ =>
      rw [addRow_three, hhead.subject]
      show (operator.text "operator" >>= _) = _
      rw [Comparand.text_of_not_isText htext]
      rfl
    | [_], _ =>
      rw [addRow_four, hhead.subject]
      show (operator.text "operator" >>= _) = _
      rw [Comparand.text_of_not_isText htext]
      rfl
  | @connector head value word subject operator hhead htext =>
    rw [addRow_four, hhead.subject]
    show (word.text "boolean" >>= _) = _
    rw [Comparand.text_of_not_isText htext]
    rfl
  | @word head value subject operator word why hhead hword =>
    simp only [addRow_four, hhead.subject, Comparand.text, hword, bind, Except.bind]

/-- Every row is read as a call or refused. -/
theorem reads_or_refuses (row : List Comparand) :
    (∃ call, RowCall.Reads row call) ∨ ∃ why, RefusesRow row why := by
  -- by the length of the row, and then element by element in the order of reading
  match row with
  | [] => exact .inr ⟨_, .length (.inl rfl)⟩
  | [c] =>
    by_cases hnest : ∃ build, c = .query (.closure build)
    · obtain ⟨build, rfl⟩ := hnest
      exact .inl ⟨_, .nest build⟩
    · exact .inr ⟨_, .single fun build hclosure => hnest ⟨build, hclosure⟩⟩
  | head :: second :: rest =>
    by_cases hlength : 2 < rest.length
    · exact .inr ⟨_, .length (.inr (Nat.add_lt_add_right hlength 2))⟩
    obtain ⟨subject, hhead⟩ | ⟨o, rfl, hnone, -⟩ := headReads_or head
    · match rest with
      | [] => exact .inl ⟨_, .two hhead second⟩
      | third :: rest =>
        by_cases htext : second.IsText
        · obtain ⟨operator, rfl⟩ := htext
          match rest with
          | [] => exact .inl ⟨_, .three hhead operator third⟩
          | [fourth] =>
            by_cases hboolean : fourth.IsText
            · obtain ⟨word, rfl⟩ := hboolean
              cases hword : Connector.read word with
              | ok connector => exact .inl ⟨_, .four hhead operator third hword⟩
              | error why => exact .inr ⟨_, .word hhead hword⟩
            · exact .inr ⟨_, .connector hhead hboolean⟩
          | _ :: _ :: _ => exact absurd (by simp) hlength
        · refine .inr ⟨_, .operator hhead htext ?_⟩
          rw [List.length_cons] at hlength
          omega
    · refine .inr ⟨_, .head hnone (List.cons_ne_nil _ _) ?_⟩
      rw [List.length_cons]
      omega

/-! ## Lists of rows -/

section Lists

variable {rows : List (List Comparand)} {calls : List RowCall}

/-- Rows that are all read are the chain of their calls. -/
theorem addRows_of_reads (h : List.Forall₂ RowCall.Reads rows calls) (q : Query) :
    rows.foldlM (Query.addRow Query.compareRow) q = chain calls q := by
  induction h generalizing q with
  | nil => rfl
  | cons hrow _ ih =>
    unfold chain
    rw [List.foldlM_cons, List.foldlM_cons, addRow_of_reads hrow]
    exact bind_congr ih

/-- The first row that is refused decides, unless a call before it fails. -/
theorem addRows_of_refuses (h : List.Forall₂ RowCall.Reads rows calls) {row : List Comparand}
    {why : Error} (hrow : RefusesRow row why) (after : List (List Comparand)) (q : Query) :
    (rows ++ row :: after).foldlM (Query.addRow Query.compareRow) q =
      chain calls q >>= fun _ => .error why := by
  rw [List.foldlM_append, addRows_of_reads h]
  refine bind_congr fun nested => ?_
  rw [List.foldlM_cons, addRow_of_refuses hrow]
  rfl

/-- Every list of rows is read to its end, or up to the first row that is refused. -/
theorem rows_cases (rows : List (List Comparand)) :
    (∃ calls, List.Forall₂ RowCall.Reads rows calls) ∨
    ∃ before row after calls why, rows = before ++ row :: after ∧
      List.Forall₂ RowCall.Reads before calls ∧ RefusesRow row why := by
  -- the first row is refused, or what is found in the others is found behind it
  induction rows with
  | nil => exact .inl ⟨[], .nil⟩
  | cons row rows ih =>
    obtain ⟨call, hrow⟩ | ⟨why, hrow⟩ := reads_or_refuses row
    · obtain ⟨calls, hrows⟩ | ⟨before, bad, after, calls, why, rfl, hbefore, hbad⟩ := ih
      · exact .inl ⟨call :: calls, .cons hrow hrows⟩
      · exact .inr ⟨row :: before, bad, after, call :: calls, why, rfl, .cons hrow hbefore, hbad⟩
    · exact .inr ⟨[], row, rows, [], why, rfl, .nil, hrow⟩

end Lists

namespace Query

variable (q : Query) (connector : Connector)

/-- Pairs are rows of two. -/
theorem wherePairs_eq_whereRows (pairs : List (String × Comparand)) :
    q.wherePairs connector pairs =
      q.whereRows connector (pairs.map fun pair => [.operand (.value (.text pair.1)), pair.2]) := by
  unfold wherePairs whereRows addRows
  rw [List.foldlM_map]
  refine congrArg (· >>= _) (congrArg (fun step => List.foldlM step q.freshOnSource pairs) ?_)
  funext nested pair
  exact (addRow_of_reads (.two (.name pair.1) pair.2) nested).symm

/-- A group without conditions is not added. -/
theorem addGroup_of_none {nested : Query} (h : nested.wheres = []) :
    q.addGroup connector nested = q := by
  unfold addGroup
  rw [h]
  rfl

/-- Nor is one that a closure leaves without conditions. -/
theorem group_of_none {build : Query → Except Error Query} {nested : Query}
    (hbuild : build q.freshOnSource = .ok nested) (hnone : nested.wheres = []) :
    q.group connector build = .ok q := by
  unfold group
  rw [hbuild]
  exact congrArg Except.ok (q.addGroup_of_none connector hnone)

end Query

/-- For every query and connector. Rows that are read as calls are the group that the chain of these
calls builds: conditions, values and errors. Behind rows that are read, the first that is refused
decides, unless the chain of the calls before it fails; and every list of rows is one of these.
Pairs are rows of two. No rows, no pairs and a group without conditions change nothing. -/
theorem shorthands_are_chains (q : Query) (connector : Connector) :
    (∀ rows calls, List.Forall₂ RowCall.Reads rows calls →
      q.whereRows connector rows = q.group connector (chain calls)) ∧
    (∀ before row after calls why, List.Forall₂ RowCall.Reads before calls → RefusesRow row why →
      q.whereRows connector (before ++ row :: after) =
        q.group connector fun nested => chain calls nested >>= fun _ => .error why) ∧
    (∀ rows, (∃ calls, List.Forall₂ RowCall.Reads rows calls) ∨
      ∃ before row after calls why, rows = before ++ row :: after ∧
        List.Forall₂ RowCall.Reads before calls ∧ RefusesRow row why) ∧
    (∀ pairs : List (String × Comparand), q.wherePairs connector pairs =
      q.whereRows connector (pairs.map fun pair => [.operand (.value (.text pair.1)), pair.2])) ∧
    q.whereRows connector [] = .ok q ∧ q.wherePairs connector [] = .ok q ∧
    (∀ nested : Query, nested.wheres = [] → q.addGroup connector nested = q) ∧
    (∀ build nested, build q.freshOnSource = .ok nested → nested.wheres = [] →
      q.group connector build = .ok q) := by
  refine ⟨fun rows calls hrows => ?_, fun before row after calls why hbefore hrow => ?_, rows_cases,
    q.wherePairs_eq_whereRows connector, ?_, ?_,
    fun nested hnone => q.addGroup_of_none connector hnone,
    fun build nested hbuild hnone => q.group_of_none connector hbuild hnone⟩
  · unfold Query.whereRows Query.addRows
    rw [addRows_of_reads hrows]
    rfl
  · unfold Query.whereRows Query.addRows
    rw [addRows_of_refuses hbefore hrow]
    rfl
  · exact q.group_of_none connector rfl rfl
  · exact q.group_of_none connector rfl rfl

/-- A name, an age and a role. -/
def namedOrAdmins : List (List Comparand) :=
  [[.value (.text "name"), .value (.text "John")],
    [.value (.text "age"), .value (.text ">"), .value (.ofInt 18)],
    [.value (.text "role"), .value (.text "="), .value (.text "admin"), .value (.text "OR")]]

/-- The same as calls. -/
def namedOrAdminCalls : List RowCall :=
  [.compare .and (.column (.name "name")) "=" (.value (.text "John")),
    .compare .and (.column (.name "age")) ">" (.value (.ofInt 18)),
    .compare .or (.column (.name "role")) "=" (.value (.text "admin"))]

/-- Three rows as one group, the same with a row that is too short behind them, and a group of
nothing. -/
theorem shorthands_are_chains_users :
    (Query.table {} "users").whereRows .andNot namedOrAdmins =
        (Query.table {} "users").group .andNot (chain namedOrAdminCalls) ∧
      (Query.table {} "users").whereRows .andNot (namedOrAdmins ++ [] :: namedOrAdmins) =
        (Query.table {} "users").group .andNot
          (fun nested => chain namedOrAdminCalls nested >>=
            fun _ => .error (.misuse (.rowLength 0))) ∧
      (Query.table {} "users").addGroup .andNot (Query.table {} "posts") = Query.table {} "users" ∧
      (Query.table {} "users").group .andNot (fun nested => .ok nested) =
        .ok (Query.table {} "users") := by
  have hrows : List.Forall₂ RowCall.Reads namedOrAdmins namedOrAdminCalls :=
    .cons (.two (.name "name") _) (.cons (.three (.name "age") ">" _)
      (.cons (.four (.name "role") "=" _ (by decide)) .nil))
  have hnone : RefusesRow [] (.misuse (.rowLength 0)) := .length (.inl rfl)
  obtain ⟨hread, hrefused, -, -, -, -, hempty, hgroup⟩ :=
    shorthands_are_chains (Query.table {} "users") .andNot
  exact ⟨hread _ _ hrows, hrefused _ _ _ _ _ hrows hnone, hempty _ rfl, hgroup _ _ rfl rfl⟩

end QueryBuilder
