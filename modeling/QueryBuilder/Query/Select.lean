import QueryBuilder.Query.Basic
import QueryBuilder.Quoting

/-!
# The text of a select

The compiler of §4.2 of the specification. Each clause has a function for its text; `Query.body`
puts them together. Every function takes the dialect it writes in, so that a nested query is
written in the dialect of the query around it.

* `Query.textIn`: the text of a query in a dialect. `Query.sql`: in its own.
* `dropConnector`: a list of conditions without the connector it starts with.
* `Query.describe`: a query as messages show it.
-/

namespace QueryBuilder

/-! ## Pieces -/

/-- A character list without the word and the space it starts with, in any case of letters. -/
def dropWord (word : List Char) (cs : List Char) : Option (List Char) :=
  if (cs.take word.length).map Char.toLower = word then some (cs.drop word.length) else none

/-- A text without the connector in front: `and` or `or` with one space (§4.2, the leading keyword
is stripped). -/
def dropConnector (s : String) : String :=
  match dropWord ['a', 'n', 'd', ' '] s.toList with
  | some rest => String.ofList rest
  | none =>
    match dropWord ['o', 'r', ' '] s.toList with
    | some rest => String.ofList rest
    | none => s

/-- The fragments that are not empty, with a space between neighbours (§4.2, single spaces). -/
def concatenate (fragments : List String) : String :=
  Text.join " " (fragments.filter (· ≠ ""))

/-- A keyword and its text; nothing if there is no text. -/
def keyword (word text : String) : String :=
  if text = "" then "" else word ++ " " ++ text

/-- `not between` or `between`. -/
def betweenWord (negated : Bool) : String :=
  if negated then "not between" else "between"

namespace Dialect

/-- The selection of an aggregate (§4.2, the aggregate component). -/
def aggregateText (d : Dialect) (distinct : Bool) (a : Aggregate) : String :=
  let columns := d.columns a.columns
  let columns := if distinct && columns != "*" then "distinct " ++ columns else columns
  "select " ++ a.function ++ "(" ++ columns ++ ") as aggregate"

/-- The selected columns; all of them if none is named (§3, empty means all columns). -/
def columnsText (d : Dialect) (distinct : Bool) (columns : List Column) : String :=
  (if distinct then "select distinct " else "select ") ++
    d.columns (if columns.isEmpty then [Column.star] else columns)

/-- What is selected: an aggregate takes the place of the columns. -/
def selectionText (d : Dialect) (aggregate : Option Aggregate) (distinct : Bool)
    (columns : List Column) : String :=
  match aggregate with
  | some a => d.aggregateText distinct a
  | none => d.columnsText distinct columns

/-- The source clause. -/
def sourceText (d : Dialect) : Option Source → String
  | some s => "from " ++ d.source s
  | none => ""

/-- The group clause. -/
def groupsText (d : Dialect) (groups : List Column) : String :=
  if groups.isEmpty then "" else "group by " ++ d.columns groups

/-- One entry of an ordering. -/
def sortKeyText (d : Dialect) : SortKey → String
  | .column c direction => d.column c ++ " " ++ direction.sql
  | .raw sql => sql

/-- The ordering clause. -/
def ordersText (d : Dialect) (orders : List SortKey) : String :=
  if orders.isEmpty then "" else "order by " ++ Text.join ", " (orders.map d.sortKeyText)

/-- How many rows are kept. -/
def limitText : Option Nat → String
  | some n => "limit " ++ toString n
  | none => ""

/-- How many rows are passed over. -/
def offsetText : Option Nat → String
  | some n => "offset " ++ toString n
  | none => ""

/-- A comparison of a part of a date. One dialect formats the date and compares texts (§10.2,
`strftime`). -/
def datePartText (d : Dialect) (part : DatePart) (column : Column) (operator : String)
    (value : Operand) : String :=
  match d with
  | sqlite =>
    "strftime('" ++ part.format ++ "', " ++ d.column column ++ ") " ++ operator ++ " cast(" ++
      value.sql ++ " as text)"
  | _ => part.sql ++ "(" ++ d.column column ++ ") " ++ operator ++ " " ++ value.sql

/-- An `in` condition. Without candidates it holds never, and its negation always (§8, empty
candidate lists). -/
def isInText (d : Dialect) (negated : Bool) (column : Column) (candidates : List Operand) :
    String :=
  if candidates.isEmpty then (if negated then "1 = 1" else "0 = 1")
  else
    d.column column ++ (if negated then " not in (" else " in (") ++ Operand.sqlList candidates ++
      ")"

/-- A select of a single table or join, clause by clause (§4.2, the order of the components). -/
def baseText (d : Dialect) (aggregate : Option Aggregate) (columns : List Column) (distinct : Bool)
    (source : Option Source) (joins wheres : String) (groups : List Column) (havings : String)
    (tail : Tail) : String :=
  concatenate
    [d.selectionText aggregate distinct columns, d.sourceText source, joins, keyword "where" wheres,
      d.groupsText groups, keyword "having" havings, d.ordersText tail.orders, limitText tail.limit,
      offsetText tail.offset]

/-- A select of a union, in parentheses. -/
def parenthesized (sql : String) : String :=
  "(" ++ sql ++ ")"

/-- What follows the first select of a union: the other selects, then orderings and window of all
(§4.2, unions). -/
def unionsText (d : Dialect) (unions : List String) (tail : Tail) : String :=
  concatenate (unions ++ [d.ordersText tail.orders, limitText tail.limit, offsetText tail.offset])

/-- A query with its aggregate in place. Over a union the aggregate selects from the whole union
(§4.2, a derived table over unions). -/
def withAggregate (d : Dialect) (aggregate : Option Aggregate) (distinct isUnion : Bool)
    (body : Option Aggregate → String) : String :=
  match aggregate, isUnion with
  -- the union is written as a whole and read as a table
  | some a, true =>
    d.aggregateText distinct a ++ " from (" ++ body none ++ ") as " ++ d.quoteName "temp_table"
  | aggregate, _ => body aggregate

end Dialect

/-! ## Trees -/

/-- A query's text from its body: its own aggregate is put in place. -/
def Dialect.finish (d : Dialect) (q : Query) (body : Option Aggregate → String) : String :=
  d.withAggregate q.aggregate q.distinct q.isUnion body

mutual

/-- The text of a query, with the given aggregate in the place of its own (§4.2,
`compileSelect`). -/
def Query.body (d : Dialect) : Query → Option Aggregate → String
  | { connection := _, aggregate := _, columns, distinct, source, joins, wheres, groups, havings,
      tail, unions, unionTail, eagerLoads := _, bindings := _ }, aggregate =>
    let base :=
      d.baseText aggregate columns distinct source (Text.join " " (joinTexts d joins))
        (dropConnector (Text.join " " (conditionTexts d wheres))) groups
        (dropConnector (Text.join " " (conditionTexts d havings))) tail
    if unions.isEmpty then base
    else Dialect.parenthesized base ++ " " ++ d.unionsText (unionTexts d unions) unionTail

/-- The texts of conditions, each with its connector. -/
def conditionTexts (d : Dialect) : List Condition → List String
  | [] => []
  | ⟨connector, predicate⟩ :: rest =>
    (connector.sql ++ " " ++ predicateText d predicate) :: conditionTexts d rest

/-- The text of a predicate. -/
def predicateText (d : Dialect) : Predicate → String
  | .compare column operator value => d.column column ++ " " ++ operator ++ " " ++ value.sql
  | .compareColumns first operator second =>
    d.column first ++ " " ++ operator ++ " " ++ d.column second
  | .isNull negated column => d.column column ++ (if negated then " is not null" else " is null")
  | .raw sql => sql
  | .isIn negated column candidates => d.isInText negated column candidates
  | .between negated column low high =>
    d.column column ++ " " ++ betweenWord negated ++ " " ++ low.sql ++ " and " ++ high.sql
  | .betweenColumns negated column low high =>
    d.column column ++ " " ++ betweenWord negated ++ " " ++ d.column low ++ " and " ++ d.column high
  | .datePart part column operator value => d.datePartText part column operator value
  | .group conditions => "(" ++ dropConnector (Text.join " " (conditionTexts d conditions)) ++ ")"
  | .compareQuery column operator query =>
    d.column column ++ " " ++ operator ++ " (" ++ d.finish query (Query.body d query) ++ ")"
  | .exists negated query =>
    (if negated then "not exists (" else "exists (") ++ d.finish query (Query.body d query) ++ ")"

/-- The texts of joins. Joins inside a join stand in parentheses with its source. -/
def joinTexts (d : Dialect) : List Join → List String
  | [] => []
  | ⟨kind, source, conditions, joins⟩ :: rest =>
    let source :=
      if joins.isEmpty then d.source source
      else "(" ++ d.source source ++ " " ++ Text.join " " (joinTexts d joins) ++ ")"
    let conditions := dropConnector (Text.join " " (conditionTexts d conditions))
    Text.trim (kind.sql ++ " join " ++ source ++ " " ++ keyword "on" conditions) :: joinTexts d rest

/-- The texts of the further queries of a union. -/
def unionTexts (d : Dialect) : List Union → List String
  | [] => []
  | ⟨all, query⟩ :: rest =>
    ((if all then "union all " else "union ") ++
      Dialect.parenthesized (d.finish query (Query.body d query))) :: unionTexts d rest

end

/-- The text of a list of conditions, without the connector of the first (§4.2, wheres and
havings). -/
def conditionsText (d : Dialect) (conditions : List Condition) : String :=
  dropConnector (Text.join " " (conditionTexts d conditions))

/-- The text of a list of joins. -/
def joinsText (d : Dialect) (joins : List Join) : String :=
  Text.join " " (joinTexts d joins)

namespace Query

/-- The text of a query in a dialect (§4.2). -/
def textIn (q : Query) (d : Dialect) : String :=
  d.finish q (q.body d)

/-- The text of a query in its own dialect. -/
def sql (q : Query) : String :=
  q.textIn q.dialect

/-- The text of a query that tells whether the query has a row (§6, `executeScalarMap`). -/
def existsSql (q : Query) : String :=
  "select exists(" ++ q.sql ++ ") as " ++ q.dialect.quote "exists"

/-- A list of texts as messages show it. -/
def describeList (items : List String) : String :=
  "[" ++ Text.join ", " items ++ "]"

/-- A query as messages show it: its text, its values and the names of its relations. -/
def describe (q : Query) : String :=
  let buckets := Clause.all.map fun c => describeList ((q.bindings.get c).map Value.describe)
  "Builder \x7b sql: " ++ Text.describe q.sql ++ ", bindings: Bindings \x7b buckets: " ++
    describeList buckets ++ " \x7d, eager_loads: " ++
    describeList (q.eagerLoads.map fun load => Text.describe load.1) ++ " \x7d"

end Query

end QueryBuilder
