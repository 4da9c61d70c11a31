/-!
# What can go wrong

The kinds of errors of §7 of the specification, with their wording.

* `Misuse`: an argument that a query cannot take, and why.
* `Error`: every cause for which building, writing or running a query fails.
* `Error.message`: the one place where the wording stands.
-/

namespace QueryBuilder

/-- Why an argument is refused. Offending values are kept as they are shown (§7,
`InvalidArgument`). -/
inductive Misuse where
  /-- The dialect does not know the operator. -/
  | illegalOperator (operator : String)
  /-- The text names no connector. -/
  | unknownConnector (text : String)
  /-- The text names no direction. -/
  | unknownDirection
  /-- The value stands where a column has to. -/
  | notAColumn (shown : String)
  /-- A named part of a condition row is not a text. -/
  | rowPartNotText (part shown : String)
  /-- A condition row of one element does not hold a group. -/
  | rowNotGroup (shown : String)
  /-- A condition row has too few or too many elements. -/
  | rowLength (count : Nat)
  /-- A comparison of columns has something else on its left. -/
  | columnExpected
  /-- There is no table to write to. -/
  | noTable
  /-- A column cannot be stepped by what is no number. -/
  | notNumeric
  /-- A callback refused what it was shown. -/
  | refused (reason : String)
  deriving DecidableEq, Repr

/-- Why an operation fails (§7 and §10.1, error handling). -/
inductive Error where
  | misuse (why : Misuse)
  /-- The text names no clause that holds parameter values. -/
  | unknownClause (text : String)
  /-- Raw SQL stands where a query is needed. -/
  | subqueryExpected
  /-- Reading in windows needs an ordering. -/
  | orderRequired
  /-- The last row of a window has no value to continue from. -/
  | missingCursor (field : String)
  | recordNotFound
  | multipleRecords (count : Nat)
  /-- No operator is the complement of this one. -/
  | noInverse (operator : String)
  /-- The dialect has no such statement. -/
  | unsupported (statement : String)
  /-- No executor is attached to the connection. -/
  | noExecutor
  /-- The executor failed. -/
  | execution (reason : String)
  deriving DecidableEq, Repr

namespace Misuse

/-- The wording of a refusal. -/
def message : Misuse → String
  | illegalOperator operator => "Illegal operator '" ++ operator ++ "'."
  | unknownConnector text => "Unknown boolean connector '" ++ text ++ "'."
  | unknownDirection => "Order direction must be \"asc\" or \"desc\"."
  | notAColumn shown => shown ++ " cannot be used as a column."
  | rowPartNotText part shown =>
    "The " ++ part ++ " of a where row must be a string, got " ++ shown ++ "."
  | rowNotGroup shown => "A single-element where row must be a closure, got " ++ shown ++ "."
  | rowLength count => "Invalid where parameters count " ++ toString count ++ "."
  | columnExpected => "Column comparisons need a column on the left."
  | noTable => "The query has no table to write to."
  | notNumeric => "Non-numeric value passed to increment method."
  | refused reason => reason

end Misuse

namespace Error

/-- The wording of an error. -/
def message : Error → String
  | misuse why => "Invalid argument: " ++ why.message
  | unknownClause text => "Invalid binding type: " ++ text
  | subqueryExpected => "A subquery must be a query builder instance, a closure, or a string"
  | orderRequired => "You must specify an order by clause when using this function"
  | missingCursor field =>
    "The chunk by id operation was aborted because the [" ++ field ++
      "] column is not present in the query result"
  | recordNotFound => "No records found"
  | multipleRecords count => toString count ++ " records were found"
  | noInverse operator => "Operator '" ++ operator ++ "' has no inverse"
  | unsupported statement => statement ++ " is not implemented by this grammar"
  | noExecutor => "No statement executor is attached to this query"
  | execution reason => "Statement execution failed: " ++ reason

end Error

end QueryBuilder
