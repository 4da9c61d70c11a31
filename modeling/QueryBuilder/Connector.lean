import QueryBuilder.Error
import QueryBuilder.Text.Join
import QueryBuilder.Text.Blank

/-!
# Words of conditions and joins

The words that tie predicates and joins together (§3 of the specification).

* `Connector`: how a condition is tied to the one before it.
* `DatePart`: the parts of a date that a condition can compare.
* `JoinKind`: the kinds of join.
-/

namespace QueryBuilder

/-- How a condition is tied to the one before it (§3, predicate nodes). -/
inductive Connector where
  | and
  | andNot
  | or
  | orNot
  deriving DecidableEq, Repr

namespace Connector

/-- The SQL words of a connector. -/
def sql : Connector → String
  | and => "and"
  | andNot => "and not"
  | or => "or"
  | orNot => "or not"

/-- The connector whose condition is negated; one that negates already is kept. -/
def negated : Connector → Connector
  | and => andNot
  | andNot => andNot
  | or => orNot
  | orNot => orNot

/-- Reads a connector without regard to blanks around it and to the case of its letters. -/
def read (text : String) : Except Error Connector :=
  match Text.lowerAscii (Text.trim text) with
  | "and" => .ok and
  | "and not" => .ok andNot
  | "or" => .ok or
  | "or not" => .ok orNot
  | other => .error (.misuse (.unknownConnector other))

end Connector

/-- A part of a date (§3, `DateBasedPart`). -/
inductive DatePart where
  | date
  | time
  | day
  | month
  | year
  deriving DecidableEq, Repr

namespace DatePart

/-- The SQL function that takes the part out of a date. -/
def sql : DatePart → String
  | date => "date"
  | time => "time"
  | day => "day"
  | month => "month"
  | year => "year"

/-- The format under which the part is written by a formatting function (§10.2, `strftime`). -/
def format : DatePart → String
  | date => "%Y-%m-%d"
  | time => "%H:%M:%S"
  | day => "%d"
  | month => "%m"
  | year => "%Y"

/-- The part is written in two digits (§10.2, days and months). -/
def isPadded : DatePart → Bool
  | day => true
  | month => true
  | _ => false

end DatePart

/-- A kind of join (§3, `joins`). -/
inductive JoinKind where
  | inner
  | left
  | right
  | cross
  deriving DecidableEq, Repr

/-- The SQL word for a kind of join. -/
def JoinKind.sql : JoinKind → String
  | inner => "inner"
  | left => "left"
  | right => "right"
  | cross => "cross"

end QueryBuilder
