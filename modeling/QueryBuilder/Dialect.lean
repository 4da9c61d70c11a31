import QueryBuilder.Config

/-!
# Dialects and connections

What differs between the dialects of §10.2 of the specification, and what all queries of one
connection share.

* `Dialect`: the ways of writing SQL that the library knows.
* `Dialect.knows`: which comparison operators a dialect accepts.
* `Connection`: what a query lives in: a dialect, its conventions, and whether statements can be
  run.
-/

namespace QueryBuilder

/-- A way of writing SQL (§10.2, dialects). -/
inductive Dialect where
  | mysql
  | sqlite
  /-- No extensions: only what the others share. -/
  | plain
  deriving DecidableEq, Repr

namespace Dialect

/-- The name of a dialect. -/
def name : Dialect → String
  | mysql => "mysql"
  | sqlite => "sqlite"
  | plain => "plain"

/-- The character on both sides of a quoted identifier. -/
def quoteMark : Dialect → Char
  | sqlite => '"'
  | _ => '\x60'

/-- The operators that every dialect accepts (§4.1 and §7, unsupported operators). -/
def sharedOperators : List String :=
  ["=", "<", ">", "<=", ">=", "<>", "!=", "<=>", "like", "like binary", "not like", "ilike", "&",
    "|", "^", "<<", ">>", "rlike", "not rlike", "regexp", "not regexp", "~", "~*", "!~", "!~*",
    "similar to", "not similar to", "not ilike", "~~*", "!~~*"]

/-- The operators that one dialect accepts beyond the shared ones. -/
def ownOperators : Dialect → List String
  | mysql => ["sounds like"]
  | _ => []

/-- The dialect accepts the operator, letter for letter. -/
def knows (d : Dialect) (operator : String) : Bool :=
  sharedOperators.contains operator || d.ownOperators.contains operator

/-- A call for random order. Only one dialect takes a seed (§6, random ordering; §10.2). -/
def random (d : Dialect) (seed : String) : String :=
  match d with
  | mysql => "rand(" ++ seed ++ ")"
  | sqlite => "random()"
  | plain => "RANDOM()"

/-- An expression, or a default when it is null. -/
def ifNull (d : Dialect) (expression default : String) : String :=
  match d with
  | mysql => "ifnull(" ++ expression ++ ", " ++ default ++ ")"
  | _ => "coalesce(" ++ expression ++ ", " ++ default ++ ")"

end Dialect

/-- The environment that a query lives in (§10.1, `Connection`). -/
structure Connection where
  dialect : Dialect := .mysql
  config : Config := {}
  /-- An executor is attached, so that statements can be run. -/
  attached : Bool := false
  deriving DecidableEq, Repr

end QueryBuilder
