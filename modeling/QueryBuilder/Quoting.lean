import QueryBuilder.Dialect
import QueryBuilder.Term

/-!
# Quoted names

The wrapping of identifiers, by the rules of §4.2 of the specification.

* `Dialect.quote`: one identifier between quotation marks, a mark inside it written twice.
* `splitAlias`: a name cut at its alias separator, blanks around the word `as`.
* `Dialect.quoteName`: a dotted name with an optional alias, each part quoted on its own.
-/

namespace QueryBuilder

/-! ## One identifier -/

/-- Every occurrence of `mark` written twice. -/
def doubleMark (mark : Char) : List Char → List Char
  | [] => []
  | c :: cs => if c = mark then c :: c :: doubleMark mark cs else c :: doubleMark mark cs

/-! ## The alias separator -/

/-- What follows the alias separator, the blanks in front of it already read. The word `as` is taken
in any case; the long s counts as an s. -/
def aliasAfter? (cs : List Char) : Option (List Char) :=
  match Text.dropBlanks cs with
  -- one blank behind the word belongs to the separator, and so do all that follow it
  | a :: s :: blank :: rest =>
    if (a = 'a' ∨ a = 'A') ∧ (s = 's' ∨ s = 'S' ∨ s.toNat = 0x17F) ∧ Text.isBlank blank then
      some (Text.dropBlanks rest)
    else none
  | _ => none

/-- A name cut at its first alias separator, if it has one (§4.2, a case-insensitive ` as `). -/
def splitAlias : List Char → Option (List Char × List Char)
  | [] => none
  | c :: cs =>
    -- the separator that starts first wins, so the text behind it is not searched
    match (if Text.isBlank c then aliasAfter? cs else none) with
    | some rest => some ([], rest)
    | none => (splitAlias cs).map fun (name, rest) => (c :: name, rest)

/-- A name is cut where its first character begins a separator, and otherwise behind that
character. -/
theorem splitAlias_cons (c : Char) (cs : List Char) :
    splitAlias (c :: cs) =
      match (if Text.isBlank c then aliasAfter? cs else none) with
      | some rest => some ([], rest)
      | none => (splitAlias cs).map fun (name, rest) => (c :: name, rest) := by
  -- only this equation is unfolded: the test for blanks is a long disjunction
  conv =>
    lhs
    unfold splitAlias

namespace Dialect

/-- One identifier between quotation marks. The star stands for all columns and stays bare (§4.2,
identifier wrapping). -/
def quoteChars (d : Dialect) (cs : List Char) : List Char :=
  if cs = ['*'] then cs
  else d.quoteMark :: doubleMark d.quoteMark cs ++ [d.quoteMark]

/-- One identifier between quotation marks. -/
def quote (d : Dialect) (s : String) : String :=
  String.ofList (d.quoteChars s.toList)

/-- The parts of a dotted name, each quoted. -/
def quoteDotted (d : Dialect) (name : List Char) : String :=
  Text.join "." ((Text.pieces '.' name).map fun part => String.ofList (d.quoteChars part))

/-- A name and its alias. -/
def quoteWithAlias (d : Dialect) (name rest : List Char) : String :=
  d.quoteDotted name ++ " as " ++ String.ofList (d.quoteChars rest)

/-- A name, dotted or not, with or without an alias (§4.2, identifier wrapping). -/
def quoteName (d : Dialect) (s : String) : String :=
  match splitAlias s.toList with
  | none => d.quoteDotted s.toList
  | some (name, rest) => d.quoteWithAlias name rest

/-- A name that is given an alias in any case, an empty one if it holds none. -/
def quoteAliased (d : Dialect) (s : String) : String :=
  match splitAlias s.toList with
  | none => d.quoteWithAlias s.toList []
  | some (name, rest) => d.quoteWithAlias name rest

/-- Parts of a dotted name; the first of several is a name in its own right. -/
def quoteSegments (d : Dialect) : List String → String
  | [] => ""
  | [part] => d.quote part
  | first :: rest => Text.join "." (d.quoteName first :: rest.map d.quote)

/-! ## Columns, sources and operands -/

/-- A column as it stands in a statement. -/
def column (d : Dialect) : Column → String
  | .name s => d.quoteName s
  | .raw sql => sql

/-- Several columns, between commas. -/
def columns (d : Dialect) (cs : List Column) : String :=
  Text.join ", " (cs.map d.column)

/-- A source as it stands in a statement. -/
def source (d : Dialect) : Source → String
  | .table s => d.quoteName s
  | .raw sql => sql

end Dialect

namespace Operand

/-- An operand as it stands in a statement: a placeholder for a value (§4.2, a dialect placeholder
token). -/
def sql : Operand → String
  | value _ => "?"
  | raw s => s

/-- Several operands, between commas. -/
def sqlList (os : List Operand) : String :=
  Text.join ", " (os.map sql)

end Operand

end QueryBuilder
