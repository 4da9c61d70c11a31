/-!
# Joining and cutting texts

Pieces of text that the compiler of §4.2 of the specification is made of.

* `join`: texts with a separator between neighbours.
* `pieces`: a character list cut at every occurrence of one character; never empty.
* `lowerAscii`: the ASCII capitals made small, all else kept.
* `afterLast`: what follows the last occurrence of a word, the word read without regard to the case
  of ASCII letters.
-/

namespace QueryBuilder.Text

/-- Texts one after the other, with `separator` between neighbours. -/
def join (separator : String) : List String → String
  | [] => ""
  | [s] => s
  | s :: rest => s ++ separator ++ join separator rest

@[simp] theorem join_nil (separator : String) : join separator [] = "" := rfl

@[simp] theorem join_singleton (separator s : String) : join separator [s] = s := rfl

@[simp] theorem join_cons_cons (separator s t : String) (rest : List String) :
    join separator (s :: t :: rest) = s ++ separator ++ join separator (t :: rest) := rfl

/-- The pieces of a character list between the occurrences of `mark`. -/
def pieces (mark : Char) : List Char → List (List Char)
  | [] => [[]]
  | c :: cs =>
    if c = mark then [] :: pieces mark cs
    else
      match pieces mark cs with
      | [] => [[c]]
      | piece :: pieces => (c :: piece) :: pieces

/-- Cutting leaves at least one piece, be it empty. -/
theorem pieces_ne_nil (mark : Char) (cs : List Char) : pieces mark cs ≠ [] := by
  cases cs with
  | nil => simp [pieces]
  | cons c cs => simp only [pieces]; split <;> (try split) <;> simp

/-- A text with its ASCII capitals made small. -/
def lowerAscii (s : String) : String :=
  String.ofList (s.toList.map Char.toLower)

/-- What follows the last place in a character list where the next characters, made small, are
`word`; nothing when there is no such place (§10.1, ` as ` in any case). -/
def afterLast (word : List Char) : List Char → Option (List Char)
  | [] => none
  | c :: cs =>
    match afterLast word cs with
    | some rest => some rest
    | none =>
      if word = ((c :: cs).take word.length).map Char.toLower then
        some ((c :: cs).drop word.length)
      else none

/-- What follows the last occurrence of `word`, letter for letter. -/
def afterLastExact (word : List Char) : List Char → Option (List Char)
  | [] => none
  | c :: cs =>
    match afterLastExact word cs with
    | some rest => some rest
    | none => if word.isPrefixOf (c :: cs) then some ((c :: cs).drop word.length) else none

/-- A text widened to two characters with zeros in front (§10.2, days and months). -/
def padTwo (s : String) : String :=
  match s.toList with
  | [] => "00"
  | [c] => String.ofList ['0', c]
  | _ => s

end QueryBuilder.Text
