import QueryBuilder.Number.Text

/-!
# Dates and times as texts

The operands of conditions on dates, and the timestamps of repositories (§10.1 of the
specification).

* `Date.text`: year, month and day. Years that do not have four digits carry a sign.
* `Time.text`: hours, minutes and seconds.
* `Moment.text`: a date and a time of day.
-/

namespace QueryBuilder

/-- A day of the calendar. -/
structure Date where
  year : Int
  month : Nat
  day : Nat
  deriving DecidableEq, Repr

/-- A time of day. -/
structure Time where
  hour : Nat
  minute : Nat
  second : Nat
  deriving DecidableEq, Repr

/-- A day and a time of day. -/
structure Moment where
  date : Date
  time : Time
  deriving DecidableEq, Repr

/-- A number in at least so many digits. -/
def zeroFilled (width n : Nat) : String :=
  let digits := Nat.toDigits 10 n
  String.ofList (List.replicate (width - digits.length) '0' ++ digits)

/-- A year in four digits; outside their range it carries a sign. -/
def yearText (year : Int) : String :=
  (if year < 0 then "-" else if 9999 < year then "+" else "") ++ zeroFilled 4 year.natAbs

/-- The text of a day. -/
def Date.text (d : Date) : String :=
  yearText d.year ++ "-" ++ zeroFilled 2 d.month ++ "-" ++ zeroFilled 2 d.day

/-- The text of a time of day. -/
def Time.text (t : Time) : String :=
  zeroFilled 2 t.hour ++ ":" ++ zeroFilled 2 t.minute ++ ":" ++ zeroFilled 2 t.second

/-- The text of a moment. -/
def Moment.text (m : Moment) : String :=
  m.date.text ++ " " ++ m.time.text

end QueryBuilder
