/-!
Moments of the calendar, as they are shown to readers and in documents.
-/

namespace Metasearch.Command

/-- A moment in universal time: seconds since the beginning of 1970, and nanoseconds. -/
structure Moment where
  seconds : Nat
  nanos : Nat

/-- A date: year, month and day. -/
structure Date where
  year : Nat
  month : Nat
  day : Nat
deriving DecidableEq, Repr

/-- The date of a day, counted from the beginning of 1970. Years are counted from March on, so that the
leap day is the last of its year; four hundred of them have 146097 days. -/
def Date.ofDay (day : Nat) : Date :=
  let shifted := day + 719468
  let era := shifted / 146097
  let dayOfEra := shifted % 146097
  let yearOfEra := (dayOfEra - dayOfEra / 1460 + dayOfEra / 36524 - dayOfEra / 146096) / 365
  let dayOfYear := dayOfEra - (365 * yearOfEra + yearOfEra / 4 - yearOfEra / 100)
  let monthFromMarch := (5 * dayOfYear + 2) / 153
  let month := if monthFromMarch < 10 then monthFromMarch + 3 else monthFromMarch - 9
  { year := 400 * era + yearOfEra + (if month ≤ 2 then 1 else 0)
    month
    day := dayOfYear - (153 * monthFromMarch + 2) / 5 + 1 }

/-- A number with leading zeros. -/
def padded (width n : Nat) : String :=
  let digits := toString n
  String.ofList (List.replicate (width - digits.length) '0') ++ digits

namespace Moment

def dateText (moment : Moment) : String :=
  let date := Date.ofDay (moment.seconds / 86400)
  "-".intercalate [padded 4 date.year, padded 2 date.month, padded 2 date.day]

def timeText (moment : Moment) : String :=
  let second := moment.seconds % 86400
  ":".intercalate [padded 2 (second / 3600), padded 2 (second / 60 % 60), padded 2 (second % 60)]

/-- The fraction of a second in thousandths, millionths or billionths, whichever is exact; none if there
is no fraction. -/
def fractionText (moment : Moment) : String :=
  if moment.nanos = 0 then ""
  else if moment.nanos % 1000000 = 0 then "." ++ padded 3 (moment.nanos / 1000000)
  else if moment.nanos % 1000 = 0 then "." ++ padded 6 (moment.nanos / 1000)
  else "." ++ padded 9 moment.nanos

/-- How a moment is shown to a reader. -/
def readerText (moment : Moment) : String :=
  moment.dateText ++ " " ++ moment.timeText ++ " UTC"

/-- How a moment is written in a document. -/
def documentText (moment : Moment) : String :=
  moment.dateText ++ "T" ++ moment.timeText ++ moment.fractionText ++ "Z"

end Moment

end Metasearch.Command
