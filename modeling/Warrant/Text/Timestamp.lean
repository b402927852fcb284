/-! Seconds since the start of 1970 as a UTC date and time, `2019-12-04T09:46:41Z`.
Years are those of the Gregorian calendar without end in either direction; from year 10000 on they
carry a plus sign. -/

namespace Warrant.Text

/-- A day of the calendar. -/
structure Day where
  year : Nat
  month : Nat
  day : Nat
  deriving Repr, DecidableEq

/-- The day that many days after the first of January 1970.
Days are counted from the first of March of the year 0, so that a leap day is the last of its
year and the months from March on follow one pattern of lengths, 153 days to five. -/
def Day.ofDays (days : Nat) : Day :=
  let shifted := days + 719468
  let era := shifted / 146097
  let dayOfEra := shifted % 146097
  let yearOfEra := (dayOfEra - dayOfEra / 1460 + dayOfEra / 36524 - dayOfEra / 146096) / 365
  let dayOfYear := dayOfEra - (365 * yearOfEra + yearOfEra / 4 - yearOfEra / 100)
  let shiftedMonth := (5 * dayOfYear + 2) / 153
  let month := if shiftedMonth < 10 then shiftedMonth + 3 else shiftedMonth - 9
  { year := era * 400 + yearOfEra + (if month ≤ 2 then 1 else 0)
    month
    day := dayOfYear - (153 * shiftedMonth + 2) / 5 + 1 }

/-- A number with zeros in front up to a width. -/
def padded (width n : Nat) : String :=
  let digits := Nat.toDigits 10 n
  .ofList (List.replicate (width - digits.length) '0' ++ digits)

/-- The last second of the year 262142, the latest that is written as a date. -/
def lastSecond : Nat := 8210266876799

/-- A later moment is written as its bare number of seconds. -/
def timestamp (seconds : Nat) : String :=
  if lastSecond < seconds then toString seconds
  else
    let { year, month, day } := Day.ofDays (seconds / 86400)
    let ofDay := seconds % 86400
    let sign := if 9999 < year then "+" else ""
    sign ++ padded 4 year ++ "-" ++ padded 2 month ++ "-" ++ padded 2 day ++ "T" ++
      padded 2 (ofDay / 3600) ++ ":" ++ padded 2 (ofDay / 60 % 60) ++ ":" ++
      padded 2 (ofDay % 60) ++ "Z"

end Warrant.Text
