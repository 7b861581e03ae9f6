import CloudProvider.Text.Digits

/-!
# Calendar dates

* `Date.ofDays`: the date so many days after 1 January 1970, in the Gregorian calendar.
* `Date.text`: a date as year, month and day.
-/

namespace CloudProvider

/-- A date of the Gregorian calendar. -/
structure Date where
  year : Int
  month : Nat
  day : Nat
  deriving DecidableEq, Repr

namespace Date

/-- The date so many days after 1 January 1970. Years are counted from March on, so that a leap day
is the last day of a year; 400 of them have 146097 days. -/
def ofDays (days : Int) : Date :=
  let shifted := days + 719468
  let era := shifted.fdiv 146097
  let dayOfEra := (shifted.fmod 146097).toNat
  let yearOfEra :=
    (dayOfEra - dayOfEra / 1460 + dayOfEra / 36524 - dayOfEra / 146096) / 365
  let dayOfYear := dayOfEra - (365 * yearOfEra + yearOfEra / 4 - yearOfEra / 100)
  let monthFromMarch := (5 * dayOfYear + 2) / 153
  let month := if monthFromMarch < 10 then monthFromMarch + 3 else monthFromMarch - 9
  { year := yearOfEra + 400 * era + (if month ≤ 2 then 1 else 0)
    month
    day := dayOfYear - (153 * monthFromMarch + 2) / 5 + 1 }

/-- The date at so many seconds after the start of 1 January 1970. -/
def ofSeconds (seconds : Int) : Date := ofDays (seconds.fdiv 86400)

/-- A date as year, month and day, with four digits for the year. -/
def text (d : Date) : String :=
  let year := toString d.year
  let zeros := String.ofList (List.replicate (4 - year.length) '0')
  s!"{zeros}{year}-{Text.twoDigits d.month}-{Text.twoDigits d.day}"

end Date

end CloudProvider
