/-
# Dates and times

A date is written with four digits for the year and two each for month and day,
a time of day with two digits each for hour, minute and second and then the
fraction of the second, without zeros at its end. A moment is a number of
nanoseconds since the start of 1970.

Key definitions: `Text.dateText`, `Text.timeText`, `Text.momentText`.
-/
namespace PageFlow
namespace Text

-- Powers are those of the core library, whatever else is imported.
attribute [local instance (2000)] instPowNat

/-- A number in at least `width` digits. -/
def padded (width n : Nat) : String :=
  let ds := Nat.toDigits 10 n
  String.ofList (List.replicate (width - ds.length) '0' ++ ds)

/-- The text of a date. -/
def dateText (year month day : Nat) : String :=
  padded 4 year ++ "-" ++ padded 2 month ++ "-" ++ padded 2 day

/-- The fraction of a second with the given digits: nine at most. -/
def secondFraction (digits : List Char) : String :=
  let kept := ((digits.take 9).reverse.dropWhile (· == '0')).reverse
  if kept.isEmpty then "" else String.ofList ('.' :: kept)

/-- The text of a time of day. -/
def timeText (hour minute second : Nat) (digits : List Char) : String :=
  padded 2 hour ++ ":" ++ padded 2 minute ++ ":" ++ padded 2 second ++ secondFraction digits

/-- The date with a number of days since the start of March of the year zero.
Years are counted from March, so that a leap day is the last day of its year;
400 years have 146097 days, and five months from March on have 153. -/
def dateOfDay (day : Nat) : String :=
  let inCycle := day % 146097
  let year := (inCycle - inCycle / 1460 + inCycle / 36524 - inCycle / 146096) / 365
  let inYear := inCycle - (365 * year + year / 4 - year / 100)
  let month := (5 * inYear + 2) / 153
  let years := 400 * (day / 146097) + year
  dateText (if month < 10 then years else years + 1)
    (if month < 10 then month + 3 else month - 9) (inYear - (153 * month + 2) / 5 + 1)

/-- The days from the start of March of the year zero to the start of 1970. -/
def daysBefore1970 : Nat := 719468

/-- The text of a moment in universal time. -/
def momentText (nanoseconds : Nat) : String :=
  let seconds := nanoseconds / 10 ^ (9 : Nat)
  let inDay := seconds % 86400
  dateOfDay (daysBefore1970 + seconds / 86400) ++ "T" ++
    timeText (inDay / 3600) (inDay / 60 % 60) (inDay % 60)
      (padded 9 (nanoseconds % 10 ^ (9 : Nat))).toList ++ "Z"

end Text
end PageFlow
