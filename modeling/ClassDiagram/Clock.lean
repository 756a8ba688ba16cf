namespace ClassDiagram.Clock

/-- The year, month and day that is a number of days after the first of March of the year zero. A year is
counted from March on, so that the leap day comes last. -/
def dateOfDays (days : Nat) : Nat × Nat × Nat :=
  let era := days / 146097
  let dayOfEra := days % 146097
  let yearOfEra := (dayOfEra - dayOfEra / 1460 + dayOfEra / 36524 - dayOfEra / 146096) / 365
  let dayOfYear := dayOfEra - (365 * yearOfEra + yearOfEra / 4 - yearOfEra / 100)
  let monthFromMarch := (5 * dayOfYear + 2) / 153
  let day := dayOfYear - (153 * monthFromMarch + 2) / 5 + 1
  let month := if monthFromMarch < 10 then monthFromMarch + 3 else monthFromMarch - 9
  let year := 400 * era + yearOfEra + (if month ≤ 2 then 1 else 0)
  (year, month, day)

/-- A number with at least `width` digits. -/
def padded (width n : Nat) : String :=
  let digits := toString n
  String.ofList (List.replicate (width - digits.length) '0') ++ digits

/-- The days from the first of March of the year zero to the first of January 1970. -/
def epochDays : Nat := 719468

/-- The text of a time that is given in seconds since the first of January 1970, and thousandths. The date is
one of the Gregorian calendar. -/
def text (seconds milliseconds : Nat) : String :=
  let (year, month, day) := dateOfDays (seconds / 86400 + epochDays)
  let rest := seconds % 86400
  padded 4 year ++ "-" ++ padded 2 month ++ "-" ++ padded 2 day ++ " " ++ padded 2 (rest / 3600) ++ ":"
    ++ padded 2 (rest / 60 % 60) ++ ":" ++ padded 2 (rest % 60) ++ "," ++ padded 3 milliseconds

/-- A date and a time, written out. -/
example : text 1704164645 678 = "2024-01-02 03:04:05,678" := by decide +kernel

end ClassDiagram.Clock
