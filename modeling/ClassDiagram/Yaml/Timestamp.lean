import ClassDiagram.Decimal.Read
import ClassDiagram.Yaml.Fault

namespace ClassDiagram.Yaml

/-- A time of day, with the offset from universal time in minutes. -/
structure ClockTime where
  hour : Nat
  minute : Nat
  second : Nat
  offset : Option Int := none
deriving Repr, DecidableEq

/-- A date, with the time of day if one is given, and whether both the month and the day were written with two
digits. Dates suit no setting, so only their form and their validity matter. -/
structure Timestamp where
  year : Nat
  month : Nat
  day : Nat
  time : Option ClockTime := none
  isPadded : Bool := true
deriving Repr, DecidableEq

namespace Timestamp

/-- One or two digits, as many as there are. -/
def shortNumber? : List Char → Option (Nat × Bool × List Char)
  | a :: b :: cs =>
    if !a.isDigit then none
    else if b.isDigit then some (Decimal.digitsValue [a, b], true, cs)
    else some (Decimal.digitsValue [a], false, b :: cs)
  | [a] => if a.isDigit then some (Decimal.digitsValue [a], false, []) else none
  | [] => none

/-- Exactly two digits. -/
def twoDigits? : List Char → Option (Nat × List Char)
  | a :: b :: cs => if a.isDigit && b.isDigit then some (Decimal.digitsValue [a, b], cs) else none
  | _ => none

/-- A given character. -/
def expect? (c : Char) : List Char → Option (List Char)
  | d :: cs => if c = d then some cs else none
  | [] => none

/-- Without the spaces and tabs at the front. -/
def dropGap (cs : List Char) : List Char :=
  cs.dropWhile fun c => c == ' ' || c == '\t'

/-- An offset in hours, with minutes if there are any. Nothing may follow it. -/
def offset? (isNegative : Bool) (cs : List Char) : Option Int := do
  let (hours, _, cs) ← shortNumber? cs
  let minutes ←
    match cs with
    | [] => some 0
    | ':' :: cs => do
      let (minutes, cs) ← twoDigits? cs
      if cs.isEmpty then some minutes else none
    | _ => none
  let total : Int := 60 * hours + minutes
  return if isNegative then -total else total

/-- What may follow the seconds: a fraction, then an offset or the letter for universal time. -/
def zone? (cs : List Char) : Option (Option Int) :=
  let cs :=
    match cs with
    | '.' :: cs => cs.dropWhile Char.isDigit
    | cs => cs
  match cs with
  | [] => some none
  | cs =>
    match dropGap cs with
    | ['Z'] => some none
    | '+' :: cs => (offset? false cs).map some
    | '-' :: cs => (offset? true cs).map some
    | _ => none

/-- A time of day, to the end of the text. -/
def time? (cs : List Char) : Option ClockTime := do
  let (hour, _, cs) ← shortNumber? cs
  let (minute, cs) ← twoDigits? (← expect? ':' cs)
  let (second, cs) ← twoDigits? (← expect? ':' cs)
  return { hour, minute, second, offset := ← zone? cs }

/-- The date and time that a text spells. -/
def parse? (cs : List Char) : Option Timestamp := do
  let year := cs.take 4
  if year.length ≠ 4 || !year.all Char.isDigit then none
  let (month, isLongMonth, cs) ← shortNumber? (← expect? '-' (cs.drop 4))
  let (day, isLongDay, cs) ← shortNumber? (← expect? '-' cs)
  let date : Timestamp :=
    { year := Decimal.digitsValue year, month, day, isPadded := isLongMonth && isLongDay }
  match cs with
  | [] => return date
  | c :: rest =>
    if c = 'T' || c = 't' then return { date with time := ← time? rest }
    else if c = ' ' || c = '\t' then return { date with time := ← time? (dropGap cs) }
    else none

/-- Does the text look like a date? A date alone has two digits for the month and the day. -/
def looksLike (cs : List Char) : Bool :=
  match parse? cs with
  | none => false
  | some t => t.time.isSome || t.isPadded

/-- Has the year a leap day? -/
def isLeapYear (year : Nat) : Bool :=
  year % 4 = 0 && (year % 100 ≠ 0 || year % 400 = 0)

/-- The number of days of a month. -/
def daysIn (year month : Nat) : Nat :=
  if month = 2 then (if isLeapYear year then 29 else 28)
  else if month = 4 || month = 6 || month = 9 || month = 11 then 30
  else 31

/-- The first thing that is wrong with the time: the offset counts before the date, and the date before
the time of day. -/
def fault? (t : Timestamp) : Option DateFault :=
  let offset := (t.time.bind (·.offset)).getD 0
  if 1440 ≤ offset.natAbs then some (.offset offset)
  else if t.year = 0 then some (.year t.year)
  else if t.month < 1 || 12 < t.month then some .month
  else if t.day < 1 || daysIn t.year t.month < t.day then some .day
  else
    match t.time with
    | none => none
    | some time =>
      if 23 < time.hour then some .hour
      else if 59 < time.minute then some .minute
      else if 59 < time.second then some .second
      else none

end Timestamp

end ClassDiagram.Yaml
