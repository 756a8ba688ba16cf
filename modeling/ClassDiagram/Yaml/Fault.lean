import ClassDiagram.Text.Quoted

namespace ClassDiagram.Yaml

/-- What can be wrong with a date or a time. -/
inductive DateFault where
  | year (n : Nat)
  | month
  | day
  | hour
  | minute
  | second
  /-- The offset from universal time is a day or more. It is given in minutes. -/
  | offset (minutes : Int)
deriving Repr, DecidableEq

/-- A time span as days and the seconds of the last day. -/
def spanText (minutes : Int) : String :=
  let days := minutes / 1440
  let seconds := minutes % 1440 * 60
  "datetime.timedelta(days=" ++ toString days
    ++ (if seconds = 0 then "" else ", seconds=" ++ toString seconds) ++ ")"

/-- The text of the fault. -/
def DateFault.message : DateFault → String
  | .year n => "year " ++ toString n ++ " is out of range"
  | .month => "month must be in 1..12"
  | .day => "day is out of range for month"
  | .hour => "hour must be in 0..23"
  | .minute => "minute must be in 0..59"
  | .second => "second must be in 0..59"
  | .offset minutes =>
    "offset must be a timedelta strictly between -timedelta(hours=24) and timedelta(hours=24), not "
      ++ spanText minutes ++ "."

/-- What can be wrong with a document. Most faults are plain malformations, of which only the fact is told. A
scalar whose tag promises a value that its text does not spell is reported with that text. -/
inductive Fault where
  /-- The text is no document, or it holds what a document may not hold. -/
  | malformed
  /-- An escape names a number beyond the last character. -/
  | codePoint
  /-- An escape names a number that does not even fit a machine word. -/
  | codePointOverflow
  | integer (text : String) (base : Nat)
  | integerLength (digits : Nat)
  /-- An integer has more digits than are written out. -/
  | integerText
  | float (text : String)
  /-- A group of a number in base sixty weighs more than any double. -/
  | groupWeight
  /-- A number without any digit. -/
  | emptyNumber
  | truth (text : String)
  /-- A text that is tagged as a date and does not look like one. -/
  | notADate
  | date (cause : DateFault)
deriving Repr, DecidableEq

/-- The text of the fault. -/
def Fault.message : Fault → String
  | .malformed => "malformed document"
  | .codePoint => "chr() arg not in range(0x110000)"
  | .codePointOverflow => "Python int too large to convert to C int"
  | .integer text base =>
    "invalid literal for int() with base " ++ toString base ++ ": " ++ Text.quoted text
  | .integerLength digits =>
    "Exceeds the limit (4300 digits) for integer string conversion: value has " ++ toString digits
      ++ " digits; use sys.set_int_max_str_digits() to increase the limit"
  | .integerText =>
    "Exceeds the limit (4300 digits) for integer string conversion; use sys.set_int_max_str_digits() to "
      ++ "increase the limit"
  | .groupWeight => "int too large to convert to float"
  | .float text => "could not convert string to float: " ++ Text.quoted text
  | .emptyNumber => "string index out of range"
  | .truth text => Text.quoted text
  | .notADate => "'NoneType' object has no attribute 'groupdict'"
  | .date cause => cause.message

end ClassDiagram.Yaml
