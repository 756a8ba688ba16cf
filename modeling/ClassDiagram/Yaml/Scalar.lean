import ClassDiagram.Settings.Value
import ClassDiagram.Text.Digit
import ClassDiagram.Text.Line
import ClassDiagram.Yaml.Base64
import ClassDiagram.Yaml.Tag
import ClassDiagram.Yaml.Timestamp

namespace ClassDiagram.Yaml

/-- The kind that a plain scalar looks like. -/
def Tag.ofPlain (text : String) : Tag :=
  let cs := Text.dropFinalBreak text.toList
  let shown := String.ofList cs
  if looksLikeTruth shown then .bool
  else if looksLikeFloat cs then .float
  else if looksLikeInt cs then .int
  else if shown = "<<" then .merge
  else if looksLikeNull shown then .null
  else if Timestamp.looksLike cs then .timestamp
  else if shown = "=" then .value
  else if shown = "!" || shown = "&" || shown = "*" then .unknown
  else .text

/-- Cuts a text at its colons. -/
def colonParts : List Char → List (List Char)
  | [] => [[]]
  | c :: cs =>
    match colonParts cs with
    | [] => [[c]]
    | part :: parts => if c = ':' then [] :: part :: parts else (c :: part) :: parts

/-- The most digits that an integer outside the bases of two may have. -/
def digitLimit : Nat := 4300

/-- Takes a mark of the base off the front. -/
def dropBaseMark (base : Nat) : List Char → List Char
  | '0' :: c :: cs =>
    let isMark :=
      (base = 16 && (c = 'x' || c = 'X')) || (base = 8 && (c = 'o' || c = 'O'))
        || (base = 2 && (c = 'b' || c = 'B'))
    if isMark then cs else '0' :: c :: cs
  | cs => cs

/-- The value of a digit. -/
def digitValue (c : Char) : Nat :=
  if c.isDigit then c.toNat - '0'.toNat
  else if 'a' ≤ c && c ≤ 'z' then c.toNat - 'a'.toNat + 10
  else if 'A' ≤ c && c ≤ 'Z' then c.toNat - 'A'.toNat + 10
  else 36

/-- The integer that a text spells in a base, with digits of any script. Blanks around it do not count. -/
def readInteger (base : Nat) (cs : List Char) : Except Fault Int :=
  let (isNegative, body) := Decimal.takeSign ((Text.stripChars cs).map Text.plainDigit)
  let body := dropBaseMark base body
  let digits := body.takeWhile fun c => digitValue c < base
  if base = 10 && digitLimit < digits.length then .error (.integerLength digits.length)
  else if digits.isEmpty || digits.length < body.length then .error (.integer (String.ofList cs) base)
  else
    let n : Int := digits.foldl (fun n c => base * n + digitValue c) 0
    .ok (if isNegative then -n else n)

/-- The value of groups of digits in base sixty. -/
def readSexagesimal (parts : List (List Char)) : Except Fault Int :=
  parts.foldlM (fun n part => do return 60 * n + (← readInteger 10 part)) 0

/-- The integer that a scalar spells: a sign, then a number in base two, sixteen, eight, sixty or ten.
Underscores do not count. -/
def readInt (text : String) : Except Fault Int := do
  let cs := text.toList.filter (· ≠ '_')
  if cs.isEmpty then .error .emptyNumber
  else
    let (isNegative, body) := Decimal.takeSign cs
    let n ←
      match body with
      | [] => .error .emptyNumber
      | ['0'] => .ok 0
      | '0' :: 'b' :: digits => readInteger 2 digits
      | '0' :: 'x' :: digits => readInteger 16 digits
      | '0' :: _ => readInteger 8 body
      | _ => if body.contains ':' then readSexagesimal (colonParts body) else readInteger 10 body
    return if isNegative then -n else n

/-- The infinite double. -/
def infinity : Float := 1.0 / 0.0

/-- The double that is no number. -/
def notANumber : Float := 0.0 / 0.0

/-- The word for a number without digits. -/
def numberWord? (cs : List Char) : Option Float :=
  let (isNegative, word) := Decimal.takeSign cs
  if word == "inf".toList || word == "infinity".toList then
    some (if isNegative then -infinity else infinity)
  else if word == "nan".toList then some notANumber
  else none

/-- The double nearest to the decimal that a text in small letters spells, with digits of any script. Blanks
around it do not count. -/
def readDecimal (cs : List Char) : Except Fault Float :=
  let body := (Text.stripChars cs).map Text.plainDigit
  match numberWord? body with
  | some x => .ok x
  | none =>
    match Decimal.read? body with
    | some x => .ok x
    | none => .error (.float (String.ofList cs))

/-- The most groups of a number in base sixty with a point: the weight of one more is beyond all doubles. -/
def groupLimit : Nat := 174

/-- The sum of the parts of a number in base sixty, the last first, `weight` being that of the first. -/
def sexagesimalSum (weight : Nat) (sum : Float) : List Float → Float
  | [] => sum
  | digit :: digits => sexagesimalSum (60 * weight) (sum + digit * Decimal.nearest weight 0) digits

/-- The double that a scalar spells. Underscores and case do not count. -/
def readFloat (text : String) : Except Fault Float := do
  let cs := (Text.lower (String.ofList (text.toList.filter (· ≠ '_')))).toList
  if cs.isEmpty then .error .emptyNumber
  else
    let (isNegative, body) := Decimal.takeSign cs
    let x ←
      if body == ".inf".toList then .ok infinity
      else if body == ".nan".toList then .ok notANumber
      else if body.contains ':' then do
        let digits ← (colonParts body).mapM readDecimal
        if groupLimit < digits.length then .error .groupWeight
        else .ok (sexagesimalSum 1 0.0 digits.reverse)
      else readDecimal body
    return if isNegative then -x else x

/-- The truth value that a scalar spells. -/
def readTruth (text : String) : Except Fault Bool :=
  let word := Text.lower text
  match truthWords.lookup word with
  | some b => .ok b
  | none => .error (.truth word)

/-- The bytes that a scalar spells. -/
def readBinary (text : String) : Except Fault (List Nat) :=
  if text.toList.all (·.toNat < 128) then
    match base64? text.toList with
    | some bytes => .ok bytes
    | none => .error .malformed
  else .error .malformed

/-- Checks the date that a scalar spells. -/
def checkTimestamp (text : String) : Except Fault Unit :=
  match Timestamp.parse? (Text.dropFinalBreak text.toList) with
  | none => .error .notADate
  | some t =>
    match t.fault? with
    | some cause => .error (.date cause)
    | none => .ok ()

/-- The value of a scalar of a kind. Bytes are a list of numbers. -/
def readScalar (tag : Tag) (text : String) : Except Fault Value :=
  match tag with
  | .null => .ok .null
  | .bool => (readTruth text).map .bool
  | .int => (readInt text).map .int
  | .float => (readFloat text).map .float
  | .binary => (readBinary text).map fun bytes => .list (bytes.map fun (n : Nat) => .int n)
  | .timestamp => (checkTimestamp text).map fun _ => .other
  | .text => .ok (.text text)
  | _ => .error .malformed

end ClassDiagram.Yaml
