import ClassDiagram.Decimal.Read
import ClassDiagram.Text.Blank
import ClassDiagram.Text.LowerCase

namespace ClassDiagram

/-- A value as a settings file gives it. Mappings, sets and dates suit no setting and are not told apart. A
value that does not suit a setting is passed over. -/
inductive Value where
  | null
  | bool (value : Bool)
  | int (value : Int)
  | float (value : Float)
  | text (value : String)
  | list (items : List Value)
  | other
deriving Inhabited

namespace Value

/-- Does the value say nothing: null, no, zero, or an empty text or list? -/
def isNothing : Value → Bool
  | .null => true
  | .bool b => !b
  | .int n => n == 0
  | .float x => x == 0.0
  | .text s => s == ""
  | .list items => items.isEmpty
  | .other => false

/-- The text of a scalar. -/
def asText? : Value → Option String
  | .bool b => some (if b then "True" else "False")
  | .int n => some (toString n)
  | .float x => some (Decimal.write x)
  | .text s => some s
  | _ => none

/-- A flag: a truth value, or one of the words for it in any case. -/
def asFlag? : Value → Option Bool
  | .bool b => some b
  | .text s =>
    let word := Text.lower (Text.strip s)
    if word = "true" || word = "yes" || word = "1" then some true
    else if word = "false" || word = "no" || word = "0" then some false
    else none
  | _ => none

/-- A list of texts: a single text, or the scalars of a list. -/
def asTexts : Value → List String
  | .text s => [s]
  | .list items => items.filterMap asText?
  | _ => []

end Value

end ClassDiagram
