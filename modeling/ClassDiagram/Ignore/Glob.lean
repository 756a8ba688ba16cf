namespace ClassDiagram

/-- A closed range of characters, empty when its ends are the wrong way round. -/
structure CharRange where
  first : Char
  last : Char
deriving Repr, DecidableEq

/-- Does the range hold the character? -/
def CharRange.holds (r : CharRange) (c : Char) : Bool :=
  r.first ≤ c && c ≤ r.last

/-- One step of a glob. -/
inductive GlobStep where
  | char (c : Char)
  | anyChar
  | anyChars
  | oneOf (ranges : List CharRange)
  | noneOf (ranges : List CharRange)
deriving Repr, DecidableEq

namespace Glob

/-- The ranges of a bracket: a hyphen between two characters makes a range of them, any other stands for
itself. -/
def ranges : List Char → List CharRange
  | first :: '-' :: last :: rest => ⟨first, last⟩ :: ranges rest
  | c :: rest => ⟨c, c⟩ :: ranges rest
  | [] => []

/-- The text of a bracket from its first character or range on that is not an empty range. -/
def dropEmpty : List Char → List Char
  | first :: '-' :: last :: rest => if last < first then dropEmpty rest else first :: '-' :: last :: rest
  | cs => cs

/-- The set that the text of a bracket without its negation denotes. Empty ranges fall away first, and an
exclamation mark that comes to the front by that negates the set. If the mark began a range, the hyphen is
left over and stands for itself. -/
def plainSet (body : List Char) : GlobStep :=
  match dropEmpty body with
  | '!' :: '-' :: last :: rest => .noneOf (⟨'-', '-'⟩ :: ⟨last, last⟩ :: ranges rest)
  | '!' :: rest => .noneOf (ranges rest)
  | cs => .oneOf (ranges cs)

/-- The set that the text of a bracket denotes. -/
def set : List Char → GlobStep
  | '!' :: body => .noneOf (ranges body)
  | body => plainSet body

/-- Cuts a text at its first closing bracket. -/
def untilBracket : List Char → Option (List Char × List Char)
  | [] => none
  | c :: rest =>
    if c = ']' then some ([], rest)
    else (untilBracket rest).map fun (body, rest) => (c :: body, rest)

/-- The text of a bracket, the opening one already taken, and what follows it. A closing bracket that comes
first, or right after the negation, belongs to the text. -/
def bracketBody : List Char → Option (List Char × List Char)
  | '!' :: ']' :: rest => (untilBracket rest).map fun (body, rest) => ('!' :: ']' :: body, rest)
  | ']' :: rest => (untilBracket rest).map fun (body, rest) => (']' :: body, rest)
  | cs => untilBracket cs

/-- Reads a glob; `fuel` bounds the number of its steps. -/
def parseFrom : Nat → List Char → List GlobStep
  | 0, _ => []
  | _, [] => []
  | fuel + 1, c :: rest =>
    if c = '*' then .anyChars :: parseFrom fuel rest
    else if c = '?' then .anyChar :: parseFrom fuel rest
    else if c = '[' then
      match bracketBody rest with
      | some (body, rest) => set body :: parseFrom fuel rest
      | none => .char c :: parseFrom fuel rest
    else .char c :: parseFrom fuel rest

/-- The steps of a glob: `*` for any characters, `?` for one, `[…]` for one of a set and `[!…]` for one outside
it. There are no escapes, and a bracket that is not closed stands for itself. -/
def parse (pattern : String) : List GlobStep :=
  let cs := pattern.toList
  parseFrom cs.length cs

/-- Does a step that takes one character take this one? -/
def takes (c : Char) : GlobStep → Bool
  | .char d => c = d
  | .anyChar => true
  | .anyChars => false
  | .oneOf ranges => ranges.any (·.holds c)
  | .noneOf ranges => !ranges.any (·.holds c)

/-- For the empty text: which of the suffixes of `steps`, the longest first, match it. -/
def matchEmpty : List GlobStep → List Bool
  | [] => [true]
  | step :: steps =>
    let shorter := matchEmpty steps
    (step = .anyChars && shorter.headD false) :: shorter

/-- For the text `c :: text`: which of the suffixes of `steps` match it, given which of them match `text`.
A star matches by standing for nothing or by taking `c` as well; any other step takes `c` itself. -/
def matchCons (c : Char) : List GlobStep → List Bool → List Bool
  | [], _ => [false]
  | step :: steps, tail =>
    let shorter := matchCons c steps tail.tail
    (if step = .anyChars then shorter.headD false || tail.headD false
      else takes c step && tail.tail.headD false) :: shorter

/-- Which of the suffixes of `steps`, the longest first, match the whole text. -/
def matchSuffixes (steps : List GlobStep) : List Char → List Bool
  | [] => matchEmpty steps
  | c :: text => matchCons c steps (matchSuffixes steps text)

/-- Does the glob match the whole name? Every character is like any other to `*` and `?`, a slash and a line
feed too. -/
def accepts (pattern name : String) : Bool :=
  (matchSuffixes (parse pattern) name.toList).headD false

end Glob

end ClassDiagram
