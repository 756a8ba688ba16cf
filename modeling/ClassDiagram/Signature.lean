import ClassDiagram.Text.Blank

namespace ClassDiagram.Signature

/-- The characters that separate the names of a signature. -/
def isDelimiter (c : Char) : Bool :=
  c == ',' || c == '<' || c == '>'

/-- The canonical form of a signature: the text without any blank. -/
def canonical (text : String) : String :=
  Text.dropBlanks text

/-- A signature is compound when it holds a delimiter. -/
def isCompound (text : String) : Bool :=
  text.toList.any isDelimiter

/-- Cuts a text at every character of a class; the pieces may be empty. -/
def splitAt (isCut : Char → Bool) : List Char → List (List Char)
  | [] => [[]]
  | c :: rest =>
    match splitAt isCut rest with
    | [] => [[c]]
    | piece :: pieces => if isCut c then [] :: piece :: pieces else (c :: piece) :: pieces

/-- The names that a signature refers to, in order and with repetitions: the pieces between delimiters that hold
more than blanks, in canonical form. Nesting is not tracked: `Outer<Inner<A,B>,C>` refers to `Outer`, `Inner`,
`A`, `B` and `C` alike. -/
def tokens (text : String) : List String :=
  ((splitAt isDelimiter text.toList).map fun piece => canonical (String.ofList piece)).filter (· ≠ "")

end ClassDiagram.Signature
