namespace ClassDiagram.Text

/-- Writes each carriage return, with the line feed after it if there is one, as one line feed. Files are read
in this way, and a list of rules is then cut into lines at every line boundary (`lines`). -/
def unifyLineEnds : List Char → List Char
  | [] => []
  | '\r' :: '\n' :: rest => '\n' :: unifyLineEnds rest
  | c :: rest => (if c = '\r' then '\n' else c) :: unifyLineEnds rest

/-- Without a line feed at the very end. -/
def dropFinalBreak (cs : List Char) : List Char :=
  if cs.getLast? = some '\n' then cs.dropLast else cs

/-- The characters that end a line: line feed, vertical tab, form feed, carriage return, the first three
information separators, next line, and the Unicode line and paragraph separators. -/
def isLineBoundary (c : Char) : Bool :=
  let n := c.toNat
  (10 ≤ n && n ≤ 13) || (28 ≤ n && n ≤ 30) || n == 0x85 || n == 0x2028 || n == 0x2029

/-- Puts a character in front of the first line. -/
def consToFirst (c : Char) : List (List Char) → List (List Char)
  | [] => [[c]]
  | line :: rest => (c :: line) :: rest

/-- Cuts a text into lines, boundaries left out. A carriage return and the line feed after it are one
boundary, and a boundary at the very end opens no further line. -/
def splitLines : List Char → List (List Char)
  | [] => []
  | '\r' :: '\n' :: rest => [] :: splitLines rest
  | c :: rest => if isLineBoundary c then [] :: splitLines rest else consToFirst c (splitLines rest)

/-- The lines of a text. -/
def lines (s : String) : List String :=
  (splitLines s.toList).map String.ofList

end ClassDiagram.Text
