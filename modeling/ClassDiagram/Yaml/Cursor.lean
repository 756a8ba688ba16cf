namespace ClassDiagram.Yaml

/-- Does the character end a line? -/
def isBreak (c : Char) : Bool :=
  c == '\n' || c == '\r' || c == '\x85' || c == '\u2028' || c == '\u2029'

/-- Is the character a space or a tab? -/
def isSpaceOrTab (c : Char) : Bool :=
  c == ' ' || c == '\t'

/-- May the character stand in a document? -/
def isAllowed (c : Char) : Bool :=
  let n := c.toNat
  n == 9 || n == 10 || n == 13 || (0x20 ≤ n && n ≤ 0x7E) || n == 0x85 || (0xA0 ≤ n && n ≤ 0xFFFD) ||
    0x10000 ≤ n

/-- The byte order mark, which takes up no column. -/
def byteOrderMark : Char := '\uFEFF'

/-- The characters of names: of anchors, directives and tag handles. -/
def isNameChar (c : Char) : Bool :=
  c.isAlphanum || c == '-' || c == '_'

/-- Is this the end of a line, or of the document? -/
def endsLine : Option Char → Bool
  | none => true
  | some c => isBreak c

/-- Is this a space, or the end of a line or of the document? -/
def endsField : Option Char → Bool
  | none => true
  | some c => c == ' ' || isBreak c

/-- Is this a space, a tab, or the end of a line or of the document? -/
def endsWord : Option Char → Bool
  | none => true
  | some c => isSpaceOrTab c || isBreak c

/-- The place that reading a document has reached: the characters still to come, how many came before, and the
line and column. Line ends are unified before, so a line end is always a single character. -/
structure Cursor where
  rest : List Char
  index : Nat := 0
  line : Nat := 0
  column : Nat := 0
deriving Repr, Inhabited

namespace Cursor

/-- The next character. -/
def head? (c : Cursor) : Option Char :=
  c.rest.head?

/-- The character `n` places further on. -/
def peek? (c : Cursor) (n : Nat) : Option Char :=
  c.rest[n]?

/-- One character further. -/
def next (c : Cursor) : Cursor :=
  match c.rest with
  | [] => c
  | x :: rest =>
    if isBreak x then { rest, index := c.index + 1, line := c.line + 1, column := 0 }
    else
      { rest, index := c.index + 1, line := c.line
        column := if x = byteOrderMark then c.column else c.column + 1 }

/-- Some characters further. -/
def skip (c : Cursor) (n : Nat) : Cursor :=
  n.repeat next c

/-- The characters up to the first that fails the test. -/
def takeWhile (p : Char → Bool) (c : Cursor) : List Char :=
  c.rest.takeWhile p

/-- The place of the first character that fails the test. -/
def dropWhile (p : Char → Bool) (c : Cursor) : Cursor :=
  c.skip (c.takeWhile p).length

/-- Past the spaces. -/
def dropSpaces (c : Cursor) : Cursor :=
  c.dropWhile (· == ' ')

/-- To the end of the line. -/
def dropLine (c : Cursor) : Cursor :=
  c.dropWhile fun x => !isBreak x

/-- A line end, as the character that it stands for: the two Unicode separators stay, and the others are
line feeds. -/
def lineBreak? (c : Cursor) : Option (Char × Cursor) :=
  match c.head? with
  | none => none
  | some x =>
    if x == '\u2028' || x == '\u2029' then some (x, c.next)
    else if isBreak x then some ('\n', c.next)
    else none

/-- Past a line end, if there is one. -/
def dropBreak (c : Cursor) : Cursor :=
  match c.lineBreak? with
  | none => c
  | some (_, c) => c

/-- Do three such marks stand here, with nothing of a word after them? -/
def startsMark (c : Cursor) (mark : Char) : Bool :=
  c.rest.take 3 == [mark, mark, mark] && endsWord (c.peek? 3)

/-- Does the line start a document or end one? -/
def startsSeparator (c : Cursor) : Bool :=
  c.startsMark '-' || c.startsMark '.'

end Cursor

end ClassDiagram.Yaml
