import ClassDiagram.Yaml.Cursor
import ClassDiagram.Yaml.Fault

namespace ClassDiagram.Yaml

/-- What a one-letter escape stands for. -/
def escapedChar? : Char → Option Char
  | '0' => some '\x00'
  | 'a' => some '\x07'
  | 'b' => some '\x08'
  | 't' => some '\t'
  | '\t' => some '\t'
  | 'n' => some '\n'
  | 'v' => some '\x0b'
  | 'f' => some '\x0c'
  | 'r' => some '\r'
  | 'e' => some '\x1b'
  | ' ' => some ' '
  | '"' => some '"'
  | '\\' => some '\\'
  | '/' => some '/'
  | 'N' => some '\x85'
  | '_' => some '\xa0'
  | 'L' => some '\u2028'
  | 'P' => some '\u2029'
  | _ => none

/-- How many digits follow a numeric escape. -/
def escapeWidth? : Char → Option Nat
  | 'x' => some 2
  | 'u' => some 4
  | 'U' => some 8
  | _ => none

/-- The value of a hexadecimal digit. -/
def hexDigit? (c : Char) : Option Nat :=
  if c.isDigit then some (c.toNat - '0'.toNat)
  else if 'a' ≤ c && c ≤ 'f' then some (c.toNat - 'a'.toNat + 10)
  else if 'A' ≤ c && c ≤ 'F' then some (c.toNat - 'A'.toNat + 10)
  else none

/-- The number that hexadecimal digits spell. -/
def hexValue? (cs : List Char) : Option Nat :=
  cs.foldlM (fun n c => (hexDigit? c).map (16 * n + ·)) 0

/-- The character with a number. -/
def charOfNumber (n : Nat) : Except Fault Char :=
  if n < 0x110000 then .ok (if n.isValidChar then Char.ofNat n else '\uFFFD')
  else if n < 0x80000000 then .error .codePoint
  else .error .codePointOverflow

/-- The empty lines at the start of a line of a quoted scalar, as the line ends that they stand for. A
line that starts or ends a document may not stand in a scalar. -/
def quotedBreaks : Nat → Cursor → Except Fault (List Char × Cursor)
  | 0, c => .ok ([], c)
  | n + 1, c =>
    if c.startsSeparator then .error .malformed
    else
      let c := c.dropWhile isSpaceOrTab
      match c.lineBreak? with
      | none => .ok ([], c)
      | some (x, c) => do
        let (breaks, c) ← quotedBreaks n c
        .ok (x :: breaks, c)

/-- What a line end and the empty lines after it stand for: a single line feed is a space, and before
empty lines it stands for nothing. -/
def foldBreaks (first : Char) (breaks : List Char) : List Char :=
  if first != '\n' then first :: breaks
  else if breaks.isEmpty then [' ']
  else breaks

/-- Spaces and tabs inside a quoted scalar, which vanish before a line end. -/
def quotedSpaces (c : Cursor) : Except Fault (List Char × Cursor) := do
  let spaces := c.takeWhile isSpaceOrTab
  let c := c.skip spaces.length
  match c.lineBreak? with
  | none => .ok (spaces, c)
  | some (x, c) =>
    let (breaks, c) ← quotedBreaks c.rest.length c
    .ok (foldBreaks x breaks, c)

/-- An escape in a double-quoted scalar, read from behind the backslash. An escaped line end stands for
nothing. -/
def escape (c : Cursor) : Except Fault (List Char × Cursor) :=
  match c.head? with
  | none => .error .malformed
  | some x =>
    match escapedChar? x with
    | some y => .ok ([y], c.next)
    | none =>
      match escapeWidth? x with
      | some width =>
        let digits := c.next.rest.take width
        match if digits.length = width then hexValue? digits else none with
        | none => .error .malformed
        | some n => (charOfNumber n).map fun y => ([y], c.next.skip width)
      | none =>
        if isBreak x then quotedBreaks c.rest.length c.dropBreak else .error .malformed

/-- The rest of a quoted scalar, its closing quote included. In single quotes a quote is written twice;
in double quotes there are escapes. -/
def quotedRest (isDouble : Bool) : Nat → Cursor → Except Fault (List Char × Cursor)
  | 0, _ => .error .malformed
  | n + 1, c =>
    let continueWith (text : List Char) (c : Cursor) : Except Fault (List Char × Cursor) := do
      let (more, c) ← quotedRest isDouble n c
      .ok (text ++ more, c)
    match c.head? with
    | none => .error .malformed
    | some x =>
      if isSpaceOrTab x || isBreak x then do
        let (text, c) ← quotedSpaces c
        continueWith text c
      else if isDouble then
        if x = '"' then .ok ([], c.next)
        else if x = '\\' then do
          let (text, c) ← escape c.next
          continueWith text c
        else continueWith [x] c.next
      else if x = '\'' then
        if c.peek? 1 = some '\'' then continueWith ['\''] (c.skip 2) else .ok ([], c.next)
      else continueWith [x] c.next

/-- A quoted scalar, read from its opening quote. -/
def quotedScalar (isDouble : Bool) (c : Cursor) : Except Fault (List Char × Cursor) :=
  quotedRest isDouble (c.rest.length + 1) c.next

/-- May the plain scalar not go on with these characters? A colon ends it only before a blank; between
brackets the punctuation of brackets ends it too. -/
def endsPlain (inFlow : Bool) : List Char → Bool
  | [] => true
  | c :: rest =>
    endsWord (some c)
      || (c == ':' && (endsWord rest.head?
        || (inFlow && rest.head?.any fun d => d == ',' || d == '[' || d == ']' || d == '{' || d == '}')))
      || (inFlow && (c == ',' || c == '?' || c == '[' || c == ']' || c == '{' || c == '}'))

/-- The characters of a plain scalar up to the next blank. -/
def plainWord (inFlow : Bool) : List Char → List Char
  | [] => []
  | c :: rest => if endsPlain inFlow (c :: rest) then [] else c :: plainWord inFlow rest

/-- The spaces and empty lines at the start of a line of a plain scalar, as the line ends that they stand
for; nothing if a line starts or ends a document. -/
def plainBreaks : Nat → Cursor → Option (List Char) × Cursor
  | 0, c => (some [], c)
  | n + 1, c =>
    if c.head? = some ' ' then plainBreaks n c.next
    else
      match c.lineBreak? with
      | none => (some [], c)
      | some (x, c) =>
        if c.startsSeparator then (none, c)
        else
          let (breaks?, c) := plainBreaks n c
          (breaks?.map (x :: ·), c)

/-- What stands between two words of a plain scalar. The text is empty if the scalar ends here; the flag
tells whether a line end was passed. -/
def plainGap (c : Cursor) : List Char × Bool × Cursor :=
  let spaces := c.takeWhile (· == ' ')
  let c := c.skip spaces.length
  match c.lineBreak? with
  | none => (spaces, false, c)
  | some (x, c) =>
    if c.startsSeparator then ([], true, c)
    else
      let (breaks?, c) := plainBreaks c.rest.length c
      match breaks? with
      | none => ([], true, c)
      | some breaks => (foldBreaks x breaks, true, c)

/-- A plain scalar in a block with the given indentation. The flag tells whether a line end was passed
after its last word. -/
def plainScalar (inFlow : Bool) (indent : Nat) :
    Nat → Cursor → List Char → Bool → List Char × Bool × Cursor
  | 0, c, _, passed => ([], passed, c)
  | n + 1, c, gap, passed =>
    let word := if c.head? = some '#' then [] else plainWord inFlow c.rest
    if word.isEmpty then ([], passed, c)
    else
      let (nextGap, passed, after) := plainGap (c.skip word.length)
      if nextGap.isEmpty || after.head? = some '#' || (!inFlow && after.column < indent) then
        (gap ++ word, passed, after)
      else
        let (more, passed, after) := plainScalar inFlow indent n after nextGap passed
        (gap ++ word ++ more, passed, after)

/-- What becomes of the line ends at the end of a block scalar. -/
inductive Chomping where
  | strip
  | clip
  | keep
deriving Repr, DecidableEq

/-- A sign that chooses the chomping. -/
def chomping? : Option Char → Option Chomping
  | some '+' => some .keep
  | some '-' => some .strip
  | _ => none

/-- A digit that gives the indentation. -/
def increment? (c? : Option Char) : Option Nat :=
  match c? with
  | some c => if c.isDigit then some (c.toNat - '0'.toNat) else none
  | none => none

/-- The header of a block scalar, read from behind its indicator: chomping and indentation in either
order. -/
def blockHeader (c : Cursor) : Except Fault ((Chomping × Option Nat) × Cursor) :=
  let found : Chomping × Option Nat × Cursor :=
    match chomping? c.head?, increment? c.head? with
    | some chomping, _ =>
      match increment? c.next.head? with
      | some n => (chomping, some n, c.skip 2)
      | none => (chomping, none, c.next)
    | none, some n =>
      match chomping? c.next.head? with
      | some chomping => (chomping, some n, c.skip 2)
      | none => (.clip, some n, c.next)
    | none, none => (.clip, none, c)
  let (chomping, increment, c) := found
  if increment = some 0 || !endsField c.head? then .error .malformed
  else
    let c := c.dropSpaces
    let c := if c.head? = some '#' then c.dropLine else c
    if endsLine c.head? then .ok ((chomping, increment), c.dropBreak) else .error .malformed

/-- The empty lines before a block scalar without a given indentation: their line ends, and the widest
indentation among them and the first line of text. -/
def leadingBreaks : Nat → Cursor → Nat → List Char × Nat × Cursor
  | 0, c, widest => ([], widest, c)
  | n + 1, c, widest =>
    if c.head? = some ' ' then leadingBreaks n c.next (max widest c.next.column)
    else
      match c.lineBreak? with
      | none => ([], widest, c)
      | some (x, c) =>
        let (breaks, widest, c) := leadingBreaks n c widest
        (x :: breaks, widest, c)

/-- Past the indentation of a line, as far as it goes. -/
def dropIndent (indent : Nat) (c : Cursor) : Cursor :=
  c.skip (min (indent - c.column) (c.takeWhile (· == ' ')).length)

/-- The empty lines between lines of a block scalar. -/
def blockBreaks (indent : Nat) : Nat → Cursor → List Char × Cursor
  | 0, c => ([], c)
  | n + 1, c =>
    let c := dropIndent indent c
    match c.lineBreak? with
    | none => ([], c)
    | some (x, c) =>
      let (breaks, c) := blockBreaks indent n c
      (x :: breaks, c)

/-- Does a line of the block scalar start here? -/
def atBlockLine (indent : Nat) (c : Cursor) : Bool :=
  c.column == indent && c.head?.isSome

/-- Is the next character neither a space nor a tab? -/
def startsFlush (c : Cursor) : Bool :=
  !c.head?.any isSpaceOrTab

/-- The lines of a block scalar and its line ends after the last line. The first argument tells whether
lines are folded. -/
def blockLines (isFolded : Bool) (chomping : Chomping) (indent : Nat) :
    Nat → Cursor → List Char → List Char × Cursor
  | 0, c, _ => ([], c)
  | n + 1, c, breaks =>
    let text := c.takeWhile fun x => !isBreak x
    let isFlush := startsFlush c
    let c := c.skip text.length
    let (lineBreak, c) : List Char × Cursor :=
      match c.lineBreak? with
      | none => ([], c)
      | some (x, c) => ([x], c)
    let (nextBreaks, c) := blockBreaks indent (c.rest.length + 1) c
    if atBlockLine indent c then
      let joint :=
        if isFolded && lineBreak == ['\n'] && isFlush && startsFlush c then
          if nextBreaks.isEmpty then [' '] else []
        else lineBreak
      let (more, c) := blockLines isFolded chomping indent n c nextBreaks
      (breaks ++ text ++ joint ++ more, c)
    else
      let tail :=
        match chomping with
        | .strip => []
        | .clip => lineBreak
        | .keep => lineBreak ++ nextBreaks
      (breaks ++ text ++ tail, c)

/-- A block scalar, read from its indicator, in a block whose content is indented by at least `least`. -/
def blockScalar (isFolded : Bool) (least : Nat) (c : Cursor) : Except Fault (List Char × Cursor) := do
  let ((chomping, increment), c) ← blockHeader c.next
  let (breaks, indent, c) : List Char × Nat × Cursor :=
    match increment with
    | none =>
      let (breaks, widest, c) := leadingBreaks (c.rest.length + 1) c 0
      (breaks, max least widest, c)
    | some n =>
      let indent := least + n - 1
      let (breaks, c) := blockBreaks indent (c.rest.length + 1) c
      (breaks, indent, c)
  if atBlockLine indent c then
    .ok (blockLines isFolded chomping indent (c.rest.length + 1) c breaks)
  else .ok (if chomping = .keep then breaks else [], c)

end ClassDiagram.Yaml
