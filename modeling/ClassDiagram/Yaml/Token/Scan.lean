import ClassDiagram.Yaml.Token.Tag

namespace ClassDiagram.Yaml

/-- A place where a key may have started: the number of its first token, and whether it has to be a
key, which is so where a line of a block mapping starts. -/
structure PendingKey where
  position : Nat
  isRequired : Bool
  index : Nat
  line : Nat
  column : Nat
deriving Repr

/-- How far a document has been cut. The tokens come last first; the pending keys are kept by the number of
brackets around them. -/
structure Scanner where
  cursor : Cursor
  tokens : List Token := []
  count : Nat := 0
  flowLevel : Nat := 0
  /-- The column of the innermost block; nothing outside of all blocks. -/
  indents : List Nat := []
  keyAllowed : Bool := true
  pending : List (Nat × PendingKey) := []

namespace Scanner

/-- The longest way between the start of a key and its colon. -/
def keyLimit : Nat := 1024

/-- Adds a token. -/
def emit (s : Scanner) (token : Token) : Scanner :=
  { s with tokens := token :: s.tokens, count := s.count + 1 }

/-- Adds a token and goes to the place after it. -/
def emitAt (s : Scanner) (token : Token) (cursor : Cursor) : Scanner :=
  { s.emit token with cursor }

/-- Puts tokens in front of the token with a number. -/
def splice (s : Scanner) (position : Nat) (tokens : List Token) : Scanner :=
  let later := s.count - position
  { s with
    tokens := s.tokens.take later ++ tokens.reverse ++ s.tokens.drop later
    count := s.count + tokens.length }

/-- Is the place not between brackets? -/
def inBlock (s : Scanner) : Bool :=
  s.flowLevel == 0

/-- The pending key at the present level of brackets. -/
def key? (s : Scanner) : Option PendingKey :=
  s.pending.lookup s.flowLevel

/-- Forgets the pending key at the present level of brackets, which must not have been required. -/
def dropKey (s : Scanner) : Except Fault Scanner :=
  if s.key?.any (·.isRequired) then .error .malformed
  else .ok { s with pending := s.pending.filter (·.1 ≠ s.flowLevel) }

/-- Is it too late for the colon of the key? -/
def isStale (s : Scanner) (key : PendingKey) : Bool :=
  key.line ≠ s.cursor.line || keyLimit < s.cursor.index - key.index

/-- Forgets the keys for whose colon it is too late. -/
def dropStaleKeys (s : Scanner) : Except Fault Scanner :=
  if s.pending.any fun entry => s.isStale entry.2 && entry.2.isRequired then .error .malformed
  else .ok { s with pending := s.pending.filter fun entry => !s.isStale entry.2 }

/-- Notes that a key may start here, if one may. -/
def saveKey (s : Scanner) : Except Fault Scanner := do
  if !s.keyAllowed then .ok s
  else
    let s ← s.dropKey
    let key : PendingKey :=
      { position := s.count
        isRequired := s.inBlock && s.indents.head? = some s.cursor.column
        index := s.cursor.index
        line := s.cursor.line
        column := s.cursor.column }
    .ok { s with pending := (s.flowLevel, key) :: s.pending }

/-- Closes the blocks that are indented deeper than a column. Without a column all are closed. Between
brackets indentation does not count. -/
def closeBlocks (s : Scanner) (column? : Option Nat) : Scanner :=
  if !s.inBlock then s
  else
    let isClosed (indent : Nat) : Bool :=
      match column? with
      | none => true
      | some column => column < indent
    let closed := s.indents.takeWhile isClosed
    closed.foldl (fun s _ => s.emit .blockEnd) { s with indents := s.indents.drop closed.length }

/-- Would a block at the column be a new one inside the present block? -/
def opensBlock (s : Scanner) (column : Nat) : Bool :=
  s.inBlock && s.indents.head?.all (· < column)

/-- Opens a block at the present column, if it is a new one. -/
def openBlock (s : Scanner) (token : Token) : Scanner :=
  if s.opensBlock s.cursor.column then
    { s.emit token with indents := s.cursor.column :: s.indents }
  else s

/-- Past spaces, comments and line ends. In a block a key may start on each line. -/
def skipBlanks : Nat → Scanner → Scanner
  | 0, s => s
  | n + 1, s =>
    let cursor := s.cursor.dropSpaces
    let cursor := if cursor.head? = some '#' then cursor.dropLine else cursor
    match cursor.lineBreak? with
    | none => { s with cursor }
    | some (_, cursor) => skipBlanks n { s with cursor, keyAllowed := s.keyAllowed || s.inBlock }

/-- To the next token. A byte order mark may stand at the very start. -/
def skipToToken (s : Scanner) : Scanner :=
  let cursor :=
    if s.cursor.index = 0 && s.cursor.head? = some byteOrderMark then s.cursor.next else s.cursor
  skipBlanks (cursor.rest.length + 1) { s with cursor }

/-- A line between documents. -/
def separator (s : Scanner) (token : Token) : Except Fault Scanner := do
  let s ← (s.closeBlocks none).dropKey
  .ok { s.emitAt token (s.cursor.skip 3) with keyAllowed := false }

/-- A directive. -/
def directiveLine (s : Scanner) : Except Fault Scanner := do
  let s ← (s.closeBlocks none).dropKey
  let (found, cursor) ← directive s.cursor
  .ok { s.emitAt (.directive found) cursor with keyAllowed := false }

/-- An opening bracket, with which a key may start. -/
def openBracket (s : Scanner) (token : Token) : Except Fault Scanner := do
  let s ← s.saveKey
  .ok { s.emitAt token s.cursor.next with flowLevel := s.flowLevel + 1, keyAllowed := true }

/-- A closing bracket. -/
def closeBracket (s : Scanner) (token : Token) : Except Fault Scanner := do
  let s ← s.dropKey
  .ok { s.emitAt token s.cursor.next with flowLevel := s.flowLevel - 1, keyAllowed := false }

/-- A comma between brackets. -/
def comma (s : Scanner) : Except Fault Scanner := do
  let s ← s.dropKey
  .ok { s.emitAt .flowEntry s.cursor.next with keyAllowed := true }

/-- A dash before an entry of a block sequence. -/
def dash (s : Scanner) : Except Fault Scanner := do
  if s.inBlock && !s.keyAllowed then .error .malformed
  else
    let s ← (s.openBlock .blockSequenceStart).dropKey
    .ok { s.emitAt .blockEntry s.cursor.next with keyAllowed := true }

/-- A question mark before a key. -/
def questionMark (s : Scanner) : Except Fault Scanner := do
  if s.inBlock && !s.keyAllowed then .error .malformed
  else
    let s ← (s.openBlock .blockMappingStart).dropKey
    .ok { s.emitAt .key s.cursor.next with keyAllowed := s.inBlock }

/-- A colon. If a key is pending, this shows that it is one; its tokens are put in where it started. -/
def colon (s : Scanner) : Except Fault Scanner := do
  match s.key? with
  | some key =>
    let s := { s with pending := s.pending.filter (·.1 ≠ s.flowLevel), keyAllowed := false }
    let s :=
      if s.opensBlock key.column then
        { s.splice key.position [.blockMappingStart, .key] with indents := key.column :: s.indents }
      else s.splice key.position [.key]
    .ok (s.emitAt .value s.cursor.next)
  | none =>
    if s.inBlock && !s.keyAllowed then .error .malformed
    else
      let s ← (s.openBlock .blockMappingStart).dropKey
      .ok { s.emitAt .value s.cursor.next with keyAllowed := s.inBlock }

/-- A token with which a key may start. -/
def keyStart (s : Scanner) (scan : Cursor → Except Fault (Token × Cursor)) : Except Fault Scanner := do
  let s ← s.saveKey
  let (token, cursor) ← scan s.cursor
  .ok { s.emitAt token cursor with keyAllowed := false }

/-- A block scalar. -/
def block (s : Scanner) (isFolded : Bool) : Except Fault Scanner := do
  let s ← s.dropKey
  let least := s.indents.head?.elim 1 fun indent => indent + 1
  let (text, cursor) ← blockScalar isFolded least s.cursor
  .ok { s.emitAt (.scalar (String.ofList text) false) cursor with keyAllowed := true }

/-- A plain scalar. After its last line a key may start. -/
def plain (s : Scanner) : Except Fault Scanner := do
  let s ← s.saveKey
  let indent := s.indents.head?.elim 0 fun indent => indent + 1
  let (text, passed, cursor) :=
    plainScalar (!s.inBlock) indent (s.cursor.rest.length + 1) s.cursor [] false
  .ok { s.emitAt (.scalar (String.ofList text) true) cursor with keyAllowed := passed }

/-- May a plain scalar start with this character, `after` being the one behind it? -/
def startsPlain (inBlock : Bool) (c : Char) (after : Option Char) : Bool :=
  if endsWord (some c) then false
  else if c = '-' then !endsWord after
  else if c = '?' || c = ':' then inBlock && !endsWord after
  else !(",[]\x7b\x7d#&*!|>'\"%@`".toList.contains c)

/-- The token that starts with the character `c`. -/
def fetch (s : Scanner) (c : Char) : Except Fault Scanner :=
  let after := s.cursor.peek? 1
  let atLineStart := s.cursor.column = 0
  let quoted (isDouble : Bool) (cursor : Cursor) : Except Fault (Token × Cursor) := do
    let (text, cursor) ← quotedScalar isDouble cursor
    .ok (.scalar (String.ofList text) false, cursor)
  let named (make : String → Token) (cursor : Cursor) : Except Fault (Token × Cursor) := do
    let (text, cursor) ← anchorName cursor
    .ok (make text, cursor)
  if c = '%' && atLineStart then s.directiveLine
  else if atLineStart && s.cursor.startsMark '-' then s.separator .documentStart
  else if atLineStart && s.cursor.startsMark '.' then s.separator .documentEnd
  else if c = '[' then s.openBracket .flowSequenceStart
  else if c = '{' then s.openBracket .flowMappingStart
  else if c = ']' then s.closeBracket .flowSequenceEnd
  else if c = '}' then s.closeBracket .flowMappingEnd
  else if c = ',' then s.comma
  else if c = '-' && endsWord after then s.dash
  else if c = '?' && (!s.inBlock || endsWord after) then s.questionMark
  else if c = ':' && (!s.inBlock || endsWord after) then s.colon
  else if c = '*' then s.keyStart (named .alias)
  else if c = '&' then s.keyStart (named .anchor)
  else if c = '!' then s.keyStart tag
  else if c = '|' && s.inBlock then s.block false
  else if c = '>' && s.inBlock then s.block true
  else if c = '\'' then s.keyStart (quoted false)
  else if c = '"' then s.keyStart (quoted true)
  else if startsPlain s.inBlock c after then s.plain
  else .error .malformed

/-- One token further. At the end of the text the tokens are complete. -/
def step (s : Scanner) : Except Fault (Scanner × Bool) := do
  let s ← s.skipToToken.dropStaleKeys
  let s := s.closeBlocks (some s.cursor.column)
  match s.cursor.head? with
  | some c => return (← s.fetch c, false)
  | none => return (← (s.closeBlocks none).dropKey, true)

/-- The number of tokens that are settled: those before the first token of a pending key. -/
def settled (s : Scanner) : Nat :=
  (s.pending.filter fun entry => !s.isStale entry.2).foldl (fun n entry => min n entry.2.position) s.count

/-- The tokens of the rest of the text. If there is a fault, the tokens before it that are settled come
first. -/
def run : Nat → Scanner → TokenStream
  | 0, s => { tokens := s.tokens.reverse }
  | n + 1, s =>
    match s.step with
    | .error fault => { tokens := s.tokens.reverse.take s.settled, fault := some fault }
    | .ok (s, isDone) => if isDone then { tokens := s.tokens.reverse } else run n s

end Scanner

/-- The tokens of a text. Indentation opens and closes blocks. A key is only known for one when its colon is
found, so the places where a key may have started are kept, and the tokens before it are put in afterwards. -/
def TokenStream.ofText (text : List Char) : TokenStream :=
  if text.all isAllowed then Scanner.run (text.length + 1) { cursor := { rest := text } }
  else { tokens := [], fault := some .malformed }

end ClassDiagram.Yaml
