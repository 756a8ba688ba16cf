import ClassDiagram.Text.Utf8
import ClassDiagram.Yaml.Token
import ClassDiagram.Yaml.Token.Scalar

namespace ClassDiagram.Yaml

/-- A name of at least one character. -/
def name (c : Cursor) : Except Fault (String × Cursor) :=
  let cs := c.takeWhile isNameChar
  if cs.isEmpty then .error .malformed else .ok (String.ofList cs, c.skip cs.length)

/-- The name of an anchor or an alias, read from its indicator. -/
def anchorName (c : Cursor) : Except Fault (String × Cursor) := do
  let (text, c) ← name c.next
  let isClosed := endsWord c.head? || c.head?.any ("?:,]\x7d%@`".toList.contains ·)
  if isClosed then .ok (text, c) else .error .malformed

/-- The characters of a tag that stand for themselves. -/
def isTagChar (c : Char) : Bool :=
  c.isAlphanum || "-;/?:@&=+$,_.!~*'()[]".toList.contains c

/-- The bytes that escapes in a tag give. -/
def tagEscapes : Nat → Cursor → Except Fault (List UInt8 × Cursor)
  | 0, c => .ok ([], c)
  | n + 1, c =>
    if c.head? ≠ some '%' then .ok ([], c)
    else
      let digits := c.next.rest.take 2
      match if digits.length = 2 then hexValue? digits else none with
      | none => .error .malformed
      | some byte => do
        let (more, c) ← tagEscapes n (c.skip 3)
        .ok (byte.toUInt8 :: more, c)

/-- The text of a tag; escapes give the bytes of characters. -/
def tagText : Nat → Cursor → Except Fault (List Char × Cursor)
  | 0, c => .ok ([], c)
  | n + 1, c =>
    match c.head? with
    | none => .ok ([], c)
    | some x =>
      if x = '%' then do
        let (bytes, c) ← tagEscapes c.rest.length c
        match Text.decodeUtf8 bytes with
        | .error _ => .error .malformed
        | .ok text =>
          let (more, c) ← tagText n c
          .ok (text.toList ++ more, c)
      else if isTagChar x then do
        let (more, c) ← tagText n c.next
        .ok (x :: more, c)
      else .ok ([], c)

/-- The text of a tag, which is not empty. -/
def tagUri (c : Cursor) : Except Fault (String × Cursor) :=
  if c.head?.any fun x => x == '%' || isTagChar x then do
    let (text, c) ← tagText (c.rest.length + 1) c
    .ok (String.ofList text, c)
  else .error .malformed

/-- A tag handle: an exclamation mark, or a name between two of them. -/
def tagHandle (c : Cursor) : Except Fault (String × Cursor) :=
  if c.head? ≠ some '!' then .error .malformed
  else if c.peek? 1 = some ' ' then .ok ("!", c.next)
  else
    let cs := c.next.takeWhile isNameChar
    let c := c.next.skip cs.length
    if c.head? = some '!' then .ok (String.ofList ('!' :: cs ++ ['!']), c.next) else .error .malformed

/-- A tag in full, in angle brackets. -/
def verbatimTag (c : Cursor) : Except Fault (Token × Cursor) := do
  let (suffix, c) ← tagUri c
  if c.head? = some '>' then .ok (.tag none suffix, c.next) else .error .malformed

/-- A tag that starts with a handle. -/
def handledTag (c : Cursor) : Except Fault (Token × Cursor) :=
  let hasHandle := (c.next.takeWhile fun x => !endsField (some x)).contains '!'
  if hasHandle then do
    let (handle, c) ← tagHandle c
    let (suffix, c) ← tagUri c
    .ok (.tag (some handle) suffix, c)
  else do
    let (suffix, c) ← tagUri c.next
    .ok (.tag (some "!") suffix, c)

/-- A tag, read from its exclamation mark. -/
def tag (c : Cursor) : Except Fault (Token × Cursor) := do
  let (token, c) ←
    if c.peek? 1 = some '<' then verbatimTag (c.skip 2)
    else if endsWord (c.peek? 1) then .ok (.tag none "!", c.next)
    else handledTag c
  if endsField c.head? then .ok (token, c) else .error .malformed

/-- A number in a version. -/
def versionNumber (c : Cursor) : Except Fault (Nat × Cursor) :=
  let digits := c.takeWhile Char.isDigit
  if digits.isEmpty then .error .malformed
  else .ok (digits.foldl (fun n d => 10 * n + (d.toNat - '0'.toNat)) 0, c.skip digits.length)

/-- The rest of a directive that gives a version. -/
def versionDirective (c : Cursor) : Except Fault (Directive × Cursor) := do
  let (major, c) ← versionNumber c.dropSpaces
  if c.head? ≠ some '.' then .error .malformed
  else
    let (_, c) ← versionNumber c.next
    if endsField c.head? then .ok (.version major, c) else .error .malformed

/-- The rest of a directive that gives a tag handle its meaning. -/
def handleDirective (c : Cursor) : Except Fault (Directive × Cursor) := do
  let (handle, c) ← tagHandle c.dropSpaces
  if c.head? ≠ some ' ' then .error .malformed
  else
    let (expansion, c) ← tagUri c.dropSpaces
    if endsField c.head? then .ok (.tagHandle handle expansion, c) else .error .malformed

/-- A directive, read from its percent sign to the end of its line. -/
def directive (c : Cursor) : Except Fault (Directive × Cursor) := do
  let (word, c) ← name c.next
  if !endsField c.head? then .error .malformed
  else
    let (found, c) ←
      if word = "YAML" then versionDirective c
      else if word = "TAG" then handleDirective c
      else .ok (.other, c.dropLine)
    let c := c.dropSpaces
    let c := if c.head? = some '#' then c.dropLine else c
    if endsLine c.head? then .ok (found, c.dropBreak) else .error .malformed

end ClassDiagram.Yaml
