import ClassDiagram.Rust.Grammar.Type

namespace ClassDiagram.Rust.Grammar

open Parse

/-- The symbols between the ends of a range, the longest first. -/
def rangeSymbol : Parse Unit :=
  symbol "..=" <|> symbol "..." <|> symbol ".."

/-- An end of a range: a literal or a path. -/
def rangeEnd (r : Rules) : Parse Unit :=
  literal <|> negativeLiteral <|> plainPath r

/-- The rest of a range after its first end; the last end may be missing after two dots. -/
def rangeRest (r : Rules) : Parse Unit :=
  (do rangeSymbol; rangeEnd r) <|> (do require !(← atSymbol "..." <||> atSymbol "..="); symbol "..")

/-- One field of a struct pattern. -/
def fieldPattern (r : Rules) : Parse Unit := do
  if ← atSymbol ".." then symbol ".."
  else
    maybeWord "ref"
    maybeWord "mut"
    let _ ← anyWord
    maybe (do colon; r.pattern true)

/-- What may follow a path in a pattern: fields, further patterns, a captured pattern, a range, or nothing. -/
def afterPath (r : Rules) (form : PathForm) : Parse Unit := do
  let isName := form = .name
  let isPath := isName || form = .scoped || form = .qualified
  if (isPath || form = .generic) && (← atPunct '(') then
    punct '('
    let _ ← commaList (r.pattern true)
    punct ')'
  else if isPath && (← atPunct '{') then
    punct '{'
    let _ ← commaList (fieldPattern r)
    punct '}'
  else if (isPath || form = .reserved) && (← atBang) then
    punct '!'
    tokenTree
  else if isName && (← atPunct '@') then
    punct '@'
    r.pattern false
  else if (← atSymbol "..") && form ≠ .generic then rangeRest r
  else require (form ≠ .self && form ≠ .incomplete && form ≠ .metavariable)

/-- A pattern without alternatives. A tuple may hold closures in the place of patterns. -/
def simplePattern (r : Rules) (closure : Parse Unit) : Parse Unit := do
  if ← atPunct '(' then
    punct '('
    let _ ← commaList (r.pattern true <|> closure)
    punct ')'
  else if ← atPunct '[' then
    punct '['
    let _ ← commaList (r.pattern true)
    punct ']'
  else if ← atPunct '&' then
    punct '&'
    maybeWord "mut"
    r.pattern false
  else if ← atWord "_" then word "_"
  else if ← atWord "mut" then
    word "mut"
    r.pattern false
  else if ← atWord "ref" then
    word "ref"
    r.pattern false
  else if ← atWord "const" then
    word "const"
    r.block
  else if ← atSymbol ".." then
    (do symbol "..=" <|> symbol ".."; rangeEnd r) <|> symbol ".."
  else if ← atPunct '-' then
    negativeLiteral
    maybe (rangeRest r)
  else if ← peek isLiteral then
    literal
    maybe (rangeRest r)
  else
    afterPath r (← path r)

/-- A pattern; where alternatives are allowed a vertical bar may stand before and between them. -/
def pattern (r : Rules) (closure : Parse Unit) (hasAlternatives : Bool) : Parse Unit := do
  if hasAlternatives then
    maybe (punct '|')
    simplePattern r closure
    let _ ← many (do punct '|'; simplePattern r closure)
  else simplePattern r closure

end ClassDiagram.Rust.Grammar
