import ClassDiagram.Rust.Grammar.Pattern

namespace ClassDiagram.Rust.Grammar

open Parse

/-- The operators between two operands, longer ones first. Which of them binds tighter does not matter for what
is accepted, so an expression is read as operands with operators between them. -/
def infixSymbols : List String :=
  ["<<=", ">>=", "&&", "||", "==", "!=", "<=", ">=", "<<", ">>", "+=", "-=", "*=", "/=", "%=", "^=", "&=",
    "|=", "+", "-", "*", "/", "%", "^", "&", "|", "<", ">", "="]

/-- Takes the first of the symbols that is next. -/
def symbolOf : List String → Parse String
  | [] => fail
  | s :: more => (do symbol s; return s) <|> symbolOf more

/-- An operator between two operands. An arrow is none. -/
def infixSymbol : Parse String := do
  require !((← atSymbol "=>") || (← atSymbol "->"))
  symbolOf infixSymbols

/-- Is an operator between two operands next? -/
def atInfix : Parse Bool :=
  succeeds infixSymbol

/-- Is something next that continues an operand: an operator, a dot, an index, a cast? -/
def atContinuation : Parse Bool := do
  return (← atInfix) || (← atPunct '.') || (← atPunct '?') || (← atPunct '[') || (← atWord "as")

/-- Is something next that can only continue an operand? Operators that also stand before an operand may
begin a statement of their own. -/
def atPureContinuation (starters : List String) : Parse Bool := do
  let op ← look fun ts => (infixSymbol.run ts).map (·.1)
  match op with
  | some s => return !starters.contains s
  | none =>
    if ← atSymbol ".." then return (← atSymbol "...") || (← atSymbol "..=")
    return (← atPunct '.') || (← atPunct '?') || (← atWord "as")

/-- The operators that may also begin an expression. -/
def statementStarters : List String :=
  ["-", "*", "&", "|", "<"]

/-- The operators that may also begin a pattern. -/
def patternStarters : List String :=
  ["-", "&", "|", "<"]

/-- May an expression begin here? -/
def atExpressionStart : Parse Bool := do
  if (← atWord "as") || (← atWord "else") then return false
  let isStart (t : Token) : Bool :=
    isLiteral t || t.kind = .word || t.kind = .metavariable ||
      ['-', '*', '!', '&', '(', '[', '{', '|', '<', '\''].any t.isPunctuation
  if ← peek isStart then return true
  return (← atSymbol "::") || (← atSymbol "..")

/-- A macro: its token tree after the exclamation mark. -/
def macroArguments : Parse Unit := do
  punct '!'
  tokenTree

/-- One entry of a struct literal: a field with a value, a field alone, or the struct to take the rest
from. -/
def fieldInitializer (r : Rules) : Parse Unit := do
  if ← atSymbol ".." then
    symbol ".."
    r.expression {}
  else
    let _ ← attributes r
    (do let _ ← token (·.kind = .integer); colon; r.expression {}) <|>
      (do let _ ← anyWord; maybe (do colon; r.expression {}))

/-- The entries of a struct literal in braces. -/
def fieldInitializers (r : Rules) : Parse Unit := do
  punct '{'
  let _ ← commaList (fieldInitializer r)
  punct '}'

/-- What a path stands for in an expression: a macro, a struct literal, or a value. Before a block a brace
opens no struct literal. -/
def pathExpression (r : Rules) (place : Place) : Parse Unit := do
  let form ← path r
  if (form = .name || form = .reserved || form = .scoped || form = .qualified) && (← atBang) then
    macroArguments
  else if !place.beforeBlock && (form = .name || form = .scoped || form = .generic) && (← atPunct '{') then
    fieldInitializers r
  else require (form ≠ .incomplete)

/-- Parentheses: nothing, an expression, or a tuple. -/
def parenthesized (r : Rules) : Parse Unit := do
  punct '('
  if ← atPunct ')' then punct ')'
  else
    let hasAttributes ← attributes r
    r.expression {}
    if hasAttributes || (← atPunct ',') then
      punct ','
      let _ ← many (do r.expression {}; punct ',')
      maybe (r.expression {})
    punct ')'

/-- Brackets: a list of elements, or an element and how often it is repeated. -/
def arrayExpression (r : Rules) : Parse Unit := do
  punct '['
  if !((← atPunct ']') || (← atPunct ',')) then
    let _ ← attributes r
    r.expression {}
    if ← atPunct ';' then
      punct ';'
      r.expression {}
      punct ']'
      return
    let _ ← many (do punct ','; let _ ← attributes r; r.expression {})
  maybe (punct ',')
  punct ']'

/-- The arguments of a call. -/
def arguments (r : Rules) : Parse Unit := do
  punct '('
  let _ ← commaList (do let _ ← attributes r; r.expression {})
  punct ')'

/-- A parameter of a closure. -/
def closureParameter (r : Rules) : Parse Unit :=
  (do
    maybeWord "mut"
    word "self" <|> r.pattern false
    colon
    let _ ← r.type false) <|> r.pattern false

/-- A closure: parameters between bars and a body; one with a result type has a block for its body. -/
def closure (r : Rules) (place : Place) : Parse Unit := do
  maybeWord "static"
  maybeWord "async"
  maybeWord "move"
  punct '|'
  let _ ← commaSeparated (closureParameter r) <|> pure []
  punct '|'
  if ← atSymbol "->" then
    symbol "->"
    let _ ← r.type false
    maybe label
    r.block
  else r.expression place

/-- A block, perhaps with a label. -/
def labelledBlock (r : Rules) : Parse Unit := do
  maybe label
  r.block

/-- One part of a condition: a pattern that is to match, or an expression. -/
def conditionPart (r : Rules) (place : Place) : Parse Unit := do
  if ← atWord "let" then
    word "let"
    r.pattern true
    equals
    r.expression place
  else r.expression place

/-- A condition: parts joined by `&&`. -/
def condition (r : Rules) (beforeBlock : Bool) : Parse Unit := do
  let place : Place := { beforeBlock, inCondition := true }
  conditionPart r place
  let _ ← many (do symbol "&&"; conditionPart r place)

/-- An `if` with its alternatives. -/
def ifExpression (r : Rules) : Parse Unit := do
  word "if"
  condition r true
  labelledBlock r
  let _ ← many (do word "else"; word "if"; condition r true; labelledBlock r)
  maybe (do word "else"; labelledBlock r)

/-- Is the end of a match arm next that needs no comma: the brace, an attribute, or a pattern? -/
def atArmEnd : Parse Bool := do
  return (← atSymbol "..=") || !(← atPureContinuation patternStarters)

/-- The end of a match arm: a comma, or the brace of the match. -/
def armEnd : Parse Unit :=
  punct ',' <|> (do require (← atPunct '}'))

/-- Does an expression that ends in a block begin here? -/
def atBlockLike : Parse Bool := look fun ts =>
  let opensBlock (ts : List Token) : Bool :=
    ts.head?.any fun t => t.isPunctuation '{' || t.isPunctuation '\''
  match ts with
  | [] => false
  | t :: rest =>
    if opensBlock ts || ["if", "match", "loop", "while", "for", "try"].any t.isWord then true
    else if ["unsafe", "const"].any t.isWord then opensBlock rest
    else if ["async", "gen"].any t.isWord then
      opensBlock (if rest.head?.any (·.isWord "move") then rest.drop 1 else rest)
    else false

/-- The value of a match arm and its end. A comma may be left out after a block and at the last arm. -/
def armValue (r : Rules) : Parse Unit := do
  if ← atBlockLike then
    r.blockLike
    if ← atPunct ',' then punct ','
    else if !(← atArmEnd) then
      r.continuation {}
      armEnd
  else
    r.expression {}
    armEnd

/-- One arm of a match. -/
def matchArm (r : Rules) : Parse Unit := do
  let _ ← many (outerAttribute r <|> innerAttribute r)
  r.pattern true
  maybe (do word "if"; condition r false)
  symbol "=>"
  armValue r

/-- A match with its arms. -/
def matchExpression (r : Rules) : Parse Unit := do
  word "match"
  r.expression { beforeBlock := true }
  punct '{'
  let _ ← many (matchArm r)
  punct '}'

/-- A loop over the values of an expression. -/
def forExpression (r : Rules) : Parse Unit := do
  word "for"
  r.pattern true
  word "in"
  r.expression { beforeBlock := true }
  labelledBlock r

/-- Loops and blocks, which may have a label. -/
def loopOrBlock (r : Rules) : Parse Unit := do
  maybe label
  if ← atWord "loop" then
    word "loop"
    labelledBlock r
  else if ← atWord "while" then
    word "while"
    condition r true
    labelledBlock r
  else if ← atWord "for" then forExpression r
  else r.block

/-- Blocks after a word. -/
def wordBlock (r : Rules) : Parse Unit := do
  if ← atWordOf ["async", "gen"] then
    let _ ← anyWord
    maybeWord "move"
  else
    word "unsafe" <|> word "try" <|> word "const"
  labelledBlock r

/-- An expression that ends in a block. -/
def blockLike (r : Rules) : Parse Unit := do
  if ← atWord "if" then ifExpression r
  else if ← atWord "match" then matchExpression r
  else if ← atWordOf ["unsafe", "try", "const", "async", "gen"] then wordBlock r
  else loopOrBlock r

/-- A jump with a value. `return` takes whatever can be its value; `break` leaves an operator or brackets
after it alone. -/
def jump (r : Rules) (place : Place) : Parse Unit := do
  if ← atWord "continue" then
    word "continue"
    maybe lifetime
  else if ← atWord "break" then
    word "break"
    maybe (do lifetime; require !(← atPunct ':'))
    let isBlock ← atPunct '{'
    if !(← atContinuation) && !(← atPunct '(') && !(isBlock && place.beforeBlock) &&
        (← atExpressionStart) then
      r.expression place
  else
    word "return" <|> word "yield"
    let isOperator := (← atSymbol "&&") || (← atSymbol "||") || (← atSymbol "<<") || (← atSymbol "<=")
    if !isOperator && (← atExpressionStart) then r.expression place

/-- The end of a range after its dots, if there is one. -/
def rangeOperand (operand : Parse Unit) (place : Place) : Parse Unit := do
  let isBlock ← atPunct '{'
  if !(← atContinuation) && !(isBlock && place.beforeBlock) && (← atExpressionStart) then operand

/-- An operand without operators before or after it. -/
def primary (r : Rules) (place : Place) : Parse Unit := do
  if ← atPunct '(' then parenthesized r
  else if ← atPunct '[' then arrayExpression r
  else if ← atPunct '|' then closure r place
  else if ← atSymbol ".." then
    symbol ".."
    rangeOperand (r.expression place) place
  else if ← peek isLiteral then literal
  else if ← atWordOf ["return", "yield", "break", "continue"] then jump r place
  else if ← atBlockLike then r.blockLike
  else if ← atWordOf ["static", "async", "move"] then closure r place
  else
    require !(← atWordOf ["unsafe", "const"])
    pathExpression r place

/-- An operator before an operand. -/
def prefixSymbol : Parse Unit := do
  if ← atPunct '&' then
    punct '&'
    maybe ((do word "raw"; word "const" <|> word "mut") <|> word "mut")
  else
    punct '-' <|> punct '*' <|> punct '!'

/-- What may follow an operand: a question mark, a field or method, arguments, or an index. -/
def postfixPart (r : Rules) : Parse Unit := do
  if ← atPunct '?' then punct '?'
  else if ← atPunct '(' then arguments r
  else if ← atPunct '[' then
    punct '['
    r.expression {}
    punct ']'
  else
    require !(← atSymbol "..")
    punct '.'
    (do let _ ← token (·.kind = .integer)) <|> (do
      let _ ← anyWord
      maybe (do symbol "::"; typeArguments r))

/-- An operand with the operators before and after it. -/
def operand (r : Rules) (place : Place) : Parse Unit := do
  let _ ← many prefixSymbol
  primary r place
  let _ ← many (postfixPart r)

/-- An operator with the operand after it, or a cast. In a condition, `let` after `&&` begins the next
part. -/
def infixPart (r : Rules) (place : Place) : Parse Unit := do
  if ← atWord "as" then
    word "as"
    let _ ← r.type true
    let _ ← many (postfixPart r)
  else if ← atSymbol ".." then
    if (← atSymbol "...") || (← atSymbol "..=") then
      rangeSymbol
      operand r place
    else
      symbol ".."
      rangeOperand (operand r place) place
      let _ ← many (postfixPart r)
  else
    let op ← infixSymbol
    if op = "&&" && place.inCondition then require !(← atWord "let")
    operand r place

/-- The rest of an expression whose first operand has been taken. -/
def continuation (r : Rules) (place : Place) : Parse Unit := do
  let _ ← many (postfixPart r)
  let _ ← many (infixPart r place)

/-- An expression. -/
def expression (r : Rules) (place : Place) : Parse Unit := do
  operand r place
  let _ ← many (infixPart r place)

end ClassDiagram.Rust.Grammar
