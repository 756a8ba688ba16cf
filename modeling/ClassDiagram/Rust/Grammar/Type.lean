import ClassDiagram.Rust.Grammar.Path

namespace ClassDiagram.Rust.Grammar

open Parse

/-- The content of an attribute: a path with a value or with arguments. -/
def attributeBody (r : Rules) : Parse Unit := do
  plainPath r
  maybe (tokenTree <|> (do punct '='; r.expression {}))

/-- An attribute. -/
def outerAttribute (r : Rules) : Parse Unit := do
  punct '#'
  punct '['
  attributeBody r
  punct ']'

/-- An attribute of what it stands in. -/
def innerAttribute (r : Rules) : Parse Unit := do
  punct '#'
  punct '!'
  punct '['
  attributeBody r
  punct ']'

/-- Any number of attributes; tells whether there were any. -/
def attributes (r : Rules) : Parse Bool := do
  return !(← many (outerAttribute r)).isEmpty

/-- Is it a string that is not raw? -/
def isPlainString (t : Token) : Bool :=
  t.kind = .string && (t.text.take 2).contains '"' && t.text.head? ≠ some 'r'

/-- The word `extern` and perhaps the name of a calling convention. -/
def externModifier : Parse Unit := do
  word "extern"
  maybe (do let _ ← token isPlainString)

/-- The words before `fn`. -/
def functionModifier : Parse Unit :=
  word "async" <|> word "default" <|> word "const" <|> word "unsafe" <|> word "gen" <|> externModifier

/-- The words before `fn`, and `fn`. -/
def functionHead : Parse Unit := do
  let _ ← many functionModifier
  word "fn"

/-- A receiver: `self`, by value or by reference. -/
def receiver : Parse Unit := do
  maybe (punct '&')
  maybe lifetime
  maybeWord "mut"
  word "self"

/-- The end of a parameter. -/
def atParameterEnd : Parse Bool :=
  return (← atPunct ',') || (← atPunct ')')

/-- A pattern and its type; a leading `mut` is not part of the pattern. -/
def typedParameter (r : Rules) : Parse Syntax.Parameter := do
  maybeWord "mut"
  let pattern ← span (word "self" <|> r.pattern true)
  colon
  (do symbol "..."; return .anonymous) <|>
    (do
      let type ← span (do let _ ← r.type false)
      return .typed pattern type)

/-- A parameter, after at most one attribute. -/
def parameter (r : Rules) : Parse Syntax.Parameter := do
  maybe (outerAttribute r)
  (do
    let taken ← span receiver
    require (← atParameterEnd)
    return .receiver taken) <|>
    typedParameter r <|>
    (do maybeWord "mut"; symbol "..."; return .anonymous) <|>
    (do let _ ← r.type false; return .anonymous)

/-- A parameter list. -/
def parameters (r : Rules) : Parse (List Syntax.Parameter) := do
  punct '('
  let items ← commaList (parameter r)
  punct ')'
  return items

/-- A parameter list and perhaps the type of the result. -/
def functionTail (r : Rules) (isCast : Bool) : Parse Unit := do
  let _ ← parameters r
  maybe (do symbol "->"; let _ ← r.type isCast)

/-- Is a type argument list next? In a cast, `<<` and `<=` are operators. -/
def atTypeArguments (isCast : Bool) : Parse Bool := do
  if isCast && ((← atSymbol "<<") || (← atSymbol "<=")) then return false
  atPunct '<'

/-- The form of a type path so far. -/
inductive TypePathForm where
  | word (form : PathForm)
  | scoped
  | generic (isName : Bool)
  /-- A name with `::` before its arguments, to which more belongs. -/
  | incomplete
deriving Repr, DecidableEq

/-- One step further along a path to a type. -/
def typePathStep (r : Rules) (isCast : Bool) (form : TypePathForm) : Parse TypePathForm := do
  if ← atSymbol "::" then
    symbol "::"
    if ← atPunct '<' then
      require (form = .word .name || form = .scoped)
      typeArguments r
      return .incomplete
    else
      let _ ← anyWord
      return .scoped
  else
    require (form = .word .name || form = .word .reserved || form = .scoped)
    require (← atTypeArguments isCast)
    typeArguments r
    return .generic (form = .word .name)

/-- A path to a type. -/
def typePath (r : Rules) (isCast : Bool) : Parse TypePathForm := do
  let start ← pathStart r
  let form := if start = .scoped || start = .qualified then .scoped else .word start
  iterate (typePathStep r isCast) form

/-- The exclamation mark of a macro, which no equals sign follows. -/
def atBang : Parse Bool := do
  return (← atPunct '!') && !(← atSymbol "!=")

/-- A named type: a path, a trait with a parameter list, or a macro. -/
def namedType (r : Rules) (isCast : Bool) : Parse TypeForm := do
  let form ← typePath r isCast
  let canApply := form = .word .name || form = .scoped
  if canApply && (← atPunct '(') then
    functionTail r isCast
    return .other
  else if (canApply || form = .word .reserved) && (← atBang) then
    punct '!'
    tokenTree
    return .other
  else
    match form with
    | .word .name => return .name
    | .word .primitive => return .primitive
    | .word .metavariable => return .other
    | .scoped => return .scoped
    | .generic isName => return if isName then .genericName else .generic
    | _ => fail

/-- Lifetimes that a function type holds for. -/
def forLifetimes : Parse Unit := do
  word "for"
  punct '<'
  let _ ← commaList1 lifetime
  punct '>'

/-- A function type: `fn`, or a trait with a parameter list. -/
def functionType (r : Rules) (isCast : Bool) : Parse Unit := do
  maybe forLifetimes
  (do functionHead; functionTail r isCast) <|>
    (do
      let form ← typePath r isCast
      require (form = .word .name || form = .scoped)
      functionTail r isCast)

/-- Some types in parentheses. -/
def tupleType (r : Rules) : Parse Unit := do
  punct '('
  let _ ← commaList1 (r.type false)
  punct ')'

/-- A named type that is a trait: not a primitive type, and not a macro. -/
def traitName (r : Rules) (isCast : Bool) : Parse Unit := do
  let form ← typePath r isCast
  if form = .word .name || form = .scoped then
    if ← atPunct '(' then functionTail r isCast
  else
    require (form = .generic true || form = .generic false)

/-- The words that begin a function type. -/
def functionWords : List String :=
  ["fn", "unsafe", "extern", "async", "const"]

/-- What may follow `impl`: a trait, or traits in parentheses. -/
def abstractTrait (r : Rules) (isCast : Bool) : Parse Unit := do
  if ← atPunct '?' then
    punct '?'
    let _ ← r.type isCast
  else if ← atPunct '(' then tupleType r
  else if ← atPunct '\'' then
    lifetime
    require (← atPunct '+')
  else if ← atWordOf functionWords then functionType r isCast
  else traitName r isCast

/-- What implements a trait: `impl` and the trait. -/
def abstractType (r : Rules) (isCast : Bool) : Parse Unit := do
  word "impl"
  if ← atWord "for" then
    functionType r isCast <|> (do word "for"; r.typeParameters; abstractTrait r isCast)
  else abstractTrait r isCast

/-- What implements a trait at run time: `dyn` and the trait. -/
def dynamicType (r : Rules) (isCast : Bool) : Parse Unit := do
  word "dyn"
  if ← atWord "for" then
    functionType r isCast <|> (do word "for"; r.typeParameters; let _ ← r.type isCast)
  else if ← atPunct '(' then tupleType r
  else if ← atWordOf functionWords then functionType r isCast
  else traitName r isCast

/-- The lifetimes and types that an abstract type captures. -/
def useBounds : Parse Unit := do
  word "use"
  punct '<'
  let _ ← commaList (lifetime <|> (do let _ ← anyWord))
  punct '>'

/-- A type that is not a sum of bounds. -/
def simpleType (r : Rules) (isCast : Bool) : Parse TypeForm := do
  if ← atPunct '&' then
    punct '&'
    maybe lifetime
    maybeWord "mut"
    let _ ← r.type isCast
    return .reference
  else if ← atPunct '*' then
    punct '*'
    word "const" <|> word "mut"
    let _ ← r.type isCast
    return .pointer
  else if ← atPunct '(' then
    (do tupleType r; return .tuple) <|> (do punct '('; punct ')'; return .other)
  else if ← atPunct '[' then
    punct '['
    let _ ← r.type false
    maybe (do punct ';'; r.expression {})
    punct ']'
    return .array
  else if ← atPunct '!' then
    punct '!'
    return .other
  else if ← atPunct '?' then
    punct '?'
    let _ ← r.type isCast
    return .other
  else if ← atWord "impl" then
    abstractType r isCast
    return .other
  else if ← atWord "dyn" then
    dynamicType r isCast
    return .other
  else if ← atWordOf ("for" :: functionWords) then
    functionType r isCast
    return .other
  else
    (do functionHead; functionTail r isCast; return .other) <|> namedType r isCast

/-- A lifetime or captured names, where a sum of bounds begins with them. -/
def leadingBound : Parse TypeForm := do
  lifetime <|> useBounds
  require (← atPunct '+')
  return .other

/-- A type, with the bounds added to it. The type of a cast takes in no plus sign. -/
def type (r : Rules) (isCast : Bool) : Parse TypeForm := do
  let form ← leadingBound <|> simpleType r isCast
  if isCast then return form
  let more ← many (do
    punct '+'
    lifetime <|> useBounds <|> (do let _ ← simpleType r false))
  return if more.isEmpty then form else .other

/-- The value that a constant parameter has if none is given. -/
def constantDefault (r : Rules) : Parse Unit :=
  r.block <|> literal <|> negativeLiteral <|> (do let _ ← anyWord)

/-- One type parameter: a lifetime, a constant, or a name, with bounds and a default. -/
def typeParameter (r : Rules) : Parse Unit := do
  let _ ← attributes r
  if ← atWord "const" then
    word "const"
    let _ ← anyWord
    colon
    let _ ← r.type false
    maybe (do equals; constantDefault r)
  else
    (do lifetime; maybe (traitBounds r)) <|>
      (do let _ ← token (·.kind = .metavariable)) <|>
      (do
        let _ ← anyWord
        maybe (traitBounds r)
        maybe (do equals; let _ ← r.type false))

/-- Type parameters in angle brackets, at least one. -/
def typeParameters (r : Rules) : Parse Unit := do
  punct '<'
  let _ ← commaList1 (typeParameter r)
  punct '>'

/-- One condition: a lifetime or a type, and its bounds. -/
def wherePredicate (r : Rules) : Parse Unit := do
  (do word "for"; r.typeParameters; let _ ← r.type false) <|>
    (do let form ← r.type false; require (form ≠ .other)) <|>
    lifetime
  traitBounds r

/-- Conditions on types and lifetimes; the list may be empty. -/
def whereClause (r : Rules) : Parse Unit := do
  word "where"
  let _ ← commaList (wherePredicate r)

end ClassDiagram.Rust.Grammar
