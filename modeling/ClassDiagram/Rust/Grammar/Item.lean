import ClassDiagram.Rust.Grammar.Expression

namespace ClassDiagram.Rust.Grammar

open Parse

/-- The place from which something can be used, in parentheses. -/
def visibilityScope (r : Rules) : Parse Unit := do
  punct '('
  word "self" <|> word "super" <|> word "crate" <|> (do word "in"; plainPath r)
  punct ')'

/-- A visibility; without one an item is hidden. -/
def visibility (r : Rules) : Parse Visibility :=
  (do
    word "pub"
    maybe (visibilityScope r)
    return .exposed) <|>
  (do
    word "crate"
    require !(← atSymbol "::")
    return .exposed) <|>
  pure .hidden

/-- A named field. -/
def field (r : Rules) : Parse Syntax.Field := do
  let _ ← attributes r
  let visibility ← visibility r
  let name ← anyWord
  punct ':'
  let type ← span (do let _ ← r.type false)
  return { name, type, visibility }

/-- Named fields in braces. -/
def fields (r : Rules) : Parse (List Syntax.Field) := do
  punct '{'
  let items ← commaList (field r)
  punct '}'
  return items

/-- A field without a name. A parenthesis after `pub` may also begin its type. -/
def tupleField (r : Rules) : Parse Unit := do
  let _ ← attributes r
  (do let _ ← visibility r; let _ ← r.type false) <|> (do word "pub"; let _ ← r.type false)

/-- Fields without names in parentheses. -/
def tupleFields (r : Rules) : Parse Unit := do
  punct '('
  let _ ← commaList (tupleField r)
  punct ')'

/-- A struct from its name on. -/
def structItem (r : Rules) (visibility : Visibility) : Parse Item := do
  word "struct"
  let name ← anyWord
  maybe r.typeParameters
  if ← atPunct ';' then
    punct ';'
    return .struct { name, visibility, shape := .unit }
  else if ← atPunct '(' then
    tupleFields r
    maybe (whereClause r)
    punct ';'
    return .struct { name, visibility, shape := .tuple }
  else
    maybe (whereClause r)
    let fields ← fields r
    return .struct { name, visibility, shape := .named, fields }

/-- A union. -/
def unionItem (r : Rules) : Parse Item := do
  word "union"
  require !(← atWord "as")
  let _ ← anyWord
  maybe r.typeParameters
  maybe (whereClause r)
  let _ ← fields r
  return .other "union_item"

/-- A variant of an enum. -/
def variant (r : Rules) : Parse Unit := do
  let _ ← attributes r
  let _ ← visibility r
  let _ ← anyWord
  maybe ((do let _ ← fields r) <|> tupleFields r)
  maybe (do punct '='; r.expression {})

/-- An enum from its name on. -/
def enumItem (r : Rules) (visibility : Visibility) : Parse Item := do
  word "enum"
  let name ← anyWord
  maybe r.typeParameters
  maybe (whereClause r)
  punct '{'
  let _ ← commaList (variant r)
  punct '}'
  return .enum { name, visibility }

/-- A type with a value, or, where no visibility is given, the type of a trait without one. -/
def typeItem (r : Rules) (visibility : Visibility) : Parse Item := do
  word "type"
  let _ ← anyWord
  maybe r.typeParameters
  (do
    maybe (whereClause r)
    punct '='
    let _ ← r.type false
    maybe (whereClause r)
    punct ';'
    return .other "type_item") <|>
  (do
    require (visibility = .hidden)
    maybe (traitBounds r)
    maybe (whereClause r)
    punct ';'
    return .other "associated_type")

/-- A function, with what is kept of it; `none` for one without a body. -/
def function (r : Rules) (visibility : Visibility) : Parse (Option Syntax.Method) := do
  functionHead
  let name ← anyWord <|> (do let t ← token (·.kind = .metavariable); return String.ofList t.text)
  maybe r.typeParameters
  let parameters ← parameters r
  maybe (do symbol "->"; let _ ← r.type false)
  maybe (whereClause r)
  if ← atPunct ';' then
    punct ';'
    return none
  else
    maybe label
    r.block
    return some { name, visibility, parameters }

/-- A constant. -/
def constItem (r : Rules) : Parse Item := do
  word "const"
  let _ ← anyWord
  punct ':'
  let _ ← r.type false
  maybe (do punct '='; r.expression {})
  punct ';'
  return .other "const_item"

/-- A static variable. -/
def staticItem (r : Rules) : Parse Item := do
  word "static"
  maybeWord "ref"
  maybeWord "mut"
  let _ ← anyWord
  punct ':'
  let _ ← r.type false
  maybe (do punct '='; r.expression {})
  punct ';'
  return .other "static_item"

/-- A crate that is linked in. -/
def externCrate : Parse Item := do
  word "extern"
  word "crate"
  let _ ← anyWord
  maybe (do word "as"; let _ ← anyWord)
  punct ';'
  return .other "extern_crate_declaration"

/-- The parts of an import after a path: a new name, a list, everything, or nothing. -/
def importTail (list : Parse Unit) : Parse Unit :=
  (do word "as"; let _ ← anyWord) <|> (do symbol "::"; punct '*' <|> list) <|> pure ()

/-- Some imports in braces. -/
def importList (r : Rules) : Parse Unit := do
  punct '{'
  let _ ← commaList r.importClause
  punct '}'

/-- What an import names: a list, everything, or a path with one of these after it. -/
def importClause (r : Rules) : Parse Unit :=
  importList r <|> punct '*' <|> (do symbol "::"; punct '*' <|> importList r) <|> (do
    require ((← path r) ≠ .generic)
    importTail (importList r))

/-- An import. -/
def useItem (r : Rules) : Parse Item := do
  word "use"
  r.importClause
  punct ';'
  return .other "use_declaration"

/-- A local variable. -/
def letItem (r : Rules) : Parse Item := do
  word "let"
  maybeWord "mut"
  r.pattern true
  maybe (do colon; let _ ← r.type false)
  maybe (do equals; r.expression {})
  maybe (do word "else"; labelledBlock r)
  punct ';'
  return .other "let_declaration"

/-- A macro that stands for declarations. -/
def macroItem (r : Rules) : Parse Unit := do
  let form ← path r
  require (form = .name || form = .reserved || form = .scoped || form = .qualified)
  require (← atBang)
  macroArguments

/-- Is a macro definition next? Its exclamation mark stands right after the word. -/
def atMacroDefinition : Parse Bool := look fun ts =>
  match ts with
  | t :: bang :: _ => t.isWord "macro_rules" && bang.isPunctuation '!' && bang.isAdjacent
  | _ => false

/-- Declarations in braces. -/
def itemList (r : Rules) : Parse (List Item) := do
  punct '{'
  let items ← many r.item
  punct '}'
  return items

/-- An impl block: for a trait and a type, or for a type alone. -/
def implItem (r : Rules) : Parse Item := do
  maybeWord "unsafe"
  word "impl"
  maybe r.typeParameters
  let isTraitImpl ← option (do
    maybe (punct '!')
    require (← r.type false).isPath
    word "for")
  let target ← span (do let _ ← r.type false)
  maybe (whereClause r)
  if ← atPunct ';' then
    punct ';'
    return .impl { target, isTraitImpl }
  else
    let items ← itemList r
    return .impl { target, isTraitImpl, methods := items.filterMap Item.method? }

/-- A trait. -/
def traitItem (r : Rules) : Parse Item := do
  maybeWord "unsafe"
  word "trait"
  let _ ← anyWord
  maybe r.typeParameters
  maybe (traitBounds r)
  maybe (whereClause r)
  let _ ← itemList r
  return .other "trait_item"

/-- A module. -/
def modItem (r : Rules) : Parse Item := do
  word "mod"
  let _ ← anyWord
  punct ';' <|> (do let _ ← itemList r)
  return .other "mod_item"

/-- Declarations of another language. -/
def foreignItem (r : Rules) : Parse Item := do
  maybeWord "unsafe"
  externModifier
  punct ';' <|> (do let _ ← itemList r)
  return .other "foreign_mod_item"

/-- A function as an item. -/
def functionItem (r : Rules) (visibility : Visibility) : Parse Item := do
  match ← function r visibility with
  | some method => return .method method
  | none => return .other "function_signature_item"

/-- Does a function begin here: words before `fn`, and `fn`? -/
def atFunction : Parse Bool :=
  succeeds functionHead

/-- Are these two words next? -/
def atWords (first second : String) : Parse Bool := look fun ts =>
  ts.head?.any (·.isWord first) && (ts.drop 1).head?.any (·.isWord second)

/-- An item that may have a visibility. -/
def visibleItem (r : Rules) (visibility : Visibility) : Parse Item := do
  if ← atFunction then functionItem r visibility
  else if ← atWord "struct" then structItem r visibility
  else if ← atWord "enum" then enumItem r visibility
  else if ← atWord "mod" then modItem r
  else if ← atWord "use" then useItem r
  else if ← atWord "const" then constItem r
  else if ← atWord "static" then staticItem r
  else if ← atWord "type" then typeItem r visibility
  else if ← atWord "union" then unionItem r
  else if (← atWord "trait") || (← atWords "unsafe" "trait") then traitItem r
  else if ← atWords "extern" "crate" then externCrate
  else foreignItem r

/-- An item that has no visibility. -/
def bareItem (r : Rules) : Parse Item := do
  if ← atPunct ';' then
    punct ';'
    return .other "empty_statement"
  else if ← atPunct '#' then
    outerAttribute r <|> innerAttribute r
    return .attribute
  else if ← atMacroDefinition then
    word "macro_rules"
    punct '!'
    macroDefinition
    return .other "macro_definition"
  else if ← atWord "let" then letItem r
  else if (← atWord "impl") || (← atWords "unsafe" "impl") then implItem r
  else visibleItem r .hidden

/-- Does an item other than a macro begin here? Words that begin items as well as expressions are judged by
what follows them. -/
def atItem : Parse Bool := do
  let second ← look (·[1]?)
  let opensBlock := second.any fun t => t.isPunctuation '{' || t.isPunctuation '\''
  if (← atPunct ';') || (← atPunct '#') then return true
  if ← atWordOf ["let", "pub", "struct", "enum", "mod", "use", "type", "trait", "impl", "extern", "fn"] then
    return true
  if ← atWordOf ["const", "unsafe"] then return !opensBlock
  if ← atWord "crate" then return !second.any (·.isPunctuation ':')
  if ← atWord "static" then
    return !second.any fun t => t.isPunctuation '|' || t.isWord "move" || t.isWord "async"
  if ← atWord "union" then return second.any fun t => t.kind = .word && !t.isWord "as"
  return (← atMacroDefinition) || (← atFunction)

/-- An item other than a macro. -/
def plainItem (r : Rules) : Parse Item := do
  match ← visibility r with
  | .exposed => visibleItem r .exposed
  | .hidden => bareItem r

/-- A declaration: an item, or a macro that stands for some. -/
def item (r : Rules) : Parse Item := do
  if ← atItem then plainItem r
  else
    macroItem r
    return .other "macro_invocation"

/-- What a statement is: an item, or an expression at the end of a block. -/
inductive Statement where
  | item (item : Item)
  | last

/-- An expression as a statement. -/
def Statement.expression : Statement :=
  .item (.other "expression_statement")

/-- The semicolon after an expression; at the end of a block it may be missing. -/
def statementEnd : Parse Statement :=
  (do punct ';'; return .expression) <|> (do require (← atPunct '}'); return .last)

/-- A statement. An expression that ends in a block, and a macro, need no semicolon unless more of the
expression follows. -/
def statement (r : Rules) : Parse Statement := do
  if ← atItem then return .item (← plainItem r)
  else if ← atBlockLike then
    r.blockLike
    if ← atPureContinuation statementStarters then
      r.continuation {}
      statementEnd
    else return .expression
  else if ← option (macroItem r) then
    if (← atPunct ';') || (← atContinuation) || (← atPunct '(') then
      r.continuation {}
      statementEnd
    else return .item (.other "macro_invocation")
  else
    r.expression {}
    statementEnd

/-- Statements up to a closing brace, at most one for each of the given tokens. -/
def statements (r : Rules) : List Token → Parse Unit
  | [] => pure ()
  | _ :: bound => do
    if !(← atPunct '}') then
      match ← statement r with
      | .item _ => statements r bound
      | .last => pure ()

/-- A block: statements in braces. -/
def block (r : Rules) : Parse Unit := do
  punct '{'
  along (statements r)
  punct '}'

/-- The items of a file; an expression without a semicolon is none of them. -/
def fileItems (r : Rules) : Nat → Parse (List Item)
  | 0 => fail
  | fuel + 1 => do
    if ← look List.isEmpty then return []
    else
      match ← statement r with
      | .item i => return i :: (← fileItems r fuel)
      | .last => fail

/-- A whole file: perhaps an interpreter line, then items to the end. -/
def file (r : Rules) : Parse (List Item) := do
  let hasShebang ← option (do let _ ← token (·.kind = .shebang))
  let items ← along fun ts => fileItems r (ts.length + 1)
  return if hasShebang then .other "shebang" :: items else items

end ClassDiagram.Rust.Grammar
