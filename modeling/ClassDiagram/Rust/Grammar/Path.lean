import ClassDiagram.Rust.Grammar.TokenTree

namespace ClassDiagram.Rust.Grammar

open Parse

/-- The forms of paths in expressions and patterns. -/
inductive PathForm where
  /-- A lone name. -/
  | name
  /-- A lone keyword that is also used as a name. -/
  | reserved
  /-- The name of a primitive type. -/
  | primitive
  /-- A variable of a macro. -/
  | metavariable
  /-- The word `self` alone. -/
  | self
  /-- The word `super` or `crate` alone, to which more belongs. -/
  | incomplete
  /-- Several names, the first of them one that is written out. -/
  | scoped
  /-- Several names after a type in angle brackets. -/
  | qualified
  /-- A path that ends in type arguments. -/
  | generic
deriving Repr, DecidableEq

/-- A lifetime: a quote and a name. -/
def lifetime : Parse Unit := do
  punct '\''
  let _ ← anyWord

/-- A colon that is not the first half of a path separator. -/
def colon : Parse Unit := do
  require !(← atSymbol "::")
  punct ':'

/-- An equals sign that is not the first half of another symbol. -/
def equals : Parse Unit := do
  require !((← atSymbol "==") || (← atSymbol "=>"))
  punct '='

/-- What may stand between plus signs: a lifetime, a type, or one for all lifetimes. -/
def bound (r : Rules) : Parse Unit :=
  (do let _ ← r.type false) <|> lifetime <|> (do word "for"; r.typeParameters; let _ ← r.type false)

/-- Bounds: a colon and one or more types and lifetimes. -/
def traitBounds (r : Rules) : Parse Unit := do
  colon
  bound r
  let _ ← many (do punct '+'; bound r)

/-- Is it a literal? -/
def isLiteral (t : Token) : Bool :=
  t.kind = .integer || t.kind = .float || t.kind = .char || t.kind = .string || t.isWord "true" ||
    t.isWord "false"

/-- A literal. -/
def literal : Parse Unit := do
  let _ ← token isLiteral

/-- A number after a minus sign. -/
def negativeLiteral : Parse Unit := do
  punct '-'
  let _ ← token fun t => t.kind = .integer || t.kind = .float

/-- The name of a loop or block, with its colon. -/
def label : Parse Unit := do
  lifetime
  colon

/-- One type argument: a literal, a block, a lifetime, a type, or a name with the type it is bound to. -/
def typeArgument (r : Rules) : Parse Unit := do
  literal <|> r.block <|> (do label; r.block) <|>
    (do
      let form ← r.type false
      if form = .name || form = .genericName then maybe (do equals; let _ ← r.type false)) <|>
    lifetime
  maybe (traitBounds r)

/-- Type arguments in angle brackets, at least one. -/
def typeArguments (r : Rules) : Parse Unit := do
  punct '<'
  let _ ← commaList1 (typeArgument r)
  punct '>'

/-- A type in angle brackets, perhaps seen as a trait. -/
def bracketedType (r : Rules) : Parse Unit := do
  punct '<'
  let _ ← r.type false
  maybe (do word "as"; let _ ← r.type false)
  punct '>'

/-- The form of a path that is a single word. -/
def wordForm (w : String) : PathForm :=
  if w = "self" then .self
  else if w = "super" || w = "crate" then .incomplete
  else if primitiveTypes.contains w then .primitive
  else if reservedNames.contains w then .reserved
  else .name

/-- The start of a path. -/
def pathStart (r : Rules) : Parse PathForm :=
  (do symbol "::"; let _ ← anyWord; return .scoped) <|>
    (do bracketedType r; symbol "::"; let _ ← anyWord; return .qualified) <|>
    (do let _ ← token (·.kind = .metavariable); return .metavariable) <|>
    (do return wordForm (← anyWord))

/-- One step further along a path: a name, or the type arguments of the names so far. -/
def pathStep (r : Rules) (form : PathForm) : Parse PathForm := do
  symbol "::"
  if ← atPunct '<' then
    require (form = .name || form = .scoped || form = .qualified)
    typeArguments r
    return .generic
  else
    let _ ← anyWord
    return if form = .qualified then .qualified else .scoped

/-- A path in an expression or a pattern. -/
def path (r : Rules) : Parse PathForm := do
  iterate (pathStep r) (← pathStart r)

/-- A plain path, as in attributes and visibilities. -/
def plainPath (r : Rules) : Parse Unit := do
  require ((← path r) ≠ .generic)

end ClassDiagram.Rust.Grammar
