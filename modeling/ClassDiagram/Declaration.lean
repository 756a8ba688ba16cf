namespace ClassDiagram

/-- Whether a type or a member can be used from outside its module. -/
inductive Visibility where
  | exposed
  | hidden
deriving Repr, DecidableEq, Inhabited

/-- A named field. -/
structure FieldDeclaration where
  name : String
  type : String
  visibility : Visibility := .hidden
deriving Repr, DecidableEq

/-- How a struct lists its fields: by name in braces, by position in parentheses, or not at all. -/
inductive Shape where
  | named
  | tuple
  | unit
deriving Repr, DecidableEq

/-- A struct; only one with named fields carries fields. -/
structure StructDeclaration where
  name : String
  visibility : Visibility := .hidden
  shape : Shape := .named
  fields : List FieldDeclaration := []
deriving Repr, DecidableEq

/-- A parameter of a function: the pattern it binds, its type, and whether it is the receiver. -/
structure ParameterDeclaration where
  pattern : String
  type : String := ""
  isReceiver : Bool := false
deriving Repr, DecidableEq

/-- A function with a body, declared in an impl block. -/
structure MethodDeclaration where
  name : String
  visibility : Visibility := .hidden
  parameters : List ParameterDeclaration := []
deriving Repr, DecidableEq

/-- An impl block: the type it is for, whether it implements a trait, and its functions. -/
structure ImplDeclaration where
  target : String
  isTraitImpl : Bool := false
  methods : List MethodDeclaration := []
deriving Repr, DecidableEq

/-- An enum; its variants are not kept. -/
structure EnumDeclaration where
  name : String
  visibility : Visibility := .hidden
deriving Repr, DecidableEq

/-- A declaration at the top level of a file; of other kinds only the kind is kept. -/
inductive Declaration where
  | struct (declaration : StructDeclaration)
  | impl (declaration : ImplDeclaration)
  | enum (declaration : EnumDeclaration)
  | other (kind : String)
deriving Repr, DecidableEq

/-- The declarations of one source text, in order, and the path it was read from, if any. -/
structure SourceUnit where
  path : Option String := none
  declarations : List Declaration := []
deriving Repr, DecidableEq

/-- How messages refer to a source text: by its path, or as a text in memory. -/
def sourceName (path : Option String) : String :=
  match path with
  | none => "<memory>"
  | some p => if p = "" then "<memory>" else p

end ClassDiagram
