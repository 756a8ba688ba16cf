import ClassDiagram.Proofs.Rust.Reads

namespace ClassDiagram.Rust.Core

/-- The keywords: those in use, those kept for later, and those that are keywords in some places only. -/
def keywords : List String :=
  ["as", "async", "await", "break", "const", "continue", "crate", "dyn", "else", "enum", "extern", "false", "fn",
    "for", "if", "impl", "in", "let", "loop", "match", "mod", "move", "mut", "pub", "ref", "return", "self", "Self",
    "static", "struct", "super", "trait", "true", "type", "unsafe", "use", "where", "while",
    "abstract", "become", "box", "do", "final", "gen", "macro", "override", "priv", "try", "typeof", "unsized",
    "virtual", "yield",
    "default", "macro_rules", "raw", "safe", "union"]

/-- A name of ASCII that is neither a keyword nor the name of a type built into the language. -/
structure Name where
  text : String
  isWord : Build.isWord text.toList = true := by decide
  ne_underscore : text ≠ "_" := by decide
  notMem_keywords : text ∉ keywords := by decide
  notMem_primitiveTypes : text ∉ Grammar.primitiveTypes := by decide

abbrev Name.lexeme (n : Name) : Lexeme :=
  .word n.text n.isWord

/-- A name, perhaps with types as its arguments. -/
inductive Ty where
  | mk (name : Name) (arguments : List Ty)

def Ty.lexemes : Ty → List Lexeme
  | .mk name arguments =>
    if arguments.isEmpty then [name.lexeme]
    else name.lexeme :: enclosed (.mark '<') (.mark '>') (commaLexemes (arguments.map fun t => t.lexemes) false)

/-- The type as it is written without blanks. -/
def Ty.text (t : Ty) : String :=
  written t.lexemes

def visibilityLexemes : Visibility → List Lexeme
  | .exposed => [.word "pub"]
  | .hidden => []

structure Field where
  visibility : Visibility
  name : Name
  type : Ty

namespace Field

def lexemes (f : Field) : List Lexeme :=
  visibilityLexemes f.visibility ++ f.name.lexeme :: .mark ':' :: f.type.lexemes

def declaration (f : Field) : FieldDeclaration where
  name := f.name.text
  type := f.type.text
  visibility := f.visibility

end Field

inductive Receiver where
  | value
  | reference
  | mutableReference

/-- What a parameter list holds: the receiver, or a name with its type. -/
inductive Parameter where
  | receiver (receiver : Receiver)
  | named (name : Name) (type : Ty)

namespace Parameter

def lexemes : Parameter → List Lexeme
  | receiver .value => [.word "self"]
  | receiver .reference => [.mark '&', .word "self"]
  | receiver .mutableReference => [.mark '&', .word "mut", .word "self"]
  | named name type => name.lexeme :: .mark ':' :: type.lexemes

def declaration : Parameter → ParameterDeclaration
  | receiver .value => { pattern := "self", isReceiver := true }
  | receiver .reference => { pattern := "&self", isReceiver := true }
  | receiver .mutableReference => { pattern := "&mut self", isReceiver := true }
  | named name type => { pattern := name.text, type := type.text }

end Parameter

/-- A method with an empty body. Its parameters may end in a comma. -/
structure Method where
  name : Name
  receiver : Option Receiver
  parameters : List (Name × Ty)
  comma : Bool

namespace Method

/-- The receiver, if there is one, and the other parameters. -/
def allParameters (m : Method) : List Parameter :=
  m.receiver.toList.map .receiver ++ m.parameters.map fun (name, type) => .named name type

def lexemes (m : Method) (visibility : Visibility) : List Lexeme :=
  visibilityLexemes visibility ++ .word "fn" :: m.name.lexeme ::
    (enclosed (.mark '(') (.mark ')') (commaLexemes (m.allParameters.map Parameter.lexemes) m.comma) ++
      [.mark '{', .mark '}'])

def declaration (m : Method) (visibility : Visibility) : MethodDeclaration where
  name := m.name.text
  visibility := visibility
  parameters := m.allParameters.map Parameter.declaration

end Method

/-- An item. Fields and variants may end in a comma. Neither impl blocks nor the methods of a trait have a
visibility. -/
inductive Item where
  | struct (visibility : Visibility) (name : Name) (fields : List Field) (comma : Bool)
  | unitStruct (visibility : Visibility) (name : Name)
  | enum (visibility : Visibility) (name : Name) (variants : List Name) (comma : Bool)
  | inherentImpl (target : Name) (methods : List (Visibility × Method))
  | traitImpl (trait : Ty) (target : Name) (methods : List Method)

/-- The target of an impl block and its methods in braces. -/
def implLexemes (target : Name) (methods : List (Visibility × Method)) : List Lexeme :=
  target.lexeme :: enclosed (.mark '{') (.mark '}') (methods.flatMap fun (visibility, m) => m.lexemes visibility)

namespace Item

def lexemes : Item → List Lexeme
  | struct visibility name fields comma =>
    visibilityLexemes visibility ++ .word "struct" :: name.lexeme ::
      enclosed (.mark '{') (.mark '}') (commaLexemes (fields.map Field.lexemes) comma)
  | unitStruct visibility name =>
    visibilityLexemes visibility ++ [.word "struct", name.lexeme, .mark ';']
  | enum visibility name variants comma =>
    visibilityLexemes visibility ++ .word "enum" :: name.lexeme ::
      enclosed (.mark '{') (.mark '}') (commaLexemes (variants.map fun v => [v.lexeme]) comma)
  | inherentImpl target methods => .word "impl" :: implLexemes target methods
  | traitImpl trait target methods =>
    .word "impl" :: (trait.lexemes ++ .word "for" :: implLexemes target (methods.map (.hidden, ·)))

def declaration : Item → Declaration
  | struct visibility name fields _ =>
    .struct { name := name.text, visibility, shape := .named, fields := fields.map Field.declaration }
  | unitStruct visibility name => .struct { name := name.text, visibility, shape := .unit }
  | enum visibility name _ _ => .enum { name := name.text, visibility }
  | inherentImpl target methods =>
    .impl { target := target.text, methods := methods.map fun (visibility, m) => m.declaration visibility }
  | traitImpl _ target methods =>
    .impl { target := target.text, isTraitImpl := true, methods := methods.map (Method.declaration · .hidden) }

end Item

/-- Items as a source text, with the blanks of the layout between their lexemes. -/
def print (layout : Layout) (items : List Item) : String :=
  String.ofList (layout.chars none (items.flatMap Item.lexemes))

example : print (fun _ => ⟨[], by simp⟩) [.unitStruct .exposed { text := "Ticket" }] = "pub struct Ticket;" := by
  decide +kernel

end ClassDiagram.Rust.Core

namespace ClassDiagram

/-- The field with its type in canonical form. -/
def FieldDeclaration.canonical (d : FieldDeclaration) : FieldDeclaration :=
  { d with type := Signature.canonical d.type }

/-- The parameter with its type in canonical form, and with its text so if it is the receiver. -/
def ParameterDeclaration.canonical (d : ParameterDeclaration) : ParameterDeclaration :=
  { d with
    pattern := if d.isReceiver then Signature.canonical d.pattern else d.pattern
    type := Signature.canonical d.type }

def MethodDeclaration.canonical (d : MethodDeclaration) : MethodDeclaration :=
  { d with parameters := d.parameters.map ParameterDeclaration.canonical }

/-- The declaration with the types and receivers in it in canonical form. -/
def Declaration.canonical : Declaration → Declaration
  | .struct d => .struct { d with fields := d.fields.map FieldDeclaration.canonical }
  | .impl d => .impl { d with methods := d.methods.map MethodDeclaration.canonical }
  | .enum d => .enum d
  | .other kind => .other kind

end ClassDiagram
