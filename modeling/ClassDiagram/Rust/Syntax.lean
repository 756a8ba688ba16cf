import ClassDiagram.Declaration
import ClassDiagram.Rust.Token

namespace ClassDiagram.Rust

namespace Syntax

/-- A named field. -/
structure Field where
  name : String
  type : Span
  visibility : Visibility
deriving Repr, DecidableEq

/-- What a parameter list may hold. -/
inductive Parameter where
  /-- A receiver without a type. -/
  | receiver (place : Span)
  /-- A pattern with a type. -/
  | typed (pattern type : Span)
  /-- A type alone, or an open end. -/
  | anonymous
deriving Repr, DecidableEq

/-- A function with a body. -/
structure Method where
  name : String
  visibility : Visibility
  parameters : List Parameter
deriving Repr, DecidableEq

/-- A struct. -/
structure Struct where
  name : String
  visibility : Visibility
  shape : Shape
  fields : List Field := []
deriving Repr, DecidableEq

/-- An impl block with its functions. -/
structure Impl where
  target : Span
  isTraitImpl : Bool
  methods : List Method := []
deriving Repr, DecidableEq

end Syntax

/-- An item or a statement as the grammar finds it: names as they are written, and the places of types, patterns
and impl targets in the source. The texts at these places are read off the source at the end. -/
inductive Item where
  | attribute
  | method (method : Syntax.Method)
  | struct (struct : Syntax.Struct)
  | impl (block : Syntax.Impl)
  | enum (enum : EnumDeclaration)
  | other (kind : String)
deriving Repr, DecidableEq

/-- The method that an item is, if it is one. -/
def Item.method? : Item → Option Syntax.Method
  | .method m => some m
  | _ => none

variable (text : Span → String)

/-- The declaration of a field. -/
def Syntax.Field.read (f : Field) : FieldDeclaration where
  name := f.name
  type := text f.type
  visibility := f.visibility

/-- The declaration of a parameter; types without a pattern are left out. -/
def Syntax.Parameter.read? : Parameter → Option ParameterDeclaration
  | .receiver place => some { pattern := text place, isReceiver := true }
  | .typed pattern type =>
    some { pattern := text pattern, type := text type, isReceiver := text pattern == "self" }
  | .anonymous => none

/-- The declaration of a method. -/
def Syntax.Method.read (m : Method) : MethodDeclaration where
  name := m.name
  visibility := m.visibility
  parameters := m.parameters.filterMap (Parameter.read? text)

/-- The declaration of a struct. -/
def Syntax.Struct.read (s : Struct) : StructDeclaration where
  name := s.name
  visibility := s.visibility
  shape := s.shape
  fields := s.fields.map (Field.read text)

/-- The declaration of an impl block. -/
def Syntax.Impl.read (block : Impl) : ImplDeclaration where
  target := text block.target
  isTraitImpl := block.isTraitImpl
  methods := block.methods.map (Method.read text)

/-- The declaration of an item; attributes are none. -/
def Item.read? : Item → Option Declaration
  | .attribute => none
  | .method _ => some (.other "function_item")
  | .struct s => some (.struct (s.read text))
  | .impl block => some (.impl (block.read text))
  | .enum d => some (.enum d)
  | .other kind => some (.other kind)

end ClassDiagram.Rust
