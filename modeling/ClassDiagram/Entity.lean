import ClassDiagram.Declaration

namespace ClassDiagram

/-- The role of an entity. -/
inductive EntityKind where
  | struct
  | enum
  | field
  | method
  | parameter
deriving Repr, DecidableEq, Inhabited

/-- A node of the model that diagrams are drawn from: a type, a member of one, or a parameter, with entities for
its members. The display name is the name of a struct, enum or method and the canonical type of a field or
parameter; `name` is the name of a field, method or parameter and empty otherwise. -/
structure Entity where
  kind : EntityKind
  displayName : String
  name : String := ""
  visibility : Visibility := .hidden
  members : List Entity := []
deriving Repr, Inhabited

namespace Entity

/-- A struct with its members. -/
def ofStruct (displayName : String) (members : List Entity) (visibility : Visibility) : Entity :=
  { kind := .struct, displayName, visibility, members }

/-- An enum, without members. -/
def ofEnum (displayName : String) (visibility : Visibility) : Entity :=
  { kind := .enum, displayName, visibility }

/-- A field with the canonical form of its type. -/
def ofField (name type : String) (members : List Entity) (visibility : Visibility) : Entity :=
  { kind := .field, displayName := type, name, visibility, members }

/-- A method with its parameters. -/
def ofMethod (name : String) (parameters : List Entity) (visibility : Visibility) : Entity :=
  { kind := .method, displayName := name, name, visibility, members := parameters }

/-- A parameter with the canonical form of its type. -/
def ofParameter (name type : String) : Entity :=
  { kind := .parameter, displayName := type, name }

/-- Members get a line of their own in the block of a type: fields and methods do. -/
def isMember (e : Entity) : Bool :=
  e.kind = .field || e.kind = .method

end Entity

end ClassDiagram
