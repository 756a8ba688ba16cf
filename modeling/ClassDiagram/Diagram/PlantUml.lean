import ClassDiagram.Entity
import ClassDiagram.Signature

namespace ClassDiagram.PlantUml

/-- The mark before a member. Hidden members are told apart only when asked for. -/
def marker (showVisibility : Bool) (v : Visibility) : String :=
  if showVisibility && v = .hidden then "-" else "+"

/-- A parameter in the list of a method. -/
def parameter (e : Entity) : String :=
  e.name ++ ": " ++ e.displayName

/-- The line of a member. -/
def member (showVisibility : Bool) (e : Entity) : String :=
  let start := "    " ++ marker showVisibility e.visibility ++ " " ++ e.name
  if e.kind = .method then
    let parameters := (e.members.filter (·.kind = .parameter)).map parameter
    start ++ "(" ++ String.intercalate ", " parameters ++ ")\n"
  else start ++ ": " ++ e.displayName ++ "\n"

/-- The block of a type; only structs list their members. -/
def block (showVisibility : Bool) (e : Entity) : String :=
  let keyword := if e.kind = .enum then "enum" else "class"
  let members :=
    if e.kind = .struct then (e.members.filter Entity.isMember).map (member showVisibility) else []
  keyword ++ " \"" ++ e.displayName ++ "\" \x7b\n" ++ String.join members ++ "\x7d"

/-- An edge: the owner refers to the dependency. -/
structure Edge where
  owner : String
  dependency : String
deriving Repr, DecidableEq

/-- The line of an edge. -/
def Edge.line (edge : Edge) : String :=
  "\"" ++ edge.owner ++ "\" <-- \"" ++ edge.dependency ++ "\"\n"

/-- Does a signature refer to a known name? -/
def mentions (known : List String) (type : String) : Bool :=
  (Signature.tokens type).any known.contains

mutual

/-- The edges of a type: for each member, those of the types nested in it, then its own if its display
name refers to a known name. -/
def edges (known : List String) : Entity → List Edge
  | ⟨_, owner, _, _, members⟩ => edgesOfMembers known owner members

/-- The edges of the members of `owner`. -/
def edgesOfMembers (known : List String) (owner : String) : List Entity → List Edge
  | [] => []
  | ⟨kind, displayName, _, _, nested⟩ :: rest =>
    (if kind = .field || kind = .method then
      edgesOfNested known nested ++
        (if mentions known displayName then [⟨owner, displayName⟩] else [])
    else []) ++ edgesOfMembers known owner rest

/-- The edges of the structs among the members of a member. -/
def edgesOfNested (known : List String) : List Entity → List Edge
  | [] => []
  | ⟨kind, displayName, _, _, members⟩ :: rest =>
    (if kind = .struct then edgesOfMembers known displayName members else []) ++
      edgesOfNested known rest

end

/-- The edge lines of a type. -/
def edgeText (known : List String) (e : Entity) : String :=
  String.join ((edges known e).map Edge.line)

/-- The names that edges may lead to: those of the types of the diagram. -/
def knownNames (entities : List Entity) : List String :=
  entities.map (·.displayName)

/-- The whole diagram: a block for every type, then an edge for every member whose type refers to a type of the
diagram. Edges of nested type arguments hang off the full text of the type. -/
def render (showVisibility : Bool) (entities : List Entity) : String :=
  let blocks := String.intercalate "\n\n" (entities.map (block showVisibility))
  let known := knownNames entities
  let edgeLines := String.intercalate "\n\n" (entities.map (edgeText known))
  "@startuml\n\n" ++ blocks ++ "\n" ++ edgeLines ++ "\n@enduml"

end ClassDiagram.PlantUml
