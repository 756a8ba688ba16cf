import ClassDiagram.Yaml.Tag

namespace ClassDiagram.Yaml

/-- The number of a node in its graph. -/
abbrev NodeId := Nat

/-- What a node holds. -/
inductive Content where
  | scalar (text : String)
  | sequence (items : List NodeId)
  | mapping (pairs : List (NodeId × NodeId))
deriving Repr, Inhabited

/-- A node. -/
structure Node where
  tag : Tag
  content : Content
deriving Repr, Inhabited

/-- The nodes of a document. An alias stands for the node that it names, so nodes may be shared and may even
hold themselves; they refer to each other by number. -/
structure Graph where
  nodes : Array Node := #[]
deriving Repr, Inhabited

namespace Graph

/-- The node with a number. -/
def get (g : Graph) (id : NodeId) : Node :=
  g.nodes.getD id default

/-- Adds a node, whose number is the number of nodes so far. -/
def push (g : Graph) (node : Node) : Graph :=
  ⟨g.nodes.push node⟩

/-- Puts another node in the place of one. -/
def set (g : Graph) (id : NodeId) (node : Node) : Graph :=
  ⟨g.nodes.setIfInBounds id node⟩

/-- Gives a node another content. -/
def setContent (g : Graph) (id : NodeId) (content : Content) : Graph :=
  g.set id { g.get id with content }

/-- Gives a node another kind. -/
def setTag (g : Graph) (id : NodeId) (tag : Tag) : Graph :=
  g.set id { g.get id with tag }

end Graph

/-- The root of a document in its graph. -/
structure Document where
  graph : Graph
  root : NodeId
deriving Repr

end ClassDiagram.Yaml
