import ClassDiagram.Yaml.Node.Parse
import ClassDiagram.Yaml.Token.Scan

namespace ClassDiagram.Yaml

/-- How far the values of a document are known: the nodes, the values so far, and the collections that are still
to be worked off. These are taken in the order in which they are met, and scalars at once, so the first fault in
that order is the one that is reported. -/
structure Loader where
  graph : Graph
  values : List (NodeId × Value) := []
  queue : List NodeId := []

namespace Loader

/-- The scalar text of a node; that of a mapping is the one under its value key. -/
def scalarText (g : Graph) : Nat → NodeId → Except Fault String
  | 0, _ => .error .malformed
  | n + 1, id =>
    match (g.get id).content with
    | .scalar text => .ok text
    | .sequence _ => .error .malformed
    | .mapping pairs =>
      match pairs.find? fun pair => (g.get pair.1).tag = .value with
      | none => .error .malformed
      | some pair => scalarText g n pair.2

/-- Takes note of a node: a scalar is read, and a collection is put off. -/
def visit (s : Loader) (id : NodeId) : Except Fault Loader := do
  if (s.values.lookup id).isSome then return s
  else
    let tag := (s.graph.get id).tag
    if tag.isCollection then
      return { s with values := (id, .other) :: s.values, queue := s.queue ++ [id] }
    else if tag = .merge || tag = .value || tag = .unknown then .error .malformed
    else
      let text ← scalarText s.graph (s.graph.nodes.size + 1) id
      return { s with values := (id, ← readScalar tag text) :: s.values }

/-- Takes note of a key, which may not be a collection, and of its value. -/
def visitPair (s : Loader) (pair : NodeId × NodeId) : Except Fault Loader := do
  let s ← s.visit pair.1
  if (s.graph.get pair.1).tag.isCollection then .error .malformed
  else s.visit pair.2

/-- The mappings that a merge takes entries from, the one that counts most last. -/
def mergeSources (g : Graph) (id : NodeId) : Except Fault (List NodeId) :=
  match (g.get id).content with
  | .mapping _ => .ok [id]
  | .sequence items => .ok items.reverse
  | .scalar _ => .error .malformed

/-- The entries of a mapping; other nodes have none to merge. -/
def pairsOf (g : Graph) (id : NodeId) : Except Fault (List (NodeId × NodeId)) :=
  match (g.get id).content with
  | .mapping pairs => .ok pairs
  | _ => .error .malformed

/-- Splits a list at the first element that passes the test. -/
def splitAtFirst (p : α → Bool) (xs : List α) : Option (List α × α × List α) :=
  match xs.dropWhile fun x => !p x with
  | [] => none
  | x :: rest => some (xs.takeWhile fun x => !p x, x, rest)

/-- Replaces the merge keys of a mapping by the entries that they stand for, which come before its own;
`merged` are those found so far. A key that is only the mark of a value becomes a text. Each step takes one
merge key away, so the number of them bounds the steps. -/
def flatten : Nat → Graph → NodeId → List (NodeId × NodeId) → Except Fault Graph
  | 0, g, _, _ => .ok g
  | n + 1, g, id, merged => do
    let pairs ← pairsOf g id
    match splitAtFirst (fun pair => (g.get pair.1).tag = .merge) pairs with
    | none =>
      let g := (pairs.map (·.1)).foldl
        (fun g key => if (g.get key).tag = .value then g.setTag key .text else g) g
      return g.setContent id (.mapping (merged ++ pairs))
    | some (before, pair, after) =>
      let g := g.setContent id (.mapping (before ++ after))
      let sources ← mergeSources g pair.2
      let g ← sources.reverse.foldlM (fun g source => flatten n g source []) g
      let found ← sources.mapM (pairsOf g)
      flatten n g id (merged ++ found.flatten)

/-- The number of merge keys in all mappings. -/
def mergeCount (g : Graph) : Nat :=
  (g.nodes.toList.flatMap fun node =>
    match node.content with
    | .mapping pairs => pairs.filter fun pair => (g.get pair.1).tag = .merge
    | _ => []).length

/-- Works a mapping off. -/
def visitMapping (s : Loader) (id : NodeId) : Except Fault Loader := do
  let graph ← flatten (mergeCount s.graph + 1) s.graph id []
  (← pairsOf graph id).foldlM visitPair { s with graph }

/-- Works off an entry of a list of pairs, which is a mapping of one entry. -/
def visitSinglePair (s : Loader) (id : NodeId) : Except Fault Loader := do
  match ← pairsOf s.graph id with
  | [(key, value)] => (← s.visit key).visit value
  | _ => .error .malformed

/-- Works a collection off. -/
def visitCollection (s : Loader) (id : NodeId) : Except Fault Loader :=
  let node := s.graph.get id
  match node.tag, node.content with
  | .mapping, .mapping _ => s.visitMapping id
  | .set, .mapping _ => s.visitMapping id
  | .sequence, .sequence items => items.foldlM visit s
  | .orderedMapping, .sequence items => items.foldlM visitSinglePair s
  | .pairs, .sequence items => items.foldlM visitSinglePair s
  | _, _ => .error .malformed

/-- Works off the collections in order. Each node is put off once, so the number of nodes bounds the
steps. -/
def drain : Nat → Loader → Except Fault Loader
  | 0, s => .ok s
  | n + 1, s =>
    match s.queue with
    | [] => .ok s
    | id :: queue => do drain n (← visitCollection { s with queue } id)

/-- The value of a node. Of a sequence the scalars are known; other collections have no value of
interest. -/
def valueOf (s : Loader) (id : NodeId) : Value :=
  match (s.graph.get id).tag, (s.graph.get id).content with
  | .sequence, .sequence items => .list (items.map fun item => (s.values.lookup item).getD .other)
  | _, _ => (s.values.lookup id).getD .other

/-- Is a collection empty? -/
def isEmptyCollection (g : Graph) (id : NodeId) : Bool :=
  match (g.get id).content with
  | .scalar _ => false
  | .sequence items => items.isEmpty
  | .mapping pairs => pairs.isEmpty

end Loader

/-- What a document says: the entries of a mapping, those with a text for their key; nothing at all; or
anything else. -/
inductive Loaded where
  | fields (entries : List (String × Value))
  | nothing
  | other

/-- The value under a key. Of several the last counts. -/
def fieldOf (entries : List (String × Value)) (key : String) : Value :=
  (entries.reverse.lookup key).getD .null

/-- What a document says. -/
def Document.load (doc : Document) : Except Fault Loaded := do
  let s ← ({ graph := doc.graph } : Loader).visit doc.root
  let s ← s.drain (doc.graph.nodes.size + 1)
  let root := s.graph.get doc.root
  if root.tag = .mapping then
    let pairs ← Loader.pairsOf s.graph doc.root
    return .fields (pairs.filterMap fun pair =>
      match s.valueOf pair.1 with
      | .text key => some (key, s.valueOf pair.2)
      | _ => none)
  else
    let isNothing :=
      if root.tag.isCollection then Loader.isEmptyCollection s.graph doc.root
      else (s.valueOf doc.root).isNothing
    return if isNothing then .nothing else .other

/-- What a text says. -/
def load (text : String) : Except Fault Loaded := do
  match ← Document.parse (TokenStream.ofText text.toList) with
  | none => return .nothing
  | some doc => doc.load

end ClassDiagram.Yaml
