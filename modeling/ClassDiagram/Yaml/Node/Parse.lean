import ClassDiagram.Yaml.Node
import ClassDiagram.Yaml.Scalar
import ClassDiagram.Yaml.Token

namespace ClassDiagram.Yaml

/-- What is known while the tokens of a document are read. -/
structure ParserState where
  stream : TokenStream
  handles : List (String × String) := []
  graph : Graph := {}
  anchors : List (String × NodeId) := []

/-- A parser of tokens. -/
abbrev Parser := StateT ParserState (Except Fault)

namespace Parser

/-- The next token, nothing at the end of the text. -/
def peek? : Parser (Option Token) := do
  let state ← get
  match state.stream.tokens, state.stream.fault with
  | token :: _, _ => return some token
  | [], none => return none
  | [], some fault => throw fault

/-- Is the next token one of these? -/
def peekIs (tokens : List Token) : Parser Bool := do
  return (← peek?).any tokens.contains

/-- Past the next token. -/
def advance : Parser Unit :=
  modify fun state => { state with stream.tokens := state.stream.tokens.tail }

/-- Passes the next token if it is this one, and tells whether it was. -/
def accept (token : Token) : Parser Bool := do
  if ← peekIs [token] then
    advance
    return true
  else return false

/-- The next token has to be this one. -/
def expect (token : Token) : Parser Unit := do
  if !(← accept token) then throw .malformed

/-- Adds a node and names it by an anchor if one is given. -/
def addNode (anchor : Option String) (node : Node) : Parser NodeId := do
  let state ← get
  let id := state.graph.nodes.size
  let anchors :=
    match anchor with
    | none => state.anchors
    | some name => (name, id) :: state.anchors
  set { state with graph := state.graph.push node, anchors }
  return id

/-- A scalar that is left out. -/
def emptyScalar : Parser NodeId :=
  addNode none { tag := .null, content := .scalar "" }

/-- The handles that every document knows. -/
def standardHandles : List (String × String) :=
  [("!", "!"), ("!!", Tag.space)]

/-- The anchor, if one comes next. -/
def anchor? : Parser (Option String) := do
  match ← peek? with
  | some (.anchor name) =>
    advance
    return some name
  | _ => return none

/-- The tag, if one comes next, with its handle still to be replaced. -/
def tag? : Parser (Option (Option String × String)) := do
  match ← peek? with
  | some (.tag handle suffix) =>
    advance
    return some (handle, suffix)
  | _ => return none

/-- The anchor and the tag of a node, which may come in either order. -/
def properties : Parser (Option String × Option (Option String × String)) := do
  match ← anchor? with
  | some anchor => return (some anchor, ← tag?)
  | none =>
    match ← tag? with
    | some tag => return (← anchor?, some tag)
    | none => return (none, none)

/-- The name of a tag in full. -/
def tagName (tag : Option String × String) : Parser String := do
  match tag with
  | (none, suffix) => return suffix
  | (some handle, suffix) =>
    match (← get).handles.lookup handle with
    | none => throw .malformed
    | some expansion => return expansion ++ suffix

/-- The kind of a node, `implied` if it names none. -/
def kind (name? : Option String) (implied : Tag) : Tag :=
  match name? with
  | none => implied
  | some name => if name = "!" then implied else Tag.ofName name

/-- An anchor may be used once only. -/
def checkAnchor (anchor : Option String) : Parser Unit := do
  match anchor with
  | none => return
  | some name => if ((← get).anchors.lookup name).isSome then throw .malformed

/-- Where a node stands: whether it may be a block collection, and whether it may be a sequence whose
dashes are not indented. -/
structure Context where
  allowsBlock : Bool := false
  allowsDashes : Bool := false

/-- Adds an empty collection, reads what it holds, and fills it. The node exists before its content, which
may refer to it. -/
def collection (anchor : Option String) (tag : Tag) (content : Parser Content) : Parser NodeId := do
  let id ← addNode anchor { tag, content := .sequence [] }
  let content ← content
  modify fun state => { state with graph := state.graph.setContent id content }
  return id

/-- A node of which nothing but an anchor or a tag is written. -/
def bareNode (anchor name? : Option String) : Parser NodeId := do
  if anchor.isNone && name?.isNone then throw .malformed
  checkAnchor anchor
  addNode anchor { tag := kind name? .null, content := .scalar "" }

mutual

/-- A node. -/
def node : Nat → Context → Parser NodeId
  | 0, _ => throw .malformed
  | n + 1, context => do
    match ← peek? with
    | some (.alias name) =>
      advance
      match (← get).anchors.lookup name with
      | some id => return id
      | none => throw .malformed
    | _ =>
      let (anchor, tag) ← properties
      let name? ← tag.mapM tagName
      let token? ← peek?
      let isPlainTag := name?.all (· == "!")
      match token? with
      | some .blockEntry =>
        if context.allowsDashes then
          checkAnchor anchor
          collection anchor (kind name? .sequence) (dashedItems n [])
        else bareNode anchor name?
      | some (.scalar text isPlain) =>
        advance
        checkAnchor anchor
        let implied := if isPlain || (name?.isSome && isPlainTag) then Tag.ofPlain text else .text
        addNode anchor { tag := kind name? implied, content := .scalar text }
      | some .flowSequenceStart =>
        advance
        checkAnchor anchor
        collection anchor (kind name? .sequence) (flowItems n true [])
      | some .flowMappingStart =>
        advance
        checkAnchor anchor
        collection anchor (kind name? .mapping) (flowPairs n true [])
      | some .blockSequenceStart =>
        if context.allowsBlock then
          advance
          checkAnchor anchor
          collection anchor (kind name? .sequence) (blockItems n [])
        else bareNode anchor name?
      | some .blockMappingStart =>
        if context.allowsBlock then
          advance
          checkAnchor anchor
          collection anchor (kind name? .mapping) (blockPairs n [])
        else bareNode anchor name?
      | _ => bareNode anchor name?

/-- A node, or an empty scalar if one of the given tokens comes next. -/
def nodeUnless : Nat → Context → List Token → Parser NodeId
  | 0, _, _ => throw .malformed
  | n + 1, context, ends => do
    if ← peekIs ends then emptyScalar else node n context

/-- The entries of a block sequence. -/
def blockItems : Nat → List NodeId → Parser Content
  | 0, _ => throw .malformed
  | n + 1, items => do
    if ← accept .blockEntry then
      let item ← nodeUnless n { allowsBlock := true } [.blockEntry, .blockEnd]
      blockItems n (item :: items)
    else
      expect .blockEnd
      return .sequence items.reverse

/-- The entries of a sequence whose dashes are not indented. -/
def dashedItems : Nat → List NodeId → Parser Content
  | 0, _ => throw .malformed
  | n + 1, items => do
    if ← accept .blockEntry then
      let item ← nodeUnless n { allowsBlock := true } [.blockEntry, .key, .value, .blockEnd]
      dashedItems n (item :: items)
    else return .sequence items.reverse

/-- The entries of a block mapping. -/
def blockPairs : Nat → List (NodeId × NodeId) → Parser Content
  | 0, _ => throw .malformed
  | n + 1, pairs => do
    let context : Context := { allowsBlock := true, allowsDashes := true }
    let ends : List Token := [.key, .value, .blockEnd]
    if ← accept .key then
      let key ← nodeUnless n context ends
      let value ← if ← accept .value then nodeUnless n context ends else emptyScalar
      blockPairs n ((key, value) :: pairs)
    else
      expect .blockEnd
      return .mapping pairs.reverse

/-- The value of an entry between brackets. -/
def flowValue : Nat → Token → Parser NodeId
  | 0, _ => throw .malformed
  | n + 1, closing => do
    if ← accept .value then nodeUnless n {} [.flowEntry, closing] else emptyScalar

/-- The entries of a sequence in brackets. A key among them makes a mapping of one entry. -/
def flowItems : Nat → Bool → List NodeId → Parser Content
  | 0, _, _ => throw .malformed
  | n + 1, isFirst, items => do
    if ← accept .flowSequenceEnd then return .sequence items.reverse
    if !isFirst then expect .flowEntry
    if ← peekIs [.key] then
      let item ← collection none .mapping (singlePair n)
      flowItems n false (item :: items)
    else if ← accept .flowSequenceEnd then return .sequence items.reverse
    else
      let item ← node n {}
      flowItems n false (item :: items)

/-- A mapping of one entry. -/
def singlePair : Nat → Parser Content
  | 0 => throw .malformed
  | n + 1 => do
    advance
    let key ← nodeUnless n {} [.value, .flowEntry, .flowSequenceEnd]
    let value ← flowValue n .flowSequenceEnd
    return .mapping [(key, value)]

/-- The entries of a mapping in braces. -/
def flowPairs : Nat → Bool → List (NodeId × NodeId) → Parser Content
  | 0, _, _ => throw .malformed
  | n + 1, isFirst, pairs => do
    if ← accept .flowMappingEnd then return .mapping pairs.reverse
    if !isFirst then expect .flowEntry
    if ← accept .key then
      let key ← nodeUnless n {} [.value, .flowEntry, .flowMappingEnd]
      let value ← flowValue n .flowMappingEnd
      flowPairs n false ((key, value) :: pairs)
    else if ← accept .flowMappingEnd then return .mapping pairs.reverse
    else
      let key ← node n {}
      let value ← emptyScalar
      flowPairs n false ((key, value) :: pairs)

end

/-- The directives before a document: at most one version, which has to be the first, and one meaning for
each handle. -/
def directives : Nat → Bool → List (String × String) → Parser (List (String × String))
  | 0, _, handles => return handles
  | n + 1, hasVersion, handles => do
    match ← peek? with
    | some (.directive (.version major)) =>
      if hasVersion || major ≠ 1 then throw .malformed
      advance
      directives n true handles
    | some (.directive (.tagHandle handle expansion)) =>
      if (handles.lookup handle).isSome then throw .malformed
      advance
      directives n hasVersion ((handle, expansion) :: handles)
    | some (.directive .other) =>
      advance
      directives n hasVersion handles
    | _ => return handles

/-- Passes the marks that end a document. -/
def documentEnds : Nat → Parser Unit
  | 0 => return
  | n + 1 => do
    if ← accept .documentEnd then documentEnds n

/-- Is the next token a directive? -/
def peekDirective : Parser Bool := do
  match ← peek? with
  | some (.directive _) => return true
  | _ => return false

/-- The start of an explicit document. -/
def explicitStart (n : Nat) : Parser Unit := do
  let handles ← directives n false []
  modify fun state => { state with handles := handles ++ standardHandles }
  expect .documentStart

/-- The content of an explicit document. -/
def explicitContent (n : Nat) : Parser NodeId := do
  let token? ← peek?
  if token?.isNone || (← peekDirective) || (← peekIs [.documentStart, .documentEnd]) then emptyScalar
  else node n { allowsBlock := true }

/-- The document, if there is one. There may be no second. -/
def document (n : Nat) : Parser (Option NodeId) := do
  if (← peek?).isNone then return none
  let root ←
    if (← peekDirective) || (← peekIs [.documentStart]) then do
      explicitStart n
      explicitContent n
    else do
      modify fun state => { state with handles := standardHandles }
      node n { allowsBlock := true }
  documentEnds n
  if (← peek?).isSome then
    explicitStart n
    throw .malformed
  return some root

end Parser

/-- A bound on the steps that a number of tokens can take. -/
def TokenStream.steps (stream : TokenStream) : Nat :=
  4 * stream.tokens.length + 8

/-- The nodes of a document, if there is one. Anchors and aliases are resolved on the way. Every recursion is
bounded by a count of steps, for which the number of tokens is enough. -/
def Document.parse (stream : TokenStream) : Except Fault (Option Document) := do
  let (root?, state) ← (Parser.document stream.steps).run { stream }
  return root?.map fun root => { graph := state.graph, root }

end ClassDiagram.Yaml
