import ClassDiagram.Proofs.Yaml.Tokens
import ClassDiagram.Yaml.Node.Parse

namespace ClassDiagram.Yaml

namespace Parser

variable {α β : Type}

/-- The parser leaves the fault that ends the tokens alone, and fails with it or with a plain malformation. -/
def PassesOn (parser : Parser α) : Prop :=
  ∀ state, match parser.run state with
    | .ok (_, next) => next.stream.fault = state.stream.fault
    | .error fault => fault = .malformed ∨ state.stream.fault = some fault

namespace PassesOn

theorem pure (a : α) : PassesOn (Pure.pure a : Parser α) := fun _ => rfl

theorem malformed : PassesOn (throw .malformed : Parser α) := fun _ => .inl rfl

theorem state : PassesOn (get : Parser ParserState) := fun _ => rfl

/-- Changing what a parser remembers passes the fault on if the tokens that are left stay the same. -/
theorem change {change : ParserState → ParserState}
    (hchange : ∀ state, (change state).stream.fault = state.stream.fault) :
    PassesOn (modify change : Parser Unit) := fun state => hchange state

/-- Two parsers in a row pass the fault on if each of them does. The first may have failed with it, and
otherwise it is still ahead of the second. -/
theorem bind {parser : Parser α} {next : α → Parser β} (hparser : PassesOn parser)
    (hnext : ∀ a, PassesOn (next a)) : PassesOn (parser >>= next) := by
  intro state
  have hfirst := hparser state
  rw [StateT.run_bind]
  cases hrun : parser.run state with
  | error fault =>
    rw [hrun] at hfirst
    exact hfirst
  | ok found =>
    rw [hrun] at hfirst
    have hsecond := hnext found.1 found.2
    rw [hfirst] at hsecond
    exact hsecond

theorem ite {condition : Prop} [Decidable condition] {yes no : Parser α} (hyes : PassesOn yes)
    (hno : PassesOn no) : PassesOn (if condition then yes else no) := by
  split
  · exact hyes
  · exact hno

/-- A test that passes the fault on, and two ways to go on that do so. Most rules of the grammar are chosen by
the next token in this manner. -/
theorem branch {test : Parser Bool} {yes no : Parser α} (htest : PassesOn test) (hyes : PassesOn yes)
    (hno : PassesOn no) : PassesOn (do if ← test then yes else no) := by
  apply PassesOn.bind htest
  intro holds
  exact .ite hyes hno

end PassesOn

theorem passesOn_peek? : PassesOn peek? := by
  intro state
  cases htokens : state.stream.tokens with
  | cons token tokens =>
    have hrun : peek?.run state = .ok (some token, state) := by
      simp [peek?, htokens, StateT.run_bind]
      rfl
    rw [hrun]
  | nil =>
    cases hfault : state.stream.fault with
    | none =>
      have hrun : peek?.run state = .ok (none, state) := by
        simp [peek?, htokens, hfault, StateT.run_bind]
        rfl
      rw [hrun]
      exact hfault
    | some fault =>
      have hrun : peek?.run state = .error fault := by
        simp [peek?, htokens, hfault, StateT.run_bind]
        rfl
      rw [hrun]
      exact .inr rfl

theorem passesOn_peekIs (tokens : List Token) : PassesOn (peekIs tokens) := by
  unfold peekIs
  apply PassesOn.bind passesOn_peek?
  intro token?
  exact .pure _

/-- Dropping a token leaves the fault behind the last one where it is. -/
theorem passesOn_advance : PassesOn advance := by
  apply PassesOn.change
  intro state
  rfl

/-- Taking a token if it is there looks at one token and drops it at most, so that the fault behind the last
token is still to come. -/
theorem passesOn_accept (token : Token) : PassesOn (accept token) := by
  unfold accept
  apply PassesOn.branch (passesOn_peekIs [token])
  · apply PassesOn.bind passesOn_advance
    intro _
    exact .pure _
  · exact .pure _

theorem passesOn_expect (token : Token) : PassesOn (expect token) := by
  unfold expect
  apply PassesOn.bind (passesOn_accept token)
  intro isThere
  apply PassesOn.ite
  · exact .malformed
  · exact .pure _

theorem passesOn_addNode (anchor : Option String) (node : Node) : PassesOn (addNode anchor node) :=
  fun _ => rfl

theorem passesOn_emptyScalar : PassesOn emptyScalar :=
  passesOn_addNode _ _

theorem passesOn_anchor? : PassesOn anchor? := by
  unfold anchor?
  apply PassesOn.bind passesOn_peek?
  intro token?
  split
  · apply PassesOn.bind passesOn_advance
    intro _
    exact .pure _
  · exact .pure _

theorem passesOn_tag? : PassesOn tag? := by
  unfold tag?
  apply PassesOn.bind passesOn_peek?
  intro token?
  split
  · apply PassesOn.bind passesOn_advance
    intro _
    exact .pure _
  · exact .pure _

/-- An anchor and a tag may stand in front of a node in either order; whichever comes first, only tokens of
these two kinds are taken, and the fault that ends the tokens stays behind them. -/
theorem passesOn_properties : PassesOn properties := by
  unfold properties
  apply PassesOn.bind passesOn_anchor?
  intro anchor?
  split
  · apply PassesOn.bind passesOn_tag?
    intro tag?
    exact .pure _
  · apply PassesOn.bind passesOn_tag?
    intro tag?
    split
    · apply PassesOn.bind passesOn_anchor?
      intro anchor?
      exact .pure _
    · exact .pure _

/-- A tag with a handle that was not declared is a plain malformation; looking handles up has nothing to do with
tokens. -/
theorem passesOn_tagName (tag : Option String × String) : PassesOn (tagName tag) := by
  obtain ⟨handle?, suffix⟩ := tag
  cases handle? with
  | none => exact .pure _
  | some handle =>
    apply PassesOn.bind .state
    intro state
    split
    · exact .malformed
    · exact .pure _

theorem passesOn_checkAnchor (anchor : Option String) : PassesOn (checkAnchor anchor) := by
  cases anchor with
  | none => exact .pure _
  | some name =>
    apply PassesOn.bind .state
    intro state
    exact .ite .malformed (.pure _)

/-- The node of a collection is put into the graph before its content is read, and filled in afterwards.
Neither has to do with the tokens, so the fault is passed on if the content passes it on. -/
theorem passesOn_collection (anchor : Option String) (tag : Tag) {content : Parser Content}
    (hcontent : PassesOn content) : PassesOn (collection anchor tag content) := by
  unfold collection
  apply PassesOn.bind (passesOn_addNode anchor _)
  intro id
  apply PassesOn.bind hcontent
  intro found
  apply PassesOn.bind
  · apply PassesOn.change
    intro state
    rfl
  · intro _
    exact .pure _

theorem passesOn_bareNode (anchor name? : Option String) : PassesOn (bareNode anchor name?) := by
  have hchecked : PassesOn (do checkAnchor anchor; addNode anchor ⟨kind name? .null, .scalar ""⟩) := by
    apply PassesOn.bind (passesOn_checkAnchor anchor)
    intro _
    exact passesOn_addNode anchor _
  unfold bareNode
  apply PassesOn.ite
  · apply PassesOn.bind .malformed
    intro _
    exact hchecked
  · exact hchecked

/-- All parsers of nodes that go no deeper than a bound pass the fault on. -/
structure NodesPassOn (n : Nat) : Prop where
  node : ∀ context, PassesOn (node n context)
  nodeUnless : ∀ context ends, PassesOn (nodeUnless n context ends)
  blockItems : ∀ items, PassesOn (blockItems n items)
  dashedItems : ∀ items, PassesOn (dashedItems n items)
  blockPairs : ∀ pairs, PassesOn (blockPairs n pairs)
  flowValue : ∀ closing, PassesOn (flowValue n closing)
  flowItems : ∀ isFirst items, PassesOn (flowItems n isFirst items)
  singlePair : PassesOn (singlePair n)
  flowPairs : ∀ isFirst pairs, PassesOn (flowPairs n isFirst pairs)

/-- A node is an alias, or has content that is read one level deeper. -/
theorem NodesPassOn.node_succ {n : Nat} (hbelow : NodesPassOn n) (context : Context) :
    PassesOn (Parser.node (n + 1) context) := by
  rw [Parser.node]
  apply PassesOn.bind passesOn_peek?
  intro first?
  split
  · apply PassesOn.bind passesOn_advance
    intro _
    apply PassesOn.bind .state
    intro state
    split
    · exact .pure _
    · exact .malformed
  · apply PassesOn.bind passesOn_properties
    intro found
    apply PassesOn.bind
    · cases found.2 with
      | none => exact .pure _
      | some tag =>
        change PassesOn (do return some (← tagName tag))
        apply PassesOn.bind (passesOn_tagName tag)
        intro name
        exact .pure _
    · intro name?
      have hcollection {implied : Tag} {content : Parser Content} (hcontent : PassesOn content) :
          PassesOn (do checkAnchor found.1; collection found.1 (kind name? implied) content) := by
        apply PassesOn.bind (passesOn_checkAnchor found.1)
        intro _
        exact passesOn_collection found.1 _ hcontent
      have hopened {implied : Tag} {content : Parser Content} (hcontent : PassesOn content) :
          PassesOn (do advance; checkAnchor found.1; collection found.1 (kind name? implied) content) := by
        apply PassesOn.bind passesOn_advance
        intro _
        exact hcollection hcontent
      apply PassesOn.bind passesOn_peek?
      intro token?
      dsimp only
      -- What the token opens decides on the parser for the content, each of which goes one step less deep.
      split
      · exact .ite (hcollection (hbelow.dashedItems [])) (passesOn_bareNode found.1 name?)
      · apply PassesOn.bind passesOn_advance
        intro _
        apply PassesOn.bind (passesOn_checkAnchor found.1)
        intro _
        exact passesOn_addNode found.1 _
      · exact hopened (hbelow.flowItems true [])
      · exact hopened (hbelow.flowPairs true [])
      · exact .ite (hopened (hbelow.blockItems [])) (passesOn_bareNode found.1 name?)
      · exact .ite (hopened (hbelow.blockPairs [])) (passesOn_bareNode found.1 name?)
      · exact passesOn_bareNode found.1 name?

theorem NodesPassOn.nodeUnless_succ {n : Nat} (hbelow : NodesPassOn n) (context : Context) (ends : List Token) :
    PassesOn (Parser.nodeUnless (n + 1) context ends) := by
  rw [Parser.nodeUnless]
  exact .branch (passesOn_peekIs ends) passesOn_emptyScalar (hbelow.node context)

theorem NodesPassOn.blockItems_succ {n : Nat} (hbelow : NodesPassOn n) (items : List NodeId) :
    PassesOn (Parser.blockItems (n + 1) items) := by
  rw [Parser.blockItems]
  apply PassesOn.branch (passesOn_accept .blockEntry)
  · apply PassesOn.bind (hbelow.nodeUnless _ _)
    intro item
    exact hbelow.blockItems (item :: items)
  · apply PassesOn.bind (passesOn_expect .blockEnd)
    intro _
    exact .pure _

theorem NodesPassOn.dashedItems_succ {n : Nat} (hbelow : NodesPassOn n) (items : List NodeId) :
    PassesOn (Parser.dashedItems (n + 1) items) := by
  rw [Parser.dashedItems]
  apply PassesOn.branch (passesOn_accept .blockEntry)
  · apply PassesOn.bind (hbelow.nodeUnless _ _)
    intro item
    exact hbelow.dashedItems (item :: items)
  · exact .pure _

/-- The pairs of a block mapping: keys and values are nodes of one level deeper, each of which may be missing. -/
theorem NodesPassOn.blockPairs_succ {n : Nat} (hbelow : NodesPassOn n) (pairs : List (NodeId × NodeId)) :
    PassesOn (Parser.blockPairs (n + 1) pairs) := by
  rw [Parser.blockPairs]
  apply PassesOn.branch (passesOn_accept .key)
  · apply PassesOn.bind (hbelow.nodeUnless _ _)
    intro key
    apply PassesOn.branch (passesOn_accept .value)
    · apply PassesOn.bind (hbelow.nodeUnless _ _)
      intro value
      exact hbelow.blockPairs ((key, value) :: pairs)
    · apply PassesOn.bind passesOn_emptyScalar
      intro value
      exact hbelow.blockPairs ((key, value) :: pairs)
  · apply PassesOn.bind (passesOn_expect .blockEnd)
    intro _
    exact .pure _

theorem NodesPassOn.flowValue_succ {n : Nat} (hbelow : NodesPassOn n) (closing : Token) :
    PassesOn (Parser.flowValue (n + 1) closing) := by
  rw [Parser.flowValue]
  exact .branch (passesOn_accept .value) (hbelow.nodeUnless _ _) passesOn_emptyScalar

theorem NodesPassOn.singlePair_succ {n : Nat} (hbelow : NodesPassOn n) : PassesOn (Parser.singlePair (n + 1)) := by
  rw [Parser.singlePair]
  apply PassesOn.bind passesOn_advance
  intro _
  apply PassesOn.bind (hbelow.nodeUnless _ _)
  intro key
  apply PassesOn.bind (hbelow.flowValue .flowSequenceEnd)
  intro value
  exact .pure _

/-- The entries between brackets, of a sequence or a mapping alike: they end with the closing bracket, and a comma
is asked for in front of every entry but the first. -/
theorem passesOn_entries (closing : Token) (found : Content) (isFirst : Bool) {entry : Parser Content}
    (hentry : PassesOn entry) : PassesOn (do
      if ← accept closing then return found
      if !isFirst then expect .flowEntry
      entry) := by
  apply PassesOn.branch (passesOn_accept closing)
  · exact .pure _
  · apply PassesOn.ite
    · apply PassesOn.bind (passesOn_expect .flowEntry)
      intro _
      exact hentry
    · exact hentry

theorem NodesPassOn.flowItems_succ {n : Nat} (hbelow : NodesPassOn n) (isFirst : Bool) (items : List NodeId) :
    PassesOn (Parser.flowItems (n + 1) isFirst items) := by
  have hitem : PassesOn (do
      if ← peekIs [.key] then
        let item ← collection none .mapping (Parser.singlePair n)
        Parser.flowItems n false (item :: items)
      else if ← accept .flowSequenceEnd then return Content.sequence items.reverse
      else
        let item ← Parser.node n {}
        Parser.flowItems n false (item :: items)) := by
    apply PassesOn.branch (passesOn_peekIs [.key])
    · apply PassesOn.bind (passesOn_collection none .mapping hbelow.singlePair)
      intro item
      exact hbelow.flowItems false (item :: items)
    · apply PassesOn.branch (passesOn_accept .flowSequenceEnd)
      · exact .pure _
      · apply PassesOn.bind (hbelow.node {})
        intro item
        exact hbelow.flowItems false (item :: items)
  rw [Parser.flowItems]
  exact passesOn_entries .flowSequenceEnd (.sequence items.reverse) isFirst hitem

theorem NodesPassOn.flowPairs_succ {n : Nat} (hbelow : NodesPassOn n) (isFirst : Bool)
    (pairs : List (NodeId × NodeId)) : PassesOn (Parser.flowPairs (n + 1) isFirst pairs) := by
  have hpair : PassesOn (do
      if ← accept .key then
        let key ← Parser.nodeUnless n {} [.value, .flowEntry, .flowMappingEnd]
        let value ← Parser.flowValue n .flowMappingEnd
        Parser.flowPairs n false ((key, value) :: pairs)
      else if ← accept .flowMappingEnd then return Content.mapping pairs.reverse
      else
        let key ← Parser.node n {}
        let value ← emptyScalar
        Parser.flowPairs n false ((key, value) :: pairs)) := by
    apply PassesOn.branch (passesOn_accept .key)
    · apply PassesOn.bind (hbelow.nodeUnless _ _)
      intro key
      apply PassesOn.bind (hbelow.flowValue .flowMappingEnd)
      intro value
      exact hbelow.flowPairs false ((key, value) :: pairs)
    · apply PassesOn.branch (passesOn_accept .flowMappingEnd)
      · exact .pure _
      · apply PassesOn.bind (hbelow.node {})
        intro key
        apply PassesOn.bind passesOn_emptyScalar
        intro value
        exact hbelow.flowPairs false ((key, value) :: pairs)
  rw [Parser.flowPairs]
  exact passesOn_entries .flowMappingEnd (.mapping pairs.reverse) isFirst hpair

/-- No parser of nodes loses the fault that ends the tokens, however deep it goes. The parsers call each other,
always with one step less, so the statement for all of them together is carried by induction on the steps. -/
theorem nodesPassOn (n : Nat) : NodesPassOn n := by
  induction n with
  | zero => constructor <;> intros <;> exact .malformed
  | succ n ih =>
    constructor
    case node => exact ih.node_succ
    case nodeUnless => exact ih.nodeUnless_succ
    case blockItems => exact ih.blockItems_succ
    case dashedItems => exact ih.dashedItems_succ
    case blockPairs => exact ih.blockPairs_succ
    case flowValue => exact ih.flowValue_succ
    case flowItems => exact ih.flowItems_succ
    case singlePair => exact ih.singlePair_succ
    case flowPairs => exact ih.flowPairs_succ

/-- Directives in front of a document may be refused, such as a second version, and this is a plain
malformation. -/
theorem passesOn_directives (n : Nat) (hasVersion : Bool) (handles : List (String × String)) :
    PassesOn (directives n hasVersion handles) := by
  induction n generalizing hasVersion handles with
  | zero => exact .pure _
  | succ n ih =>
    have hmore (hasVersion : Bool) (handles : List (String × String)) :
        PassesOn (do advance; directives n hasVersion handles) := by
      apply PassesOn.bind passesOn_advance
      intro _
      exact ih hasVersion handles
    have hrefused (hasVersion : Bool) (handles : List (String × String)) :
        PassesOn (do throw .malformed; advance; directives n hasVersion handles) := by
      apply PassesOn.bind .malformed
      intro _
      exact hmore hasVersion handles
    rw [directives]
    apply PassesOn.bind passesOn_peek?
    intro token?
    split
    · exact .ite (hrefused _ _) (hmore _ _)
    · exact .ite (hrefused _ _) (hmore _ _)
    · exact hmore _ _
    · exact .pure _

theorem passesOn_documentEnds (n : Nat) : PassesOn (documentEnds n) := by
  induction n with
  | zero => exact .pure _
  | succ n ih =>
    rw [documentEnds]
    exact .branch (passesOn_accept .documentEnd) ih (.pure _)

theorem passesOn_peekDirective : PassesOn peekDirective := by
  unfold peekDirective
  apply PassesOn.bind passesOn_peek?
  intro token?
  split
  · exact .pure _
  · exact .pure _

theorem passesOn_explicitStart (n : Nat) : PassesOn (explicitStart n) := by
  unfold explicitStart
  apply PassesOn.bind (passesOn_directives n false [])
  intro handles
  apply PassesOn.bind
  · apply PassesOn.change
    intro state
    rfl
  · intro _
    exact passesOn_expect .documentStart

theorem passesOn_explicitContent (n : Nat) : PassesOn (explicitContent n) := by
  unfold explicitContent
  apply PassesOn.bind passesOn_peek?
  intro token?
  apply PassesOn.bind passesOn_peekDirective
  intro isDirective
  apply PassesOn.bind (passesOn_peekIs _)
  intro isMark
  exact .ite passesOn_emptyScalar ((nodesPassOn n).node _)

/-- A second document is refused, which is the only use of the tokens behind the first. Up to there every step
of a document hands the fault on. -/
theorem passesOn_document (n : Nat) : PassesOn (document n) := by
  have hend (root : NodeId) : PassesOn (do
      documentEnds n
      if (← peek?).isSome then
        explicitStart n
        throw .malformed
      return some root) := by
    apply PassesOn.bind (passesOn_documentEnds n)
    intro _
    apply PassesOn.bind passesOn_peek?
    intro token?
    apply PassesOn.ite
    · apply PassesOn.bind (passesOn_explicitStart n)
      intro _
      apply PassesOn.bind .malformed
      intro _
      exact .pure _
    · exact .pure _
  rw [document]
  apply PassesOn.bind passesOn_peek?
  intro token?
  apply PassesOn.ite
  · exact .pure _
  · apply PassesOn.bind passesOn_peekDirective
    intro isDirective
    apply PassesOn.bind (passesOn_peekIs _)
    intro isStart
    apply PassesOn.ite
    · apply PassesOn.bind (passesOn_explicitStart n)
      intro _
      apply PassesOn.bind (passesOn_explicitContent n)
      intro root
      exact hend root
    · apply PassesOn.bind
      · apply PassesOn.change
        intro state
        rfl
      · intro _
        apply PassesOn.bind ((nodesPassOn n).node _)
        intro root
        exact hend root

end Parser

/-- A document that cannot be read as nodes is malformed, or its tokens end with a fault. A fault of the tokens
is thus the fault of the whole, even if it stands far behind what was read. -/
theorem failsAs_parse (stream : TokenStream) :
    FailsAs (fun fault => fault = .malformed ∨ stream.fault = some fault) (Document.parse stream) := by
  refine .bind (fun fault hfault => ?_) fun _ => .pure _
  have hdocument := Parser.passesOn_document stream.steps { stream }
  rwa [hfault] at hdocument

end ClassDiagram.Yaml
