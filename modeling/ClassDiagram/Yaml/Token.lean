import ClassDiagram.Yaml.Fault

namespace ClassDiagram.Yaml

/-- A line of instructions before a document. -/
inductive Directive where
  | version (major : Nat)
  | tagHandle (handle expansion : String)
  | other
deriving Repr, DecidableEq

/-- The tokens of a document. Block structure, which the text shows by indentation, has tokens of its own. -/
inductive Token where
  | directive (directive : Directive)
  | documentStart
  | documentEnd
  | blockSequenceStart
  | blockMappingStart
  | blockEnd
  | flowSequenceStart
  | flowSequenceEnd
  | flowMappingStart
  | flowMappingEnd
  | blockEntry
  | flowEntry
  | key
  | value
  | alias (name : String)
  | anchor (name : String)
  | tag (handle : Option String) (suffix : String)
  | scalar (text : String) (isPlain : Bool)
deriving Repr, DecidableEq, Inhabited

/-- The tokens of a document, and the fault that ends them if they do not end with the text. -/
structure TokenStream where
  tokens : List Token
  fault : Option Fault := none
deriving Repr

end ClassDiagram.Yaml
