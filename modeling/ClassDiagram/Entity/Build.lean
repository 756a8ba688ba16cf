import ClassDiagram.Entity
import ClassDiagram.Signature

namespace ClassDiagram

/-- Why something was left out of the model. -/
inductive SkipReason where
  | receiver
  | nonIdentifierBinding
  | tupleStruct
  | enum
  | duplicateTypeName
  | traitImpl
  | qualifiedTarget
  | undeclaredTarget
deriving Repr, DecidableEq

/-- The words for a reason. -/
def SkipReason.text : SkipReason → String
  | .receiver => "receiver"
  | .nonIdentifierBinding => "non-identifier binding"
  | .tupleStruct => "tuple struct"
  | .enum => "enum"
  | .duplicateTypeName => "duplicate type name"
  | .traitImpl => "trait impl"
  | .qualifiedTarget => "qualified or generic impl target"
  | .undeclaredTarget => "impl for undeclared struct"

/-- Something left out, with the text that names it. -/
structure Skip where
  reason : SkipReason
  subject : String
deriving Repr, DecidableEq

namespace Build

/-- The characters that may begin a plain name. -/
def isNameStart (c : Char) : Bool :=
  ('A' ≤ c && c ≤ 'Z') || ('a' ≤ c && c ≤ 'z') || c == '_'

/-- The characters that may continue a plain name. -/
def isNameChar (c : Char) : Bool :=
  isNameStart c || ('0' ≤ c && c ≤ '9')

/-- A letter or underscore of ASCII, then letters, digits and underscores. -/
def isWord : List Char → Bool
  | [] => false
  | c :: rest => isNameStart c && rest.all isNameChar

/-- A plain name: a word of ASCII, perhaps in raw form (`r#type`), that is not the lone underscore. -/
def isPlainName (text : String) : Bool :=
  text ≠ "_" &&
    match text.toList with
    | 'r' :: '#' :: rest => isWord rest
    | cs => isWord cs

/-- The pattern that follows a leading `mut` and blanks; any other pattern is left as it is. -/
def dropMut (cs : List Char) : List Char :=
  match cs with
  | 'm' :: 'u' :: 't' :: c :: rest => if Text.isBlank c then Text.dropLeadingBlanks rest else cs
  | _ => cs

/-- The struct that lists what a compound signature refers to, one nameless field for each token. -/
def dependencies (type : String) : Entity :=
  .ofStruct type ((Signature.tokens type).map fun token => .ofField "" token [] .hidden) .hidden

/-- A field, with its dependencies when its type is compound. -/
def field (d : FieldDeclaration) : Entity :=
  let type := Signature.canonical d.type
  .ofField d.name type (if Signature.isCompound type then [dependencies type] else []) d.visibility

/-- A parameter that binds a plain name. Receivers and other patterns are skipped. -/
def parameter (d : ParameterDeclaration) : Except Skip Entity :=
  if d.isReceiver then .error ⟨.receiver, d.pattern⟩
  else
    let name := String.ofList (dropMut (Text.stripChars d.pattern.toList))
    if isPlainName name then .ok (.ofParameter name (Signature.canonical d.type))
    else .error ⟨.nonIdentifierBinding, name⟩

/-- A struct with its fields; one with positional fields is skipped. -/
def struct (d : StructDeclaration) : Except Skip Entity :=
  if d.shape = .tuple then .error ⟨.tupleStruct, d.name⟩
  else .ok (.ofStruct d.name (d.fields.map field) d.visibility)

/-- The plain name of the type that an impl block adds functions to. Implementations of traits add none,
and a target that is not a plain name belongs to no struct of the unit. -/
def target (d : ImplDeclaration) : Except Skip String :=
  if d.isTraitImpl then .error ⟨.traitImpl, d.target⟩
  else
    let name := Signature.canonical d.target
    if isPlainName name then .ok name else .error ⟨.qualifiedTarget, name⟩

/-- The parameters that bind plain names, and a skip for each other one; receivers are passed over. -/
def parameters : List ParameterDeclaration → List Entity × List Skip
  | [] => ([], [])
  | d :: rest =>
    let (kept, skipped) := parameters rest
    match parameter d with
    | .ok e => (e :: kept, skipped)
    | .error skip => if skip.reason = .receiver then (kept, skipped) else (kept, skip :: skipped)

/-- A method with the parameters that bind plain names, and the skips of the others. -/
def method (d : MethodDeclaration) : Entity × List Skip :=
  let (kept, skipped) := parameters d.parameters
  (.ofMethod d.name kept d.visibility, skipped)

/-- The methods of an impl block, and the skips among their parameters. -/
def methods : List MethodDeclaration → List Entity × List Skip
  | [] => ([], [])
  | d :: rest =>
    let (e, skipped) := method d
    let (es, moreSkipped) := methods rest
    (e :: es, skipped ++ moreSkipped)

end Build

/-- The entities of a unit so far, in order, and what was skipped, in order. -/
structure Model where
  entities : List Entity := []
  skipped : List Skip := []
deriving Repr

namespace Model

/-- Notes a skip. -/
def skip (m : Model) (reason : SkipReason) (subject : String) : Model :=
  { m with skipped := m.skipped ++ [⟨reason, subject⟩] }

/-- Adds a type unless its name is taken. -/
def insert (m : Model) (e : Entity) : Model :=
  if m.entities.any (·.displayName == e.displayName) then m.skip .duplicateTypeName e.displayName
  else { m with entities := m.entities ++ [e] }

/-- Takes in a declaration of a type; declarations of other kinds change nothing. -/
def addType (includeEnums : Bool) (m : Model) : Declaration → Model
  | .struct d =>
    match Build.struct d with
    | .ok e => m.insert e
    | .error s => m.skip s.reason s.subject
  | .enum d => if includeEnums then m.insert (.ofEnum d.name d.visibility) else m.skip .enum d.name
  | _ => m

/-- Adds members to the struct of the given name. -/
def extend (m : Model) (name : String) (members : List Entity) : Model :=
  { m with
    entities := m.entities.map fun e =>
      if e.kind = .struct && e.displayName == name then { e with members := e.members ++ members } else e }

/-- Takes in an impl block; declarations of other kinds change nothing. -/
def addImpl (m : Model) : Declaration → Model
  | .impl d =>
    match Build.target d with
    | .error s => m.skip s.reason s.subject
    | .ok name =>
      if m.entities.any fun e => e.kind = .struct && e.displayName == name then
        let (members, skipped) := Build.methods d.methods
        let m := m.extend name members
        { m with skipped := m.skipped ++ skipped }
      else m.skip .undeclaredTarget name
  | _ => m

end Model

/-- The model of a unit: first its types, by name, then the functions of its impl blocks, each added to the
struct that the block is for. What has no place in the model is skipped, and every skip is noted with its
reason. -/
def build (includeEnums : Bool) (declarations : List Declaration) : Model :=
  let types := declarations.foldl (Model.addType includeEnums) {}
  declarations.foldl Model.addImpl types

/-- A builder: whether it takes in enums, and what it left out of the unit that it built last. -/
structure Builder where
  includeEnums : Bool := false
  skipped : List Skip := []
deriving Repr, DecidableEq

namespace Builder

/-- Builds a unit. What was left out of the unit before is forgotten. -/
def build (b : Builder) (unit : SourceUnit) : List Entity × Builder :=
  let model := ClassDiagram.build b.includeEnums unit.declarations
  (model.entities, { b with skipped := model.skipped })

end Builder

end ClassDiagram
