import ClassDiagram.Diagram.PlantUml
import ClassDiagram.Text.LowerCase

namespace ClassDiagram

/-- The value of an option for a renderer. Numbers are `mantissa · 10^-places`. -/
inductive OptionValue where
  | null
  | flag (value : Bool)
  | number (mantissa : Int) (places : Nat)
  | text (value : String)
  | list (items : List OptionValue)
  | record (entries : List (String × OptionValue))
deriving Repr, Inhabited

/-- An option is on unless its value is nothing, false, zero or empty. -/
def OptionValue.isOn : OptionValue → Bool
  | .null => false
  | .flag b => b
  | .number mantissa _ => mantissa ≠ 0
  | .text s => s ≠ ""
  | .list items => !items.isEmpty
  | .record entries => !entries.isEmpty

/-- Options by name. -/
abbrev Options := List (String × OptionValue)

/-- A renderer: its name, the options it was made with, and what it draws. -/
structure Renderer where
  name : String
  options : Options
  render : List Entity → String

/-- The options that a factory takes. -/
inductive Acceptance where
  /-- The options of these names only. -/
  | names (accepted : List String)
  /-- Options of any name. -/
  | any
  /-- It cannot be told, so all options are passed on. -/
  | unknown
deriving Repr

/-- How a parameter takes its argument. -/
inductive Factory.ParameterKind where
  /-- By its place only. -/
  | placed
  /-- By its place or by its name. -/
  | placedOrNamed
  /-- All arguments by place that are left. -/
  | allPlaced
  /-- By its name only. -/
  | named
  /-- All arguments by name that are left. -/
  | allNamed
deriving Repr, DecidableEq

/-- A parameter in the signature of a factory. -/
structure Factory.Parameter where
  name : String
  kind : Factory.ParameterKind
deriving Repr, DecidableEq

/-- Can an option of its name be given to the parameter? -/
def Factory.Parameter.takesOption (p : Factory.Parameter) : Bool :=
  p.kind = .placedOrNamed || p.kind = .named

/-- The options that a factory with these parameters takes; `none` when they cannot be told. -/
def Acceptance.ofParameters : Option (List Factory.Parameter) → Acceptance
  | none => .unknown
  | some parameters =>
    if parameters.any (·.kind = .allNamed) then .any
    else .names ((parameters.filter (·.takesOption)).map (·.name))

/-- Makes a renderer from options; `none` when what it makes is not a renderer. -/
structure Factory where
  accepts : Acceptance
  make : Options → Option Renderer

/-- The options that are passed to a factory. -/
def Acceptance.select : Acceptance → Options → Options
  | .names accepted, options => options.filter fun (name, _) => accepted.contains name
  | .any, options => options
  | .unknown, options => options

/-- A plugin: the name it registers, and its factory or the reason why it cannot be loaded. -/
structure Plugin where
  name : String
  factory : Except String Factory

/-- Why no renderer could be made. -/
inductive RendererError where
  /-- No renderer has the requested name. -/
  | unknownOutputType (requested : String) (available : List String)
  /-- The plugin could not be loaded. -/
  | pluginFailed (name reason : String)
  /-- The factory made something else. -/
  | notARenderer (key : String)
deriving Repr

/-- The text of an error. -/
def RendererError.message : RendererError → String
  | .unknownOutputType requested available =>
    "Unknown output type '" ++ requested ++ "' (available: " ++ String.intercalate ", " available ++ ")"
  | .pluginFailed name reason =>
    "Failed to load renderer entry point '" ++ name ++ "': " ++ reason
  | .notARenderer key => "Renderer factory for '" ++ key ++ "' did not return a Renderer instance"

namespace Renderer

/-- The name of the built-in renderer. -/
def builtinName : String := "plantuml"

/-- The option that tells hidden members apart. -/
def visibilityOption : String := "visibility_markers"

/-- The built-in renderer; its one option is off unless given. -/
def plantUml (visibility : OptionValue) : Renderer where
  name := builtinName
  options := [(visibilityOption, visibility)]
  render := PlantUml.render visibility.isOn

/-- The factory of the built-in renderer. -/
def plantUmlFactory : Factory where
  accepts := .ofParameters (some [⟨visibilityOption, .named⟩])
  make options := some (plantUml ((options.lookup visibilityOption).getD (.flag false)))

/-- Adds a name unless it is there already. -/
def addName (names : List String) (name : String) : List String :=
  if names.contains name then names else names ++ [name]

/-- The names that can be asked for, the built-in one first, each once. -/
def available (plugins : List Plugin) : List String :=
  plugins.foldl (fun names p => addName names (Text.lower p.name)) [builtinName]

/-- The name to look up: the requested one in small letters, or the built-in one when none is asked for. -/
def key (requested : Option String) : String :=
  let name := requested.getD ""
  Text.lower (if name = "" then builtinName else name)

/-- The factory that a name leads to. Names are looked up without regard to case, the built-in renderer first,
then the plugins in the order in which they were registered. -/
def factory (plugins : List Plugin) (requested : Option String) : Except RendererError Factory :=
  let key := key requested
  if key = builtinName then .ok plantUmlFactory
  else
    match plugins.find? fun p => Text.lower p.name == key with
    | none => .error (.unknownOutputType (requested.getD "") (available plugins))
    | some p => p.factory.mapError (.pluginFailed p.name)

/-- The renderer for an output type, made with those options that its factory takes. -/
def ofName (plugins : List Plugin) (requested : Option String) (options : Options) :
    Except RendererError Renderer := do
  let factory ← factory plugins requested
  match factory.make (factory.accepts.select options) with
  | none => .error (.notARenderer (key requested))
  | some renderer => .ok renderer

end Renderer

end ClassDiagram
