import ClassDiagram.Yaml.Load

namespace ClassDiagram

/-- The settings of a directory. -/
structure Settings where
  /-- The directory that the settings are for. -/
  root : List String := []
  outputType : String := "plantuml"
  includeEnums : Bool := false
  visibilityMarkers : Bool := false
  excludePaths : List String := []
deriving Repr, DecidableEq

/-- Why a settings file says nothing of use. -/
inductive SettingsError where
  /-- It is no document. -/
  | malformed
  /-- It is a document, and not a mapping. -/
  | notAMapping
deriving Repr, DecidableEq

namespace Settings

/-- The name of settings files. -/
def fileName : String := ".ruml.yml"

/-- The settings that the entries of a mapping give. An entry that does not suit its setting leaves it at
its default. -/
def ofFields (root : List String) (entries : List (String × Value)) : Settings :=
  let defaults : Settings := { root }
  let outputType := ((Yaml.fieldOf entries "output_type").asText?).getD ""
  { root
    outputType := if outputType = "" then defaults.outputType else outputType
    includeEnums := (Yaml.fieldOf entries "include_enums").asFlag?.getD defaults.includeEnums
    visibilityMarkers :=
      (Yaml.fieldOf entries "visibility_markers").asFlag?.getD defaults.visibilityMarkers
    excludePaths := (Yaml.fieldOf entries "exclude_paths").asTexts }

/-- Is the value an integer with too many digits to be written out? -/
def isOverlong : Value → Bool
  | .int n => Nat.pow 10 Yaml.digitLimit ≤ n.natAbs
  | _ => false

/-- Does a setting that is a text hold such an integer, or one that is a list of texts, where every key has
this value? -/
def holdsOverlong (value : String → Value) : Bool :=
  isOverlong (value "output_type")
    || match value "exclude_paths" with
      | .list items => items.any isOverlong
      | _ => false

/-- Do the settings of a document hold such an integer? -/
def hasOverlong : Yaml.Loaded → Bool
  | .fields entries => holdsOverlong (Yaml.fieldOf entries)
  | _ => false

/-- What the text of a settings file says. The integers of settings that are texts are written out, and so
they may not be too long for that. -/
def document (text : String) : Except Yaml.Fault Yaml.Loaded := do
  let loaded ← Yaml.load text
  if hasOverlong loaded then .error .integerText else .ok loaded

/-- What a document says, or a blank text, as settings. -/
def ofLoaded (root : List String) : Yaml.Loaded → Except SettingsError Settings
  | .fields entries => .ok (ofFields root entries)
  | .nothing => .ok { root }
  | .other => .error .notAMapping

end Settings

/-- The text of the error. -/
def SettingsError.message : SettingsError → String
  | .malformed => "Failed to parse " ++ Settings.fileName
  | .notAMapping => Settings.fileName ++ " must contain a mapping at the root"

end ClassDiagram
