import ClassDiagram.Diagram.Renderer
import ClassDiagram.Files.Tree
import ClassDiagram.Settings
import ClassDiagram.Source
import ClassDiagram.Text.Utf8

namespace ClassDiagram

/-- Why no diagram was made. -/
inductive Failure where
  /-- A source cannot be parsed. -/
  | source (error : SourceError)
  /-- A settings file cannot be used. -/
  | settings (error : SettingsError)
  /-- A scalar in a settings file does not spell the value that its tag promises. -/
  | scalar (fault : Yaml.Fault)
  /-- There is no renderer. -/
  | renderer (error : RendererError)
  /-- A file cannot be read or written. -/
  | file (error : FileError)
  /-- A file that is not a source is no text. -/
  | encoding (fault : Text.Utf8Fault)
  /-- There is nothing at the path that sources were asked for. -/
  | inputMissing (text : String)
  /-- A path starts at the home directory of nobody. -/
  | noHome
  /-- The log is to go to a file without a name. -/
  | logNameless
  /-- The diagram is to go to a file without a name. -/
  | outputNameless
deriving Repr

/-- The text of the failure. -/
def Failure.message : Failure → String
  | .source error => error.message
  | .settings error => error.message
  | .scalar fault => fault.message
  | .renderer error => error.message
  | .file error => error.message
  | .encoding fault => fault.message
  | .inputMissing text => "Input path not found: " ++ text
  | .noHome => "Could not determine home directory."
  | .logNameless => "expected str, bytes or os.PathLike object, not list"
  | .outputNameless => "'list' object has no attribute 'write_text'"

end ClassDiagram
