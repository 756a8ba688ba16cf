import ClassDiagram.Proofs.Diagram.Entries
import ClassDiagram.Proofs.Source.Excludes
import Mathlib.Data.List.Flatten

namespace ClassDiagram

/-- The same settings with other exclude patterns. -/
def Settings.excluding (settings : Settings) (patterns : List String) : Settings :=
  { settings with excludePaths := patterns }

namespace SourceUnit

end SourceUnit

namespace Pipeline

variable {w : Workspace} {p : Path} {unit : SourceUnit}

variable {sources : List Path}

variable {settings : Settings} {source : String}

variable {few more : List String}

end Pipeline

end ClassDiagram
