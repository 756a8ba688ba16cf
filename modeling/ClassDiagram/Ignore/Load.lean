import ClassDiagram.Ignore.Rule
import ClassDiagram.Settings.Load

namespace ClassDiagram

namespace IgnoreRule

/-- The name of ignore files. -/
def fileName : String := ".gitignore"

/-- The rules of an ignore file; none if there is no such file. -/
def load (fs : FileSystem) (p : Path) : Except Failure (List IgnoreRule) := do
  if fs.contains p then return parse (← fs.readText p) else return []

/-- The rules that exclude patterns give. -/
def ofPatterns (patterns : List String) : List IgnoreRule :=
  patterns.filterMap fun pattern => ofPattern? pattern false

end IgnoreRule

end ClassDiagram
