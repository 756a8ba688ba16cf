import ClassDiagram.Rust.Grammar
import ClassDiagram.Source

namespace ClassDiagram

/-- The declarations of a source text that was read from `path`, if it was read from anywhere. -/
def SourceUnit.parse (path : Option String) (source : String) : Except SourceError SourceUnit :=
  match Rust.declarations? source with
  | some declarations => .ok { path, declarations }
  | none => .error { path := sourceName path, problem := "syntax error" }

end ClassDiagram
