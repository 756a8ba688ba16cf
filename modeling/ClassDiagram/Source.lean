import ClassDiagram.Declaration
import ClassDiagram.Files.Path

namespace ClassDiagram

/-- A source that cannot be parsed: where it came from, what is wrong, and at which row and column if that
is known. -/
structure SourceError where
  path : String
  problem : String
  position : Option (Int × Int) := none
deriving Repr, DecidableEq

/-- The text of the error. -/
def SourceError.message (e : SourceError) : String :=
  let place :=
    match e.position with
    | none => e.path
    | some (row, column) => e.path ++ ":" ++ toString row ++ ":" ++ toString column
  "Unable to parse " ++ place ++ ": " ++ e.problem

/-- The suffixes of source files. -/
def sourceSuffixes : List String := [".rs"]

/-- Is the path that of a source file? -/
def isSourcePath (p : Path) : Bool :=
  p.hasSuffix sourceSuffixes

end ClassDiagram
