import ClassDiagram.Files.System

namespace ClassDiagram

namespace Settings

/-- What the text of a settings file says. -/
def ofText (root : List String) (text : String) : Except Failure Settings :=
  if Text.strip text = "" then .ok { root }
  else
    match document text with
    | .error .malformed => .error (.settings .malformed)
    | .error fault => .error (.scalar fault)
    | .ok loaded => (ofLoaded root loaded).mapError .settings

/-- The directory whose settings hold for a path: the path itself, or the one that the path is in. -/
def directoryFor (fs : FileSystem) (source : Path) : Except Failure (List String) := do
  let p ← fs.expandHome source
  return fs.resolve (if fs.isDirectory p then p else p.parent)

/-- The settings for a path. Without a settings file they are the defaults. -/
def load (fs : FileSystem) (source : Path) : Except Failure Settings := do
  let root ← directoryFor fs source
  let file := (Path.absolute root).child fileName
  if fs.contains file then ofText root (← fs.readText file) else return { root }

end Settings

end ClassDiagram
