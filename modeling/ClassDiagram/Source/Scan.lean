import ClassDiagram.Files.Walk
import ClassDiagram.Ignore.Load
import ClassDiagram.Workspace

namespace ClassDiagram

/-- What a scan looks for. -/
structure Scan where
  suffixes : List String := sourceSuffixes
  excludePaths : List String := []
  /-- Are the exclude patterns of the directory's own settings added? -/
  readsSettings : Bool := true
deriving Repr, DecidableEq

namespace Scan

/-- The part that scans, as the log names it. -/
def part : String := "scanner"

/-- The exclude patterns of the directory's own settings. Settings that cannot be used are passed over, with
a warning. -/
def settingsPatterns (root : List String) : Job (List String) := do
  match Settings.load (← get).files (Path.absolute root) with
  | .ok settings => return settings.excludePaths
  | .error (.settings error) =>
    Job.note part .warning ("Ignoring exclude_paths from invalid config: " ++ error.message)
    return []
  | .error failure => throw failure

/-- The ignore rules for a directory: those of its ignore file, then the exclude patterns. -/
def rules (scan : Scan) (root : List String) : Job (List IgnoreRule) := do
  let own ← Job.reading (IgnoreRule.load · ((Path.absolute root).child IgnoreRule.fileName))
  let more ← if scan.readsSettings then settingsPatterns root else pure []
  return own ++ IgnoreRule.ofPatterns (scan.excludePaths ++ more)

/-- The sources below a directory, in the order of a walk. -/
def directory (scan : Scan) (root : List String) : Job (List Path) := do
  let rules ← scan.rules root
  let tree := ((← get).files.tree.get? root).getD (.directory [])
  let found := (tree.sources (scan.suffixes.map Text.lower) rules).map
    fun names => Path.absolute (root ++ names)
  Job.note part .debug
    ("Discovered " ++ toString found.length ++ " source files under " ++ (Path.absolute root).text)
  return found

/-- Finds the sources for a path: the file itself whatever it is called, or the files below a directory that
have a suffix of sources and are not ignored. -/
def run (scan : Scan) (source : String) : Job (List Path) := do
  let p ← Job.reading (·.expandHome (Path.parse source))
  let files := (← get).files
  if !files.contains p then throw (.inputMissing source)
  else if files.isDirectory p then scan.directory (files.resolve p)
  else return [p]

end Scan

end ClassDiagram
