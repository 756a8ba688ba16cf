import ClassDiagram.Files.Tree
import ClassDiagram.Ignore.Rule

namespace ClassDiagram

/-- The directories that are never entered. -/
def excludedDirectories : List String :=
  [".git", ".hg", ".svn", ".idea", ".vscode", "target"]

/-- Sorts by name. -/
def sortByName (entries : List (String × α)) : List (String × α) :=
  entries.mergeSort fun a b => decide (a.1 ≤ b.1)

namespace FileTree

/-- A place below the root of a walk, as rules see it. -/
def relativeText (names : List String) : String :=
  String.intercalate "/" names

/-- Is the directory at a place entered? -/
def isEntered (rules : List IgnoreRule) (names : List String) : Bool :=
  !excludedDirectories.contains (names.getLastD "")
    && !IgnoreRule.ignores rules (relativeText names) true

/-- Is the file at a place kept? -/
def isKept (rules : List IgnoreRule) (names : List String) : Bool :=
  !IgnoreRule.ignores rules (relativeText names) false

/-- The names of the files among the entries of a directory. -/
def fileNames : List (String × FileTree) → List String
  | [] => []
  | (name, .file _) :: rest => name :: fileNames rest
  | (_, .directory _) :: rest => fileNames rest

mutual

/-- The files below a place that are kept. The files of a directory come before those of its subdirectories,
each in the order of their names, and an ignored directory is not entered. -/
def walk (rules : List IgnoreRule) (names : List String) : FileTree → List (List String)
  | .file _ => []
  | .directory entries =>
    let here := (sortByName ((fileNames entries).map fun name => (name, ()))).map
      fun entry => names ++ [entry.1]
    here.filter (isKept rules)
      ++ (sortByName (walkEntries rules names entries)).flatMap fun entry => entry.2

/-- The files below the directories among the entries of the directory at a place, by the names of these
directories. -/
def walkEntries (rules : List IgnoreRule) (names : List String) :
    List (String × FileTree) → List (String × List (List String))
  | [] => []
  | (_, .file _) :: rest => walkEntries rules names rest
  | (name, .directory entries) :: rest =>
    let below := walkEntries rules names rest
    if isEntered rules (names ++ [name]) then
      (name, walk rules (names ++ [name]) (.directory entries)) :: below
    else below

end

/-- The files of a directory that have one of the suffixes, which are given in small letters. -/
def sources (suffixes : List String) (rules : List IgnoreRule) (tree : FileTree) : List (List String) :=
  (tree.walk rules []).filter fun names =>
    suffixes.contains (Text.lower (Path.suffixOfName (names.getLastD "")))

end FileTree

end ClassDiagram
