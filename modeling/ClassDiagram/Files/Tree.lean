import ClassDiagram.Files.Path
import ClassDiagram.Text.Quoted

namespace ClassDiagram

/-- A file with its bytes, or a directory with named entries. -/
inductive FileTree where
  | file (bytes : List UInt8)
  | directory (entries : List (String × FileTree))
deriving Repr, Inhabited

/-- Why a path could not be used. -/
inductive FileFault where
  | missing
  | isDirectory
  | notDirectory
deriving Repr, DecidableEq

/-- The number and the words that a file system reports. -/
def FileFault.text : FileFault → String
  | .missing => "[Errno 2] No such file or directory"
  | .isDirectory => "[Errno 21] Is a directory"
  | .notDirectory => "[Errno 20] Not a directory"

/-- A fault together with the path that was used. -/
structure FileError where
  fault : FileFault
  path : String
deriving Repr, DecidableEq

/-- The text of the error. -/
def FileError.message (e : FileError) : String :=
  e.fault.text ++ ": " ++ Text.quoted e.path

namespace FileTree

/-- The entries of a directory; a file has none. -/
def entries : FileTree → List (String × FileTree)
  | .file _ => []
  | .directory entries => entries

/-- Is it a directory? -/
def isDirectory : FileTree → Bool
  | .file _ => false
  | .directory _ => true

/-- The tree at the end of a list of names. -/
def get? (tree : FileTree) : List String → Option FileTree
  | [] => some tree
  | name :: names =>
    match tree.entries.lookup name with
    | none => none
    | some below => below.get? names

/-- Puts an entry into a list of entries, in the place of one of the same name if there is one. -/
def putEntry (name : String) (tree : FileTree) : List (String × FileTree) → List (String × FileTree)
  | [] => [(name, tree)]
  | entry :: rest => if entry.1 = name then (name, tree) :: rest else entry :: putEntry name tree rest

/-- Puts a tree at the end of a list of names. Directories on the way are made where they are missing. -/
def put (tree : FileTree) (names : List String) (new : FileTree) : FileTree :=
  match names with
  | [] => new
  | name :: names =>
    let below := (tree.entries.lookup name).getD (.directory [])
    .directory (putEntry name (below.put names new) tree.entries)

/-- Takes the tree at the end of a list of names away. -/
def remove (tree : FileTree) (names : List String) : FileTree :=
  match names with
  | [] => tree
  | [name] => .directory (tree.entries.filter fun entry => entry.1 ≠ name)
  | name :: names =>
    match tree.entries.lookup name with
    | none => tree
    | some below => .directory (putEntry name (below.remove names) tree.entries)

/-- Goes one component further from the place `names`. -/
def follow (tree : FileTree) (names : List String) (part : String) : Except FileFault (List String) :=
  match tree.get? names with
  | none => .error .missing
  | some (.file _) => .error .notDirectory
  | some (.directory entries) =>
    if part = ".." then .ok names.dropLast
    else if (entries.lookup part).isSome then .ok (names ++ [part])
    else .error .missing

/-- The place that a path leads to from the directory `current`. Its components are followed one by one, as a
file system does: each but the last has to be a directory. -/
def locate (tree : FileTree) (current : List String) (p : Path) : Except FileFault (List String) :=
  p.parts.foldlM tree.follow (if p.isAbsolute then [] else current)

/-- The tree that a path leads to. -/
def lookup? (tree : FileTree) (current : List String) (p : Path) : Option FileTree :=
  match tree.locate current p with
  | .ok names => tree.get? names
  | .error _ => none

/-- The bytes of a file. -/
def read (tree : FileTree) (current : List String) (p : Path) : Except FileFault (List UInt8) := do
  let names ← tree.locate current p
  match tree.get? names with
  | some (.file bytes) => .ok bytes
  | some (.directory _) => .error .isDirectory
  | none => .error .missing

/-- The place of a file that is about to be written: it is a file already, or its directory exists. -/
def placeForFile (tree : FileTree) (current : List String) (p : Path) : Except FileFault (List String) :=
  match tree.locate current p with
  | .ok names =>
    match tree.get? names with
    | some (.directory _) => .error .isDirectory
    | some (.file _) => .ok names
    | none => .error .missing
  | .error _ => do
    let names ← tree.locate current p.parent
    match tree.get? names with
    | some (.directory _) => .ok (names ++ [p.name])
    | some (.file _) => .error .notDirectory
    | none => .error .missing

/-- The bytes at a place; none where there is no file. -/
def bytesAt (tree : FileTree) (names : List String) : List UInt8 :=
  match tree.get? names with
  | some (.file bytes) => bytes
  | _ => []

/-- Adds bytes to the end of the file at a place. -/
def append (tree : FileTree) (names : List String) (bytes : List UInt8) : FileTree :=
  tree.put names (.file (tree.bytesAt names ++ bytes))

end FileTree

end ClassDiagram
