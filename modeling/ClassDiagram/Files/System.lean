import ClassDiagram.Failure
import ClassDiagram.Text.Line

namespace ClassDiagram

/-- The files that a program sees. -/
structure FileSystem where
  tree : FileTree
  current : List String := []
  home : List String := []
  /-- The users with a name, each with the home directory. -/
  users : List (String × List String) := []
deriving Repr

namespace FileSystem

/-- What is found at a path. -/
def lookup? (fs : FileSystem) (p : Path) : Option FileTree :=
  fs.tree.lookup? fs.current p

/-- Is there anything at the path? -/
def contains (fs : FileSystem) (p : Path) : Bool :=
  (fs.lookup? p).isSome

/-- Is there a directory at the path? -/
def isDirectory (fs : FileSystem) (p : Path) : Bool :=
  (fs.lookup? p).any FileTree.isDirectory

/-- The components of a path from the root of the tree. -/
def resolve (fs : FileSystem) (p : Path) : List String :=
  p.resolve fs.current

/-- Replaces a leading tilde by the home directory that it stands for. -/
def expandHome (fs : FileSystem) (p : Path) : Except Failure Path :=
  match p.expandHome? fs.home fs.users with
  | some p => .ok p
  | none => .error .noHome

/-- The bytes of a file. -/
def readBytes (fs : FileSystem) (p : Path) : Except Failure (List UInt8) :=
  (fs.tree.read fs.current p).mapError fun fault => .file ⟨fault, p.text⟩

/-- The text that bytes spell, with one kind of line end. -/
def textOf (bytes : List UInt8) : Except Text.Utf8Fault String :=
  (Text.decodeUtf8 bytes).map fun text => String.ofList (Text.unifyLineEnds text.toList)

/-- The text of a file. -/
def readText (fs : FileSystem) (p : Path) : Except Failure String := do
  let bytes ← fs.readBytes p
  (textOf bytes).mapError .encoding

end FileSystem

end ClassDiagram
