import ClassDiagram.Clock
import ClassDiagram.CommandLine

namespace ClassDiagram

/-- The files below a directory or in a file on disk, as far as they can be read. -/
partial def readTree (place : List String) : IO FileTree := do
  let path := (Path.absolute place).text
  let real ← IO.FS.realPath path
  if ← real.isDir then
    let entries ← (← real.readDir).toList.mapM fun entry => do
      return (entry.fileName, ← readTree (place ++ [entry.fileName]))
    return .directory entries
  else return .file (← IO.FS.readBinFile path).toList

/-- Adds what is on disk at a place to a tree; nothing if there is nothing. -/
def loadPlace (tree : FileTree) (place : List String) : IO FileTree := do
  try return tree.put place (← readTree place)
  catch _ => return tree

/-- Adds a directory to a tree without its entries, if there is such a directory. -/
def loadDirectory (tree : FileTree) (place : List String) : IO FileTree := do
  if (tree.get? place).isSome then return tree
  try
    if ← (← IO.FS.realPath (Path.absolute place).text).isDir then return tree.put place (.directory [])
    else return tree
  catch _ => return tree

/-- The users with their home directories, as the table of users lists them. -/
def readUsers : IO (List (String × List String)) := do
  let lines ← try IO.FS.lines "/etc/passwd" catch _ => pure #[]
  return lines.toList.filterMap fun line =>
    match line.splitOn ":" with
    | [name, _, _, _, _, home, _] => some (name, (Path.parse home).parts)
    | _ => none

/-- The files that the arguments refer to: the input with the files that stand beside it and matter to it,
and the directories of what is written. -/
def loadFiles (current home : List String) (users : List (String × List String)) (a : CommandLine.Arguments) :
    IO FileTree := do
  let input := Path.parse a.source
  let place := ((input.expandHome? home users).getD input).resolve current
  let mut tree := FileTree.put (.directory []) current (.directory [])
  tree ← loadPlace tree (place.dropLast ++ [Settings.fileName])
  tree ← loadPlace tree place
  for target in a.writtenFiles do
    let target := (Path.parse target).resolve current
    tree ← loadDirectory tree target.dropLast
    if (tree.get? target).isNone then tree ← loadPlace tree target
  return tree

/-- Writes a file back if it has changed. -/
def storePlace (before after : FileTree) (place : List String) : IO Unit := do
  match after.get? place with
  | some (.file bytes) =>
    if (before.get? place).isNone || before.bytesAt place != bytes then
      IO.FS.writeBinFile (Path.absolute place).text ⟨bytes.toArray⟩
  | _ => return

/-- The time now, read off a file that is made for it. -/
def now : IO String := do
  let (_, path) ← IO.FS.createTempFile
  let time := (← path.metadata).modified
  IO.FS.removeFile path
  return Clock.text time.sec.toNat (time.nsec.toNat / 1000000)

end ClassDiagram

open ClassDiagram in
/-- Runs the command line on the files of the disk. -/
def main (words : List String) : IO UInt32 := do
  let current := (Path.parse (← IO.currentDir).toString).parts
  let home := (Path.parse ((← IO.getEnv "HOME").getD "/")).parts
  let users ← readUsers
  let arguments := (CommandLine.Arguments.parse words).toOption.getD {}
  let tree ← loadFiles current home users arguments
  let workspace : Workspace := { files := { tree, current, home, users }, clock := ← now }
  let (result, after) := (CommandLine.run words).run workspace
  for target in arguments.writtenFiles do
    storePlace tree after.files.tree ((Path.parse target).resolve current)
  IO.print result.output
  IO.eprint after.log.errors
  match result.ending with
  | .exit status => return status.toUInt32
  | .failed failure =>
    IO.eprintln failure.message
    return 1
