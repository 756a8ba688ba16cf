import ClassDiagram.Files.System
import ClassDiagram.Log

namespace ClassDiagram

/-- Adds lines to the ends of files, one after the other. -/
def FileTree.appendLines (tree : FileTree) (lines : List (List String × String)) : FileTree :=
  lines.foldl (fun tree line => tree.append line.1 (Text.encodeUtf8 line.2)) tree

/-- The workspace of a run: the files it sees and changes, the renderers it knows, and its log. -/
structure Workspace where
  files : FileSystem
  plugins : List Plugin := []
  log : Log := {}
  /-- The time of day, as it stands in log files. -/
  clock : String := ""

/-- Something done in a workspace that may fail; what it has written by then stays written. -/
abbrev Job := ExceptT Failure (StateM Workspace)

namespace Workspace

/-- Sends a record to the error stream and to files, as the handlers of the log take it. -/
def emit (w : Workspace) (r : Record) : Workspace :=
  { w with
    files := { w.files with tree := w.files.tree.appendLines (w.log.filed w.clock r) }
    log := w.log.add w.clock r }

/-- Lets go of the handlers of the log. -/
def silence (w : Workspace) : Workspace :=
  { w with log := { w.log with handlers := [] } }

/-- Takes a file or a directory away. A log file that is taken away gets no more records. -/
def delete (w : Workspace) (names : List String) : Workspace :=
  let handlers := w.log.handlers.filter fun h => !h.place?.any names.isPrefixOf
  { w with
    files := { w.files with tree := w.files.tree.remove names }
    log := { w.log with handlers } }

/-- Puts a file or a directory in place. -/
def put (w : Workspace) (names : List String) (tree : FileTree) : Workspace :=
  { w with files := { w.files with tree := w.files.tree.put names tree } }

end Workspace

namespace Job

/-- Something that may fail and changes nothing. -/
def ofExcept (e : Except Failure α) : Job α :=
  match e with
  | .ok a => pure a
  | .error failure => throw failure

/-- Something that reads the files. -/
def reading (f : FileSystem → Except Failure α) : Job α := do
  ofExcept (f (← get).files)

/-- Sends a record to the log. -/
def note (part : String) (level : Level) (message : String) : Job Unit :=
  modify fun w => w.emit { logger := loggerName part, level, message }

/-- Opens a file for more text and gives its place. The file is made if it is missing. -/
def openForAppend (p : Path) : Job (List String) := do
  let w ← get
  match w.files.tree.placeForFile w.files.current p with
  | .error fault => throw (.file ⟨fault, p.text⟩)
  | .ok names =>
    set { w with files := { w.files with tree := w.files.tree.append names [] } }
    return names

/-- Sends the log to the error stream alone, whatever was set before. -/
def startLog (isVerbose hasFile : Bool) : Job Unit :=
  modify fun w => { w with log := w.log.streaming isVerbose hasFile }

/-- Sends the log to the error stream, and to a file if one is given. Whatever was set before is forgotten; the
stream is set even if the file cannot be opened. -/
def configureLog (isVerbose : Bool) (file : Option Path) : Job Unit := do
  startLog isVerbose file.isSome
  match file with
  | none => return
  | some p =>
    let p := Path.absolute ((← get).files.resolve p)
    let names ← openForAppend p
    modify fun w => { w with log := w.log.attach (.toFile names) }

/-- Puts a text into a file, in the place of what it held. -/
def writeText (p : Path) (text : String) : Job Unit := do
  let w ← get
  match w.files.tree.placeForFile w.files.current p with
  | .error fault => throw (.file ⟨fault, p.text⟩)
  | .ok names => set (w.put names (.file (Text.encodeUtf8 text)))

end Job

end ClassDiagram
