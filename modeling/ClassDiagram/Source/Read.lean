import ClassDiagram.Source.Parse
import ClassDiagram.Workspace

namespace ClassDiagram

namespace SourceUnit

/-- The text of a source file. Bytes that are no text are the source's fault. -/
def readText (fs : FileSystem) (p : Path) : Except Failure String := do
  let bytes ← fs.readBytes p
  (FileSystem.textOf bytes).mapError fun fault =>
    .source { path := p.text, problem := "not valid UTF-8 (" ++ fault.cause.reason ++ ")" }

/-- Reads and parses a source file. -/
def read (p : Path) : Job SourceUnit := do
  let text ← Job.reading (readText · p)
  let unit ← Job.ofExcept ((SourceUnit.parse (some p.text) text).mapError .source)
  Job.note "parsers.rust" .debug
    ("Parsed " ++ toString unit.declarations.length ++ " top-level declarations from " ++ p.text)
  return unit

end SourceUnit

end ClassDiagram
