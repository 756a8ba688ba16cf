import ClassDiagram.Ignore.Glob
import ClassDiagram.Text.Blank
import ClassDiagram.Text.Line

namespace ClassDiagram

/-- A rule: its glob, and what the marks around it say. -/
structure IgnoreRule where
  pattern : String
  /-- A slash at the end: for directories only. -/
  directoryOnly : Bool
  /-- A slash at the front: for paths from the root. -/
  anchored : Bool
  /-- Matching paths are kept after all. -/
  negate : Bool
  /-- A slash inside: for whole paths. -/
  hasSlash : Bool
deriving Repr, DecidableEq

namespace IgnoreRule

/-- The components of a relative path. -/
def components : List Char → List (List Char)
  | [] => [[]]
  | c :: rest =>
    match components rest with
    | [] => [[c]]
    | piece :: pieces => if c = '/' then [] :: piece :: pieces else (c :: piece) :: pieces

/-- Does the rule match a path below the root? A rule for whole paths is matched against the path, any
other against each of its components. -/
def accepts (rule : IgnoreRule) (path : String) (isDirectory : Bool) : Bool :=
  if rule.pattern = "" then false
  else if rule.directoryOnly && !isDirectory then false
  else if rule.anchored || rule.hasSlash then
    Glob.accepts rule.pattern path ||
      (rule.directoryOnly && (rule.pattern ++ "/").toList.isPrefixOf path.toList)
  else (components path.toList).any fun part => Glob.accepts rule.pattern (String.ofList part)

/-- Takes one slash off the end, if there is one. -/
def dropTrailingSlash (cs : List Char) : List Char × Bool :=
  match cs.reverse with
  | '/' :: rest => (rest.reverse, true)
  | _ => (cs, false)

/-- Takes one slash off the front, if there is one. -/
def dropLeadingSlash : List Char → List Char × Bool
  | '/' :: rest => (rest, true)
  | cs => (cs, false)

/-- The rule for a pattern; blanks around it do not count, and a blank pattern gives none. -/
def ofPattern? (pattern : String) (negate : Bool) : Option IgnoreRule :=
  match Text.stripChars pattern.toList with
  | [] => none
  | cs =>
    let (cs, directoryOnly) := dropTrailingSlash cs
    let (cs, anchored) := dropLeadingSlash cs
    some { pattern := String.ofList cs, directoryOnly, anchored, negate, hasSlash := cs.contains '/' }

/-- The rule of one line: none for a blank line or a comment; an exclamation mark negates. -/
def ofLine? (line : String) : Option IgnoreRule :=
  match Text.stripChars line.toList with
  | [] => none
  | '#' :: _ => none
  | '!' :: rest => ofPattern? (String.ofList rest) true
  | cs => ofPattern? (String.ofList cs) false

/-- The rules of a text, one a line. -/
def parse (text : String) : List IgnoreRule :=
  (Text.lines text).filterMap ofLine?

/-- Is a path ignored? The last rule that matches it decides; without one it is kept. -/
def ignores (rules : List IgnoreRule) (path : String) (isDirectory : Bool) : Bool :=
  rules.foldl (fun ignored rule => if rule.accepts path isDirectory then !rule.negate else ignored) false

end IgnoreRule

end ClassDiagram
