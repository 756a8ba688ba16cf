import ClassDiagram.Text.LowerCase

namespace ClassDiagram

/-- A path in normal form: whether it starts at the root, and its components. Empty components and single dots
are dropped; double dots are kept, since what they mean depends on the files. -/
structure Path where
  isAbsolute : Bool
  parts : List String
deriving Repr, DecidableEq, Inhabited

namespace Path

/-- The pieces of a path text between slashes. -/
def pieces : List Char → List (List Char)
  | [] => [[]]
  | c :: rest =>
    match pieces rest with
    | [] => [[c]]
    | piece :: more => if c = '/' then [] :: piece :: more else (c :: piece) :: more

/-- The path that a text spells. -/
def parse (text : String) : Path where
  isAbsolute := text.toList.head? = some '/'
  parts := ((pieces text.toList).map String.ofList).filter fun part => part ≠ "" && part ≠ "."

/-- The text of a path; the empty relative path is a dot. -/
def text (p : Path) : String :=
  if p.isAbsolute then "/" ++ String.intercalate "/" p.parts
  else if p.parts.isEmpty then "."
  else String.intercalate "/" p.parts

/-- The absolute path with the given components. -/
def absolute (parts : List String) : Path :=
  ⟨true, parts⟩

/-- The path one component further down. -/
def child (p : Path) (name : String) : Path :=
  { p with parts := p.parts ++ [name] }

/-- The path without its last component. -/
def parent (p : Path) : Path :=
  { p with parts := p.parts.dropLast }

/-- The last component, empty if there is none. -/
def name (p : Path) : String :=
  p.parts.getLastD ""

/-- The part of a name from its last dot on. A dot at either end of the name starts no suffix. -/
def suffixOfName (name : String) : String :=
  let cs := name.toList
  let ending := (cs.reverse.takeWhile (· ≠ '.')).reverse
  if ending.isEmpty || cs.length ≤ ending.length + 1 then "" else String.ofList ('.' :: ending)

/-- The suffix of the last component. -/
def suffix (p : Path) : String :=
  suffixOfName p.name

/-- Does the path carry one of the suffixes, which are given in small letters? -/
def hasSuffix (p : Path) (suffixes : List String) : Bool :=
  suffixes.contains (Text.lower p.suffix)

/-- Adds a component to an absolute path that has no double dots; a double dot takes one away. -/
def extend (parts : List String) (part : String) : List String :=
  if part = ".." then parts.dropLast else parts ++ [part]

/-- The components of the path seen from a directory, with the double dots worked out from the text alone. -/
def resolve (current : List String) (p : Path) : List String :=
  p.parts.foldl extend (if p.isAbsolute then [] else current)

/-- A leading tilde stands for the home directory, and one with a name for the home directory that `users`
lists for the name. There is no path if no user has the name. -/
def expandHome? (home : List String) (users : List (String × List String)) (p : Path) : Option Path :=
  match p.isAbsolute, p.parts with
  | false, part :: rest =>
    match part.toList with
    | ['~'] => some (absolute (home ++ rest))
    | '~' :: name => (users.lookup (String.ofList name)).map fun home => absolute (home ++ rest)
    | _ => some p
  | _, _ => some p

end Path

end ClassDiagram
