import ClassDiagram.Decimal.Read

namespace ClassDiagram.Yaml

/-- The kinds of nodes. A node says its kind by a tag; a plain scalar without one has the kind that its text
looks like. -/
inductive Tag where
  | null
  | bool
  | int
  | float
  | binary
  | timestamp
  | text
  | sequence
  | mapping
  | set
  | orderedMapping
  | pairs
  /-- The key under which a mapping names the mappings that it takes entries from. -/
  | merge
  /-- The key under which a mapping keeps its value as a scalar. -/
  | value
  | unknown
deriving Repr, DecidableEq, Inhabited

namespace Tag

/-- The kinds that have a name. -/
def named : List (String × Tag) :=
  [("null", .null), ("bool", .bool), ("int", .int), ("float", .float), ("binary", .binary),
    ("timestamp", .timestamp), ("str", .text), ("seq", .sequence), ("map", .mapping), ("set", .set),
    ("omap", .orderedMapping), ("pairs", .pairs), ("merge", .merge), ("value", .value)]

/-- What the names of the kinds start with in full. -/
def space : String := "tag:yaml.org,2002:"

/-- The kind with a name in full. -/
def ofName (name : String) : Tag :=
  ((named.map fun entry => (space ++ entry.1, entry.2)).lookup name).getD .unknown

/-- Is it the kind of a collection? -/
def isCollection : Tag → Bool
  | .sequence | .mapping | .set | .orderedMapping | .pairs => true
  | _ => false

end Tag

/-- Is the character a digit of the base, or an underscore? -/
def isSpacedDigit (base : Nat) (c : Char) : Bool :=
  c == '_' || (if base = 16 then c.isDigit || ('a' ≤ c && c ≤ 'f') || ('A' ≤ c && c ≤ 'F')
    else '0' ≤ c && c.toNat < '0'.toNat + base)

/-- Groups of at most two digits, each after a colon and below sixty; there is at least one. What follows
the groups has to pass the test. -/
def isSexagesimalTail (rest : List Char → Bool) : List Char → Bool
  | ':' :: a :: b :: cs =>
    (a.isDigit && (rest (b :: cs) || isSexagesimalTail rest (b :: cs)))
      || ('0' ≤ a && a ≤ '5' && b.isDigit && (rest cs || isSexagesimalTail rest cs))
  | [':', a] => a.isDigit && rest []
  | _ => false

/-- Does the text, without its sign, look like an integer? -/
def looksLikeUnsigned : List Char → Bool
  | ['0'] => true
  | '0' :: 'b' :: cs => !cs.isEmpty && cs.all (isSpacedDigit 2)
  | '0' :: 'x' :: cs => !cs.isEmpty && cs.all (isSpacedDigit 16)
  | '0' :: cs => cs.all (isSpacedDigit 8)
  | c :: cs =>
    '1' ≤ c && c ≤ '9'
      && (let rest := cs.dropWhile (isSpacedDigit 10)
          rest.isEmpty || isSexagesimalTail List.isEmpty rest)
  | [] => false

/-- Does the text look like an integer? -/
def looksLikeInt (cs : List Char) : Bool :=
  looksLikeUnsigned (Decimal.takeSign cs).2

/-- Is this an exponent, or nothing? An exponent has a sign. -/
def isSignedExponent : List Char → Bool
  | [] => true
  | e :: sign :: digits =>
    (e == 'e' || e == 'E') && (sign == '-' || sign == '+') && !digits.isEmpty && digits.all Char.isDigit
  | _ => false

/-- Is this a point with nothing but digits after it? -/
def isPlainFraction : List Char → Bool
  | '.' :: cs => cs.all (isSpacedDigit 10)
  | _ => false

/-- Does the text look like a number with a point? -/
def looksLikeFloat (cs : List Char) : Bool :=
  let unsigned := (Decimal.takeSign cs).2
  match unsigned with
  | '.' :: rest =>
    rest == "inf".toList || rest == "Inf".toList || rest == "INF".toList
      || (cs.head? == some '.'
        && (rest == "nan".toList || rest == "NaN".toList || rest == "NAN".toList
          || (rest.head?.any Char.isDigit && isSignedExponent (rest.dropWhile (isSpacedDigit 10)))))
  | c :: rest =>
    c.isDigit
      && (let tail := rest.dropWhile (isSpacedDigit 10)
          match tail with
          | '.' :: more => isSignedExponent (more.dropWhile (isSpacedDigit 10))
          | _ => isSexagesimalTail isPlainFraction tail)
  | [] => false

/-- The words for truth values. -/
def truthWords : List (String × Bool) :=
  [("yes", true), ("no", false), ("true", true), ("false", false), ("on", true), ("off", false)]

/-- Is it a word for a truth value, in small letters, capitalised or in capitals? -/
def looksLikeTruth (text : String) : Bool :=
  truthWords.any fun entry =>
    text == entry.1 || text == entry.1.capitalize || text == entry.1.toUpper

/-- Is it a word for nothing? -/
def looksLikeNull (text : String) : Bool :=
  text == "" || text == "~" || text == "null" || text == "Null" || text == "NULL"

end ClassDiagram.Yaml
