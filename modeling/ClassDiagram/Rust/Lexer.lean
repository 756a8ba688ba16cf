import ClassDiagram.Rust.Token
import ClassDiagram.Text.IdentifierTable

namespace ClassDiagram.Rust.Lexer

/-- The characters that separate tokens. -/
def isSpace (c : Char) : Bool :=
  let n := c.toNat
  (9 ≤ n && n ≤ 13) || n == 32 || n == 0x85 || n == 0xA0 || n == 0x1680 ||
    (0x2000 ≤ n && n ≤ 0x200A) || n == 0x2028 || n == 0x2029 || n == 0x202F || n == 0x205F ||
    n == 0x3000

/-- What the last character inside a comment was: the slash of a possible opening, the star of a possible
closing, or neither. A star is exact when it is the ASCII star itself. -/
inductive CommentState where
  | plain
  | slash
  | star (isExact : Bool)

/-- Characters are compared by their low byte inside comments. -/
def lowByte (c : Char) : Nat :=
  c.toNat % 256

/-- Reads a block comment up to its end, the opening already taken; comments nest. -/
def blockComment (depth : Nat) (state : CommentState) : List Char → Option (List Char × List Char)
  | [] => none
  | c :: rest =>
    let isStar := lowByte c = '*'.toNat
    let isSlash := lowByte c = '/'.toNat
    let continue? (depth : Nat) (state : CommentState) :=
      (blockComment depth state rest).map fun (body, rest) => (c :: body, rest)
    match state with
    | .plain =>
      continue? depth (if isSlash then .slash else if isStar then .star (c = '*') else .plain)
    | .slash => continue? (if isStar then depth + 1 else depth) .plain
    | .star isExact =>
      if isStar then continue? depth (.star (c = '*'))
      else if isSlash then
        if depth ≤ 1 then (if isExact && c = '/' then some ([c], rest) else none)
        else continue? (depth - 1) .plain
      else continue? depth .plain

/-- Reads the blanks and comments at the front; `fuel` bounds the number of steps. -/
def gap : Nat → List Char → Option (List Char × List Char)
  | 0, cs => some ([], cs)
  | fuel + 1, cs =>
    match cs with
    | '/' :: '/' :: rest =>
      (gap fuel (rest.dropWhile (· ≠ '\n'))).map fun (more, rest') =>
        ('/' :: '/' :: (rest.takeWhile (· ≠ '\n') ++ more), rest')
    | '/' :: '*' :: rest => do
      let (body, rest) ← blockComment 1 .plain rest
      let (more, rest) ← gap fuel rest
      some ('/' :: '*' :: (body ++ more), rest)
    | c :: rest =>
      if isSpace c then (gap fuel rest).map fun (more, rest) => (c :: more, rest) else some ([], cs)
    | [] => some ([], [])

/-- The characters that may begin a word. -/
def isWordStart (c : Char) : Bool :=
  if c.toNat < 128 then ('a' ≤ c && c ≤ 'z') || ('A' ≤ c && c ≤ 'Z') || c == '_'
  else Text.inRanges Text.identifierStartRanges c

/-- The characters that may continue a word. -/
def isWordChar (c : Char) : Bool :=
  if c.toNat < 128 then
    ('a' ≤ c && c ≤ 'z') || ('A' ≤ c && c ≤ 'Z') || ('0' ≤ c && c ≤ '9') || c == '_'
  else Text.inRanges Text.identifierRanges c

/-- Reads a word, perhaps in raw form. -/
def word? : List Char → Option (List Char × List Char)
  | 'r' :: '#' :: c :: rest =>
    if isWordStart c then some ('r' :: '#' :: c :: rest.takeWhile isWordChar, rest.dropWhile isWordChar)
    else some (['r'], '#' :: c :: rest)
  | c :: rest =>
    if isWordStart c then some (c :: rest.takeWhile isWordChar, rest.dropWhile isWordChar) else none
  | [] => none

/-- Reads the name of a macro variable, the dollar sign already taken. -/
def metavariable? : List Char → Option (List Char × List Char)
  | c :: rest =>
    if c.toNat < 128 && isWordStart c then some (c :: rest.takeWhile isWordChar, rest.dropWhile isWordChar)
    else none
  | [] => none

/-- The digits of a base, and the underscores between them. -/
def isDigitOf (base : Nat) (c : Char) : Bool :=
  c == '_' ||
    (if base ≤ 10 then '0' ≤ c && c.toNat < '0'.toNat + base
    else c.isDigit || ('a' ≤ c && c ≤ 'f') || ('A' ≤ c && c ≤ 'F'))

/-- The types that may be written after the digits of a number. -/
def numberTypes : List String :=
  ["u8", "i8", "u16", "i16", "u32", "i32", "u64", "i64", "u128", "i128", "isize", "usize", "f32", "f64"]

/-- How many characters the type at the front takes. -/
def numberTypeLength (cs : List Char) : Nat :=
  ((numberTypes.filter fun t => t.toList.isPrefixOf cs).map String.length).foldl max 0

/-- The base that a letter after a zero stands for. -/
def baseOf? : Char → Option Nat
  | 'x' => some 16
  | 'b' => some 2
  | 'o' => some 8
  | _ => none

/-- How many characters the digits at the front take. The letter of a base counts only if digits follow. -/
def digitsLength (cs : List Char) : Nat :=
  let decimal := (cs.takeWhile (isDigitOf 10)).length
  match cs with
  | '0' :: c :: rest =>
    match baseOf? c with
    | some base =>
      let digits := (rest.takeWhile (isDigitOf base)).length
      if digits = 0 then 1 else 2 + digits
    | none => decimal
  | _ => decimal

/-- How many characters the integer at the front takes, its type included. -/
def integerLength (cs : List Char) : Nat :=
  digitsLength cs + numberTypeLength (cs.drop (digitsLength cs))

/-- The exponent at the front: how many characters it takes, and whether the letter is there at all. -/
def exponentLength : List Char → Nat × Bool
  | c :: rest =>
    if c == 'e' || c == 'E' then
      let signs := if rest.head?.any fun d => d == '+' || d == '-' then 1 else 0
      let digits := ((rest.drop signs).takeWhile (isDigitOf 10)).length
      (if digits = 0 then 0 else 1 + signs + digits, true)
    else (0, false)
  | [] => (0, false)

/-- The type after a floating-point number: one of its letters and digits. -/
def floatTypeLength : List Char → Nat
  | c :: rest =>
    if c == 'u' || c == 'i' || c == 'f' then
      let digits := (rest.takeWhile Char.isDigit).length
      if digits = 0 then 0 else 1 + digits
    else 0
  | [] => 0

/-- What comes after the `used` characters of a number: an exponent or a type. -/
def finishFloat? (cs : List Char) (used : Nat) (hasFraction : Bool) : Option Nat :=
  let (exponent, hasExponent) := exponentLength (cs.drop used)
  if hasExponent && exponent = 0 then some used
  else if hasFraction || hasExponent then
    let used := used + exponent
    some (used + floatTypeLength (cs.drop used))
  else none

/-- How many characters the floating-point number at the front takes, if it is one: there is a point that
neither a letter nor another point follows, or an exponent. -/
def floatLength? (cs : List Char) : Option Nat :=
  let whole := (cs.takeWhile (isDigitOf 10)).length
  match cs.drop whole with
  | '.' :: rest =>
    let isLetter (c : Char) := c ≠ '_' && isWordStart c
    if rest.head?.any fun c => c == '.' || isLetter c then none
    else finishFloat? cs (whole + 1 + (rest.takeWhile (isDigitOf 10)).length) true
  | _ => finishFloat? cs whole false

/-- Is the character a digit in base 16? -/
def isHex (c : Char) : Bool :=
  c ≠ '_' && isDigitOf 16 c

/-- Checks what follows the letter of an escape: two digits after `x`; four digits or some digits in braces
after `u`; anything else after any other letter. -/
def escapeLength? : List Char → Option Nat
  | 'x' :: rest => if (rest.take 2).length = 2 && (rest.take 2).all isHex then some 3 else none
  | 'u' :: '{' :: rest =>
    let digits := (rest.takeWhile isHex).length
    if digits ≠ 0 && (rest.drop digits).head? = some '}' then some (digits + 3) else none
  | 'u' :: rest => if (rest.take 4).length = 4 && (rest.take 4).all isHex then some 5 else none
  | _ :: _ => some 1
  | [] => none

/-- Reads a string up to its closing quote, the opening one already taken. -/
def stringBody : List Char → Option (List Char × List Char)
  | [] => none
  | '"' :: rest => some (['"'], rest)
  | '\\' :: c :: rest =>
    if (escapeLength? (c :: rest)).isSome then
      (stringBody rest).map fun (body, rest) => ('\\' :: c :: body, rest)
    else none
  | c :: rest => (stringBody rest).map fun (body, rest) => (c :: body, rest)

/-- Reads a raw string up to the quote that `hashes` hash signs follow. -/
def rawBody (hashes : Nat) : List Char → Option (List Char × List Char)
  | [] => none
  | c :: rest =>
    if c = '"' && rest.take hashes = List.replicate hashes '#' then
      some (c :: rest.take hashes, rest.drop hashes)
    else (rawBody hashes rest).map fun (body, rest) => (c :: body, rest)

/-- Reads a raw string whose letter `r` has been taken: hash signs, a quote, and the text. -/
def rawString? (cs : List Char) : Option (Option (List Char × List Char)) :=
  let hashes := cs.takeWhile (· = '#')
  match cs.drop hashes.length with
  | '"' :: rest =>
    some ((rawBody hashes.length rest).map fun (body, rest) => (hashes ++ '"' :: body, rest))
  | _ => none

/-- Reads a string with whatever letters stand before its quote. The outer `none` says that no string
begins here, the inner one that it is broken. -/
def string? : List Char → Option (Option (List Char × List Char))
  | '"' :: rest => some ((stringBody rest).map fun (body, rest) => ('"' :: body, rest))
  | 'r' :: rest =>
    (rawString? rest).map fun found => found.map fun (body, rest) => ('r' :: body, rest)
  | c :: '"' :: rest =>
    if c = 'b' || c = 'c' then some ((stringBody rest).map fun (body, rest) => (c :: '"' :: body, rest))
    else none
  | c :: 'r' :: rest =>
    if c = 'b' || c = 'c' then
      (rawString? rest).map fun found => found.map fun (body, rest) => (c :: 'r' :: body, rest)
    else none
  | _ => none

/-- Reads a character up to its closing quote, the opening one already taken. -/
def charBody? : List Char → Option (List Char × List Char)
  | '\'' :: rest => some (['\''], rest)
  | '\\' :: rest => do
    let n ← escapeLength? rest
    match rest.drop n with
    | '\'' :: more => some ('\\' :: rest.take n ++ ['\''], more)
    | _ => none
  | c :: '\'' :: rest => some ([c, '\''], rest)
  | _ => none

/-- Reads a character literal. -/
def char? : List Char → Option (List Char × List Char)
  | '\'' :: rest => (charBody? rest).map fun (body, rest) => ('\'' :: body, rest)
  | 'b' :: '\'' :: rest => (charBody? rest).map fun (body, rest) => ('b' :: '\'' :: body, rest)
  | _ => none

/-- The punctuation characters. -/
def isPunctuation (c : Char) : Bool :=
  "+-*/%^!&|=<>@.,;:#?'$()[]\x7b\x7d".toList.contains c

/-- Reads a number. Right after the dot of a field access a number is an integer: `pair.0.1` holds two. -/
def number (afterDot : Bool) (cs : List Char) : TokenKind × List Char × List Char :=
  let integer := integerLength cs
  match if afterDot then none else floatLength? cs with
  | some n => (.float, cs.take n, cs.drop n)
  | none => (.integer, cs.take integer, cs.drop integer)

/-- Reads one token. -/
def token? (afterDot : Bool) (cs : List Char) : Option (TokenKind × List Char × List Char) :=
  match string? cs with
  | some found => found.map fun (text, rest) => (.string, text, rest)
  | none =>
    match char? cs with
    | some (text, rest) => some (.char, text, rest)
    | none =>
      match word? cs with
      | some (text, rest) => some (.word, text, rest)
      | none =>
        match cs with
        | [] => none
        | c :: rest =>
          if c.isDigit then some (number afterDot cs)
          else
            match if c = '$' then metavariable? rest else none with
            | some (name, rest) => some (.metavariable, c :: name, rest)
            | none => if isPunctuation c then some (.punctuation, [c], rest) else none

/-- Is the last token read the dot of a field access? The last dot of a range is not. -/
def endsInDot : List Token → Bool
  | last :: before :: _ => last.isPunctuation '.' && !(last.isAdjacent && before.isPunctuation '.')
  | [last] => last.isPunctuation '.'
  | [] => false

/-- Reads tokens to the end of the text; `read` holds those before, the last one first. As every token takes
a character, `fuel` is enough when it exceeds the length of the text. -/
def tokensFrom : Nat → List Token → List Char → Option (List Token)
  | 0, read, _ => some read.reverse
  | fuel + 1, read, cs => do
    let (gap, cs) ← gap (fuel + 1) cs
    match cs with
    | [] => some read.reverse
    | _ =>
      let (kind, text, rest) ← token? (endsInDot read) cs
      tokensFrom fuel (⟨gap, kind, text⟩ :: read) rest

/-- Reads an interpreter line: a first line that starts with `#!` and is no attribute. -/
def shebang? : List Char → Option (List Char × List Char)
  | '#' :: '!' :: rest =>
    if rest.head? = some '[' then none
    else
      match rest.dropWhile (· ≠ '\n') with
      | '\n' :: more => some ('#' :: '!' :: rest.takeWhile (· ≠ '\n') ++ ['\n'], more)
      | _ => none
  | _ => none

/-- The mark that some editors put in front of a text. -/
def dropMark : List Char → List Char
  | c :: rest => if c.toNat = 0xFEFF then rest else c :: rest
  | [] => []

/-- The tokens of a source text. There are none if a character begins no token, a comment or a literal is not
closed, or an escape is not one. -/
def tokens? (source : String) : Option (List Token) := do
  let cs := dropMark source.toList
  let (gap, rest) ← gap (cs.length + 1) cs
  match shebang? rest with
  | some (line, rest) => tokensFrom (rest.length + 1) [⟨gap, .shebang, line⟩] rest
  | none => tokensFrom (cs.length + 1) [] cs

end ClassDiagram.Rust.Lexer
