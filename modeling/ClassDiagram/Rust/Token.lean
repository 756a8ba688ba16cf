namespace ClassDiagram.Rust

/-- The classes of tokens. Keywords are words: what is a keyword depends on the place. -/
inductive TokenKind where
  /-- The interpreter line at the start of a script. -/
  | shebang
  | word
  | integer
  | float
  | char
  | string
  /-- A variable of a macro, such as `$name`. -/
  | metavariable
  | punctuation
deriving Repr, DecidableEq

/-- A token with the blanks and comments in front of it, so that the text of any run of tokens can be given back
exactly. Punctuation is cut into single characters: which of them belong together depends on the place, as in
`Vec<Vec<u8>>` and `a >> b`. -/
structure Token where
  gap : List Char
  kind : TokenKind
  text : List Char
deriving Repr, DecidableEq

namespace Token

/-- Does the token stand right after the one before it? -/
def isAdjacent (t : Token) : Bool :=
  t.gap.isEmpty

/-- Is it this punctuation character? -/
def isPunctuation (t : Token) (c : Char) : Bool :=
  t.kind = .punctuation && t.text = [c]

/-- Is it this word? -/
def isWord (t : Token) (w : String) : Bool :=
  t.kind = .word && t.text = w.toList

/-- The source text of a run of tokens: what stands before the first is left out, what stands between them
is kept. -/
def sourceOf : List Token → String
  | [] => ""
  | t :: ts => String.ofList (t.text ++ ts.flatMap fun t => t.gap ++ t.text)

/-- Two characters that stand side by side in a symbol, such as `::`, `->`, `..=` or `>>=`. -/
def joins (c d : Char) : Bool :=
  (c == d && ":.=<>&|".toList.contains c) ||
    (d == '=' && ".<>!+-*/%^&|".toList.contains c) ||
    (d == '>' && "=-".toList.contains c)

/-- Can it matter that a token stands right after another one? It does inside symbols, and in the word that
begins a macro definition. -/
def canJoin (first second : Token) : Bool :=
  match first.kind, first.text, second.kind, second.text with
  | .punctuation, [c], .punctuation, [d] => joins c d
  | .word, _, .punctuation, _ => first.isWord "macro_rules" && second.isPunctuation '!'
  | _, _, _, _ => false

/-- The gap of a token as the grammar sees it: whether there is any, where that can matter. -/
def reducedGap (before : Option Token) (t : Token) : List Char :=
  if t.isAdjacent && before.any (canJoin · t) then [] else [' ']

/-- Tokens with their gaps reduced to what the grammar sees of them. -/
def reduceFrom (before : Option Token) : List Token → List Token
  | [] => []
  | t :: ts => { t with gap := reducedGap before t } :: reduceFrom (some t) ts

/-- The tokens of a source as the grammar sees them. It knows neither blanks nor comments, only which
characters may belong together. -/
def reduce (ts : List Token) : List Token :=
  reduceFrom none ts

end Token

/-- A run of tokens in a source, told by how many tokens are left where it starts and where it stops. -/
structure Span where
  start : Nat
  stop : Nat
deriving Repr, DecidableEq

namespace Span

/-- The tokens of the run. -/
def tokens (span : Span) (source : List Token) : List Token :=
  (source.drop (source.length - span.start)).take (span.start - span.stop)

/-- The source text of the run. -/
def text (source : List Token) (span : Span) : String :=
  Token.sourceOf (span.tokens source)

end Span

end ClassDiagram.Rust
