import ClassDiagram.Rust.Grammar.Item
import ClassDiagram.Rust.Lexer

namespace ClassDiagram.Rust

namespace Grammar

/-- The rules one level up: each refers to the given rules for the parts inside. -/
def expand (r : Rules) : Rules where
  type := type r
  typeParameters := typeParameters r
  pattern := pattern r (closure r {})
  expression := expression r
  continuation := continuation r
  blockLike := blockLike r
  block := block r
  item := item r
  importClause := importClause r

/-- The rules for texts whose parts nest at most `depth` levels deep. -/
def upTo (depth : Nat) : Rules :=
  Nat.repeat expand depth Rules.none

/-- How deep the parts of a text of `n` tokens can nest: at most three rules in a row take no token. -/
def depthFor (n : Nat) : Nat :=
  4 * n + 4

end Grammar

/-- A source with the items that the grammar finds in it. -/
structure Parsed where
  tokens : List Token
  items : List Item
deriving Repr, DecidableEq

/-- The items of a source text, in order; `none` if it is not Rust. -/
def parse? (source : String) : Option Parsed := do
  let tokens ← Lexer.tokens? source
  let rules := Grammar.upTo (Grammar.depthFor tokens.length)
  let (items, _) ← (Grammar.file rules).run (Token.reduce tokens)
  some { tokens, items }

/-- The declarations of a source, in order. -/
def Parsed.declarations (parsed : Parsed) : List Declaration :=
  parsed.items.filterMap (Item.read? (Span.text parsed.tokens))

/-- The declarations of a source text, in order; `none` if it is not Rust. -/
def declarations? (source : String) : Option (List Declaration) :=
  (parse? source).map Parsed.declarations

end ClassDiagram.Rust
