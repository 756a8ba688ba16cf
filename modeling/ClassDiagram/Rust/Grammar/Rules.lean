import ClassDiagram.Rust.Parse
import ClassDiagram.Rust.Syntax

namespace ClassDiagram.Rust

/-- The forms of types that some places tell apart. -/
inductive TypeForm where
  /-- A lone name. -/
  | name
  /-- A lone name with arguments. -/
  | genericName
  /-- A path. -/
  | scoped
  /-- A path with arguments. -/
  | generic
  | primitive
  | reference
  | pointer
  | tuple
  | array
  | other
deriving Repr, DecidableEq

/-- Names and paths, with or without arguments. -/
def TypeForm.isPath : TypeForm → Bool
  | .name | .genericName | .scoped | .generic => true
  | _ => false

/-- Where an expression stands. -/
structure Place where
  /-- A block comes next, so a brace after a name opens no struct literal. -/
  beforeBlock : Bool := false
  /-- It is part of a condition, in which `let` may follow `&&`. -/
  inCondition : Bool := false

/-- The parsers for the parts of the grammar that refer to each other: types, patterns, expressions and blocks.
Each module of the grammar is written against these, and `Grammar.upTo` ties the knot. Words are keywords only
where the grammar has a use for the keyword, and names everywhere else. -/
structure Rules where
  /-- A type; the flag says that it is the type of a cast, which takes in neither `+` nor `<<`. -/
  type : Bool → Parse TypeForm
  /-- Type parameters in angle brackets. -/
  typeParameters : Parse Unit
  /-- A pattern; the flag says whether alternatives may follow. -/
  pattern : Bool → Parse Unit
  expression : Place → Parse Unit
  /-- The rest of an expression whose first operand has been taken. -/
  continuation : Place → Parse Unit
  /-- An expression that ends in a block. -/
  blockLike : Parse Unit
  /-- Statements in braces. -/
  block : Parse Unit
  /-- A declaration. -/
  item : Parse Item
  /-- What an import names. -/
  importClause : Parse Unit

/-- The rules that take nothing. -/
def Rules.none : Rules where
  type _ := Parse.fail
  typeParameters := Parse.fail
  pattern _ := Parse.fail
  expression _ := Parse.fail
  continuation _ := Parse.fail
  blockLike := Parse.fail
  block := Parse.fail
  item := Parse.fail
  importClause := Parse.fail

namespace Grammar

/-- The names of the types built into the language. -/
def primitiveTypes : List String :=
  ["u8", "i8", "u16", "i16", "u32", "i32", "u64", "i64", "u128", "i128", "isize", "usize", "f32", "f64",
    "bool", "str", "char"]

/-- Keywords that may also be used as names of values. -/
def reservedNames : List String :=
  ["default", "union", "gen", "raw"]

end Grammar

end ClassDiagram.Rust
