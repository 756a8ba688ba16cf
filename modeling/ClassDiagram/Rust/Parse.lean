import ClassDiagram.Rust.Token

namespace ClassDiagram.Rust

/-- A parser takes tokens off the front of a list or fails; alternatives are tried in order from the same place.
What a parser leaves is always the end of the list that it was given. -/
structure Parse (α : Type) where
  /-- The value and the tokens that are left. -/
  run : List Token → Option (α × List Token)
  isSuffix : ∀ {ts rest : List Token} {a : α}, run ts = some (a, rest) → rest <:+ ts

namespace Parse

variable {α β : Type}

/-- Looks at the tokens and takes none. -/
@[inline] def look (f : List Token → α) : Parse α where
  run ts := some (f ts, ts)
  isSuffix h := by
    cases h
    exact List.suffix_refl _

/-- Takes the first parser's tokens, then those of the parser that its value leads to. -/
@[inline] def andThen (p : Parse α) (next : α → Parse β) : Parse β where
  run ts :=
    match p.run ts with
    | none => none
    | some (a, rest) => (next a).run rest
  isSuffix h := by
    split at h
    · cases h
    · next hfirst => exact ((next _).isSuffix h).trans (p.isSuffix hfirst)

/-- Tries another parser from the same place if the first one fails. -/
@[inline] def orElse (p : Parse α) (other : Unit → Parse α) : Parse α where
  run ts :=
    match p.run ts with
    | none => (other ()).run ts
    | some result => some result
  isSuffix h := by
    split at h
    · exact (other ()).isSuffix h
    · next hfirst =>
      cases h
      exact p.isSuffix hfirst

instance : Monad Parse where
  pure a := look fun _ => a
  bind := andThen

instance : OrElse (Parse α) where
  orElse := orElse

/-- Does the next token satisfy the test? -/
def peek (test : Token → Bool) : Parse Bool :=
  look fun ts => ts.head?.any test

/-- Takes the next token if it satisfies the test. -/
def token (test : Token → Bool) : Parse Token where
  run
    | t :: ts => if test t then some (t, ts) else none
    | [] => none
  isSuffix {ts rest a} h := by
    cases ts with
    | nil => cases h
    | cons t ts =>
      dsimp only at h
      split at h
      · cases h
        exact List.suffix_cons _ _
      · cases h

/-- Takes this word. -/
def word (w : String) : Parse Unit := do
  let _ ← token (·.isWord w)

/-- Takes any word. -/
def anyWord : Parse String := do
  let t ← token (·.kind = .word)
  return String.ofList t.text

/-- Is this word next? -/
def atWord (w : String) : Parse Bool :=
  peek (·.isWord w)

/-- Is one of these words next? -/
def atWordOf (ws : List String) : Parse Bool :=
  peek fun t => ws.any t.isWord

/-- Takes this punctuation character. -/
def punct (c : Char) : Parse Unit := do
  let _ ← token (·.isPunctuation c)

/-- Is this punctuation character next? -/
def atPunct (c : Char) : Parse Bool :=
  peek (·.isPunctuation c)

/-- Do the tokens start with these characters, one right after the other? -/
def startsWith : List Char → List Token → Bool
  | [], _ => true
  | _, [] => false
  | c :: cs, t :: ts =>
    t.isPunctuation c && (cs.isEmpty || (ts.head?.any Token.isAdjacent && startsWith cs ts))

/-- Is this symbol next, its characters one right after the other? -/
def atSymbol (symbol : String) : Parse Bool :=
  look (startsWith symbol.toList)

/-- Takes this symbol, its characters one right after the other. -/
def symbol (symbol : String) : Parse Unit where
  run ts := if startsWith symbol.toList ts then some ((), ts.drop symbol.length) else none
  isSuffix {ts rest a} h := by
    split at h
    · cases h
      exact List.drop_suffix _ _
    · cases h

/-- Fails. -/
def fail : Parse α where
  run _ := none
  isSuffix h := by cases h

/-- Goes on only if the condition holds. -/
def require (condition : Bool) : Parse Unit :=
  if condition then pure () else fail

/-- Would the parser succeed here? -/
def succeeds (p : Parse α) : Parse Bool :=
  look fun ts => (p.run ts).isSome

/-- Takes what the parser takes, if it succeeds; tells whether it did. -/
def option (p : Parse Unit) : Parse Bool :=
  (do p; return true) <|> pure false

/-- Takes what the parser takes, or nothing. -/
def maybe (p : Parse Unit) : Parse Unit :=
  p <|> pure ()

/-- Takes this word if it is next. -/
def maybeWord (w : String) : Parse Unit :=
  maybe (word w)

/-- A parser that may depend on the tokens that are left, as on a bound for its repetitions. -/
def along (p : List Token → Parse α) : Parse α where
  run ts := (p ts).run ts
  isSuffix {ts _ _} h := (p ts).isSuffix h

/-- Repeats a parser at most once for each of the given tokens and collects the results. -/
def manyAlong (p : Parse α) : List Token → Parse (List α)
  | [] => pure []
  | _ :: bound =>
    (do
      let first ← p
      let more ← manyAlong p bound
      return first :: more) <|> pure []

/-- Repeats a parser as long as it succeeds. One that takes a token each time cannot succeed more often
than there are tokens. -/
def many (p : Parse α) : Parse (List α) :=
  along (manyAlong p)

/-- Goes on from a value at most once for each of the given tokens. -/
def iterateAlong (step : α → Parse α) : List Token → α → Parse α
  | [], a => pure a
  | _ :: bound, a => (do iterateAlong step bound (← step a)) <|> pure a

/-- Goes on from a value as long as the step succeeds. -/
def iterate (step : α → Parse α) (a : α) : Parse α :=
  along fun ts => iterateAlong step ts a

/-- One or more, separated by commas. -/
def commaSeparated (p : Parse α) : Parse (List α) := do
  let first ← p
  let rest ← many (do punct ','; p)
  return first :: rest

/-- Any number, separated by commas, with a comma after the last if one likes. -/
def commaList (p : Parse α) : Parse (List α) := do
  let items ← commaSeparated p <|> pure []
  maybe (punct ',')
  return items

/-- One or more, separated by commas, with a comma after the last if one likes. -/
def commaList1 (p : Parse α) : Parse (List α) := do
  let items ← commaSeparated p
  maybe (punct ',')
  return items

/-- The run of tokens that the parser takes. -/
def span (p : Parse Unit) : Parse Span where
  run ts :=
    match p.run ts with
    | none => none
    | some (_, rest) => some (⟨ts.length, rest.length⟩, rest)
  isSuffix {ts rest a} h := by
    split at h
    · cases h
    · next hp =>
      cases h
      exact p.isSuffix hp

end Parse

end ClassDiagram.Rust
