import ClassDiagram.Rust.Grammar

namespace ClassDiagram.Rust.Parse

variable {α β : Type}

-- Where a proof is `(rfl)` in parentheses, `simp` rewrites with a proof instead of by unfolding, which would have to
-- be retraced through whole rules.

/-- The second parser goes on where the first one stops. -/
@[simp]
theorem run_bind (p : Parse α) (f : α → Parse β) (ts : List Token) :
    (p >>= f).run ts = (p.run ts).bind fun found => (f found.1).run found.2 := by
  change (andThen p f).run ts = _
  dsimp only [andThen]
  cases p.run ts <;> rfl

/-- The second of two alternatives is tried on the same tokens if the first one fails, and not if something
fails behind the first. -/
@[simp]
theorem run_orElse (p q : Parse α) (ts : List Token) : (p <|> q).run ts = (p.run ts).or (q.run ts) := by
  change (orElse p fun _ => q).run ts = _
  dsimp only [orElse]
  cases p.run ts <;> rfl

@[simp]
theorem run_pure (a : α) (ts : List Token) : (pure a : Parse α).run ts = some (a, ts) := (rfl)

@[simp]
theorem run_look (f : List Token → α) (ts : List Token) : (look f).run ts = some (f ts, ts) := (rfl)

@[simp]
theorem run_require (condition : Bool) (ts : List Token) :
    (require condition).run ts = if condition then some ((), ts) else none := by
  cases condition <;> rfl

@[simp]
theorem run_maybe (p : Parse Unit) (ts : List Token) : (maybe p).run ts = (p.run ts).or (some ((), ts)) := by
  rw [maybe, run_orElse, run_pure]

@[simp]
theorem run_along (p : List Token → Parse α) (ts : List Token) : (along p).run ts = (p ts).run ts := (rfl)

@[simp]
theorem run_succeeds (p : Parse α) (ts : List Token) : (succeeds p).run ts = some ((p.run ts).isSome, ts) := (rfl)

@[simp]
theorem run_option (p : Parse Unit) (ts : List Token) :
    (option p).run ts = ((p.run ts).map fun found => (true, found.2)).or (some (false, ts)) := by
  simp only [option, run_orElse, run_bind, run_pure]
  cases p.run ts <;> rfl

/-- The place of a run is told by the tokens left before and after it. -/
theorem run_span {p : Parse Unit} {ts rest : List Token} (h : p.run ts = some ((), rest)) :
    (span p).run ts = some (⟨ts.length, rest.length⟩, rest) := by
  simp [span, h]

variable (t : Token) (ts : List Token)

@[simp]
theorem run_token (test : Token → Bool) : (token test).run (t :: ts) = if test t then some (t, ts) else none := (rfl)

@[simp]
theorem run_word (w : String) : (word w).run (t :: ts) = if t.isWord w then some ((), ts) else none := by
  rw [word, run_bind, run_token]
  split <;> rfl

@[simp]
theorem run_punct (c : Char) : (punct c).run (t :: ts) = if t.isPunctuation c then some ((), ts) else none := by
  rw [punct, run_bind, run_token]
  split <;> rfl

@[simp]
theorem run_anyWord : anyWord.run (t :: ts) = if t.kind = .word then some (String.ofList t.text, ts) else none := by
  rw [anyWord, run_bind, run_token]
  by_cases h : t.kind = .word <;> simp [h]

@[simp]
theorem run_peek (test : Token → Bool) : (peek test).run (t :: ts) = some (test t, t :: ts) := (rfl)

@[simp]
theorem run_atPunct (c : Char) : (atPunct c).run (t :: ts) = some (t.isPunctuation c, t :: ts) := (rfl)

@[simp]
theorem run_atWord (w : String) : (atWord w).run (t :: ts) = some (t.isWord w, t :: ts) := (rfl)

@[simp]
theorem run_atWordOf (ws : List String) : (atWordOf ws).run (t :: ts) = some (ws.any t.isWord, t :: ts) := (rfl)

@[simp]
theorem run_maybeWord (w : String) :
    (maybeWord w).run (t :: ts) = some ((), if t.isWord w then ts else t :: ts) := by
  rw [maybeWord, run_maybe, run_word]
  split <;> rfl

@[simp]
theorem run_atSymbol (symbol : String) (ts : List Token) :
    (atSymbol symbol).run ts = some (startsWith symbol.toList ts, ts) := (rfl)

@[simp]
theorem run_symbol (s : String) (ts : List Token) :
    (symbol s).run ts = if startsWith s.toList ts then some ((), ts.drop s.length) else none := (rfl)

variable {t ts} {rest : List Token}

/-- A repetition whose first round fails takes nothing and does not fail. -/
theorem run_many_of_none {p : Parse α} (h : p.run ts = none) : (many p).run ts = some ([], ts) := by
  cases ts with
  | nil => rfl
  | cons t ts => simp [many, manyAlong, h]

theorem run_iterateAlong_of_none {step : α → Parse α} {a : α} (h : (step a).run ts = none) (bound : List Token) :
    (iterateAlong step bound a).run ts = some (a, ts) := by
  cases bound with
  | nil => rfl
  | cons _ bound => simp [iterateAlong, h]

/-- A step that cannot be taken leaves the value and the tokens as they are. -/
theorem run_iterate_of_none {step : α → Parse α} {a : α} (h : (step a).run ts = none) :
    (iterate step a).run ts = some (a, ts) :=
  run_iterateAlong_of_none h ts

/-- A step that is taken once, such as the one from a name to its type arguments. -/
theorem run_iterate_once {step : α → Parse α} {a b : α} (hstep : (step a).run (t :: ts) = some (b, rest))
    (hstop : (step b).run rest = none) : (iterate step a).run (t :: ts) = some (b, rest) := by
  simp [iterate, iterateAlong, hstep, run_iterateAlong_of_none hstop]

end ClassDiagram.Rust.Parse
