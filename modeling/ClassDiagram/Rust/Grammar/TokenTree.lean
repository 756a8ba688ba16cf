import ClassDiagram.Rust.Grammar.Rules

namespace ClassDiagram.Rust.Grammar

/-- The bracket that closes the one a token opens. -/
def closerOf? (t : Token) : Option Char :=
  if t.isPunctuation '(' then some ')'
  else if t.isPunctuation '[' then some ']'
  else if t.isPunctuation '{' then some '}'
  else none

/-- Does the token close a bracket? -/
def isCloser (t : Token) : Bool :=
  t.isPunctuation ')' || t.isPunctuation ']' || t.isPunctuation '}'

/-- Takes tokens until all brackets are closed; `closers` holds the closers to come, the next one first. -/
def untilClosed (closers : List Char) (ts : List Token) : Option (List Token) :=
  match closers, ts with
  | [], ts => some ts
  | _, [] => none
  | c :: more, t :: ts =>
    if t.isPunctuation c then untilClosed more ts
    else
      match closerOf? t with
      | some d => untilClosed (d :: c :: more) ts
      | none => if isCloser t then none else untilClosed (c :: more) ts

theorem untilClosed_isSuffix {closers : List Char} {ts rest : List Token}
    (h : untilClosed closers ts = some rest) : rest <:+ ts := by
  fun_induction untilClosed closers ts with
  | case1 ts =>
    cases h
    exact List.suffix_refl _
  | case2 => cases h
  | case3 | case4 | case6 => next ih => exact (ih h).trans ⟨[_], rfl⟩
  | case5 => cases h

/-- A bracketed run of tokens, whose inside is taken as the given function says once the bracket that closes
it is known. -/
def bracketed (inside : Char → List Token → Option (List Token))
    (hinside : ∀ {c ts rest}, inside c ts = some rest → rest <:+ ts) : Parse Unit where
  run
    | [] => none
    | t :: ts =>
      match closerOf? t with
      | none => none
      | some c =>
        match inside c ts with
        | none => none
        | some rest => some ((), rest)
  isSuffix {ts rest a} h := by
    cases ts with
    | nil => cases h
    | cons t ts =>
      dsimp only at h
      split at h
      · cases h
      · split at h
        · cases h
        · next hclosed =>
          cases h
          exact (hinside hclosed).trans (List.suffix_cons t ts)

/-- A bracketed run of tokens, as the arguments of macros and attributes are. Nothing counts inside but that
brackets pair up. -/
def tokenTree : Parse Unit :=
  bracketed (fun c => untilClosed [c]) untilClosed_isSuffix

/-- The kinds of fragments that a variable of a macro may stand for. -/
def fragmentKinds : List String :=
  ["block", "expr", "expr_2021", "ident", "item", "lifetime", "literal", "meta", "pat", "pat_param", "path",
    "stmt", "tt", "ty", "vis"]

/-- Is it one of the marks that say how often a group is repeated? -/
def isRepeatMark (t : Token) : Bool :=
  t.isPunctuation '+' || t.isPunctuation '*' || t.isPunctuation '?'

/-- A bracket that is to be closed, and whether it encloses a repeated group. -/
structure Closer where
  bracket : Char
  isRepeated : Bool := false

/-- Takes one side of a macro rule until all brackets are closed. A dollar sign opens a repeated group, at
whose end a separator and a repeat mark stand (`awaitsMark`); in a matcher, a variable may be given its
kind. -/
def untilRuleClosed (isMatcher : Bool) (closers : List Closer) (awaitsMark : Bool) (ts : List Token) :
    Option (List Token) :=
  match closers, ts with
  | [], ts => some ts
  | _, [] => none
  | c :: more, t :: ts =>
    if awaitsMark then untilRuleClosed isMatcher (c :: more) (!isRepeatMark t) ts
    else if t.isPunctuation c.bracket then untilRuleClosed isMatcher more c.isRepeated ts
    else if t.isPunctuation '$' then
      match ts with
      | u :: rest =>
        if u.isPunctuation '(' then
          untilRuleClosed isMatcher (⟨')', true⟩ :: c :: more) false rest
        else none
      | [] => none
    else
      match closerOf? t with
      | some d => untilRuleClosed isMatcher (⟨d, false⟩ :: c :: more) false ts
      | none =>
        if isCloser t then none
        else if isMatcher && t.kind = .metavariable then
          match ts with
          | colon :: kind :: rest =>
            if colon.isPunctuation ':' && !(kind.isPunctuation ':' && kind.isAdjacent) then
              if fragmentKinds.any kind.isWord then
                untilRuleClosed isMatcher (c :: more) false rest
              else none
            else untilRuleClosed isMatcher (c :: more) false (colon :: kind :: rest)
          | rest => untilRuleClosed isMatcher (c :: more) false rest
        else untilRuleClosed isMatcher (c :: more) false ts
termination_by ts.length

theorem untilRuleClosed_isSuffix {isMatcher awaitsMark : Bool} {closers : List Closer} {ts rest : List Token}
    (h : untilRuleClosed isMatcher closers awaitsMark ts = some rest) : rest <:+ ts := by
  fun_induction untilRuleClosed isMatcher closers awaitsMark ts with
  | case1 =>
    cases h
    exact List.suffix_refl _
  | case2 | case6 | case7 | case9 | case11 => cases h
  | case5 => next ih => exact (ih h).trans ⟨[_, _], rfl⟩
  | case10 => next ih => exact (ih h).trans ⟨[_, _, _], rfl⟩
  | case3 | case4 | case8 | case12 | case13 | case14 => next ih => exact (ih h).trans ⟨[_], rfl⟩

/-- One side of a macro rule. -/
def ruleTree (isMatcher : Bool) : Parse Unit :=
  bracketed (fun c => untilRuleClosed isMatcher [⟨c, false⟩] false) untilRuleClosed_isSuffix

/-- A macro rule: a matcher and what it stands for. -/
def macroRule : Parse Unit := do
  ruleTree true
  Parse.symbol "=>"
  ruleTree false

/-- The rules of a macro definition, separated by semicolons. -/
def macroRules : Parse Unit := do
  let _ ← Parse.many (do macroRule; Parse.punct ';')
  Parse.maybe macroRule

/-- A macro definition from its name on. In round or square brackets a semicolon ends it. -/
def macroDefinition : Parse Unit := do
  let _ ← Parse.anyWord
  (do Parse.punct '{'; macroRules; Parse.punct '}') <|>
    (do Parse.punct '('; macroRules; Parse.punct ')'; Parse.punct ';') <|>
    (do Parse.punct '['; macroRules; Parse.punct ']'; Parse.punct ';')

end ClassDiagram.Rust.Grammar
