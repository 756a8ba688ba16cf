import ClassDiagram.Proofs.Rust.Core.Structs

namespace ClassDiagram.Rust.Core

open Parse Grammar

variable {source : List Token} {depth : Nat}

/-- A receiver is read whatever follows it; nothing but its text is kept, and this differs in blanks between
layouts. -/
theorem reads_receiver (r : Receiver) :
    Reads source receiver (Parameter.receiver r).lexemes (fun _ => True) fun _ => True := by
  refine ⟨fun {ts rest} hts _ _ => ⟨(), ?_, trivial⟩⟩
  cases r <;> simp only [Parameter.lexemes, spells_cons_iff, spells_nil_iff] at hts
  case value =>
    obtain ⟨gap, _, rfl, rfl⟩ := hts
    simp [receiver, lifetime]
  case reference =>
    obtain ⟨gap, _, rfl, gap', _, rfl, rfl⟩ := hts
    simp [receiver, lifetime]
  case mutableReference =>
    obtain ⟨gap, _, rfl, gap', _, rfl, gap'', _, rfl, rfl⟩ := hts
    simp [receiver, lifetime]

/-- Receivers are compared by their texts without blanks, as `& self` and `&self` are the same. -/
theorem canonical_receiver (r : Receiver) :
    (Parameter.receiver r).declaration.canonical =
      { pattern := written (Parameter.receiver r).lexemes, isReceiver := true } := by
  cases r <;> decide

/-- The tokens begin with this lexeme, and a word is behind it. -/
def BeforeWord (l : Lexeme) (ts : List Token) : Prop :=
  ∃ gap w rest, ts = l.token gap :: w :: rest ∧ w.kind = .word

/-- A colon before a word stands alone, so it is not taken for a path separator. -/
theorem BeforeWord.startsWith_colons {ts : List Token} (h : BeforeWord (.mark ':') ts) :
    startsWith [':', ':'] ts = false := by
  obtain ⟨gap, w, rest, rfl, hw⟩ := h
  simp [startsWith, Token.isPunctuation, hw]

/-- A lone name is a pattern, for which the rule looks at what follows it: no separator, no bracket and no mark
of a macro. -/
theorem reads_pattern (depth : Nat) (n : Name) :
    Reads source ((upTo (depth + 1)).pattern true) [n.lexeme] (BeforeWord (.mark ':')) fun _ => True := by
  refine ⟨fun {ts rest} hts _ hrest => ⟨(), ?_, trivial⟩⟩
  have hcolons := hrest.startsWith_colons
  simp only [spells_cons_iff, spells_nil_iff] at hts
  obtain ⟨gap, _, rfl, rfl⟩ := hts
  obtain ⟨gap', w, rest, rfl, hw⟩ := hrest
  have hstep : (pathStep (upTo depth) .name).run ((Lexeme.mark ':').token gap' :: w :: rest) = none := by
    simp [pathStep, hcolons]
  have hpath : (path (upTo depth)).run (n.lexeme.token gap :: (Lexeme.mark ':').token gap' :: w :: rest) =
      some (.name, (Lexeme.mark ':').token gap' :: w :: rest) := by
    simp [path, pathStart, bracketedType, startsWith, run_iterate_of_none hstep]
  have hafter : (afterPath (upTo depth) .name).run ((Lexeme.mark ':').token gap' :: w :: rest) =
      some ((), (Lexeme.mark ':').token gap' :: w :: rest) := by
    simp [afterPath, atBang, startsWith]
  have hsimple (closure : Parse Unit) :
      (simplePattern (upTo depth) closure).run (n.lexeme.token gap :: (Lexeme.mark ':').token gap' :: w :: rest) =
        some ((), (Lexeme.mark ':').token gap' :: w :: rest) := by
    simp [simplePattern, isLiteral, startsWith, n.text_ne, hpath, hafter]
  simp [upTo_succ, expand, pattern, hsimple, run_many_of_none]

/-- A parameter with a name and a type is read with the places of both. -/
theorem reads_namedParameter (hdepth : source.length ≤ depth + 1) (n : Name) (t : Ty) :
    Reads source (typedParameter (upTo (depth + 1))) (Parameter.named n t).lexemes (BeginsWith [.mark ',', .mark ')'])
      fun read => ∃ pattern type : Span, read = .typed pattern type ∧ pattern.Covers source [n.lexeme] ∧
        type.Covers source t.lexemes := by
  have hbound : Reads source (span (word "self" <|> (upTo (depth + 1)).pattern true)) [n.lexeme]
      (BeforeWord (.mark ':')) fun place => place.Covers source [n.lexeme] := by
    refine Reads.span (Q := fun _ => True) ⟨fun {ts rest} hts hsource hrest => ⟨(), ?_, trivial⟩⟩
    obtain ⟨_, hpattern, -⟩ := (reads_pattern depth n).run hts hsource hrest
    obtain ⟨gap, nothing, rfl, _⟩ := spells_cons_iff.mp hts
    rw [List.cons_append] at hpattern ⊢
    simp [n.text_ne, hpattern]
  refine ⟨fun {ts rest} hts hsource hrest => ?_⟩
  obtain ⟨gap, _, rfl, hcolon⟩ := spells_cons_iff.mp hts
  obtain ⟨gap', type, rfl, htype⟩ := spells_cons_iff.mp hcolon
  have htypeSource : type ++ rest <:+ Token.reduce source :=
    ((List.suffix_cons ..).trans (List.suffix_cons ..)).trans hsource
  obtain ⟨place, hplace, hcovers⟩ :=
    (reads_typePlace hdepth t).run htype htypeSource (.of_beginsWith (hrest.of_subset (by simp)))
  obtain ⟨w, gap'', more, hfirst⟩ := Ty.begins htype
  have hatColon : BeforeWord (.mark ':') ((Lexeme.mark ':').token gap' :: (type ++ rest)) :=
    ⟨gap', _, more ++ rest, by rw [hfirst]; rfl, rfl⟩
  rw [List.cons_append, List.cons_append] at hsource ⊢
  obtain ⟨pattern, hpattern, hpatternCovers⟩ := hbound.one hsource hatColon
  have hcolons := hatColon.startsWith_colons
  refine ⟨.typed pattern place, ?_, pattern, place, rfl, hpatternCovers, hcovers⟩
  have hdots : startsWith ['.', '.', '.'] (type ++ rest) = false := by
    rw [hfirst]
    rfl
  simp [typedParameter, colon, n.text_ne, hpattern, hcolons, hdots, hplace]

/-- Each parameter is read and gives the declaration that it was written for, up to blanks. -/
theorem reads_parameter (hdepth : source.length ≤ depth + 1) (hgaps : BlankGaps source) (p : Parameter) :
    Reads source (parameter (upTo (depth + 1))) p.lexemes (BeginsWith [.mark ',', .mark ')'])
      fun read => (read.read? (Span.text source)).map ParameterDeclaration.canonical =
        some p.declaration.canonical := by
  refine ⟨fun {ts rest} hts hsource hrest => ?_⟩
  cases p with
  | receiver r =>
    obtain ⟨place, hplace, hcovers⟩ := (reads_receiver r).span.run hts hsource trivial
    have hend : atParameterEnd.run rest = some (true, rest) := by
      obtain ⟨l, hl, gap, rest, rfl⟩ := hrest
      simp only [List.mem_cons, List.not_mem_nil, or_false] at hl
      rcases hl with rfl | rfl <;> simp [atParameterEnd]
    have hattribute : (outerAttribute (upTo (depth + 1))).run (ts ++ rest) = none := by
      cases r <;>
      · obtain ⟨gap, more, rfl, _⟩ := spells_cons_iff.mp hts
        simp [outerAttribute]
    refine ⟨.receiver place, by simp [parameter, hattribute, hplace, hend], ?_⟩
    have hpattern := hcovers.canonical_text hgaps
    rw [canonical_receiver]
    simp [Syntax.Parameter.read?, ParameterDeclaration.canonical, hpattern]
    rfl
  | named n t =>
    obtain ⟨_, hrun, pattern, type, rfl, hpattern, htype⟩ := (reads_namedParameter hdepth n t).run hts hsource hrest
    obtain ⟨gap, ts, rfl, _⟩ := spells_cons_iff.mp hts
    refine ⟨.typed pattern type, ?_, ?_⟩
    · rw [List.cons_append] at hrun ⊢
      simp [parameter, outerAttribute, receiver, lifetime, span, n.text_ne, hrun]
    · simp [Syntax.Parameter.read?, ParameterDeclaration.canonical, Parameter.declaration, hpattern.text_eq, n.text_ne,
        canonical_type hgaps htype]

/-- No parameter begins with the closing parenthesis, which ends the list, also behind a comma. -/
theorem run_parameter_close (depth : Nat) (gap : List Char) (ts : List Token) :
    (parameter (upTo (depth + 1))).run ((Lexeme.mark ')').token gap :: ts) = none := by
  have htype : ((upTo (depth + 1)).type false).run ((Lexeme.mark ')').token gap :: ts) = none :=
    run_type_close (by simp) gap ts
  have hpattern : ((upTo (depth + 1)).pattern true).run ((Lexeme.mark ')').token gap :: ts) = none := by
    simp [upTo_succ, expand, pattern, simplePattern, isLiteral, path, pathStart, bracketedType, startsWith]
  simp [parameter, outerAttribute, receiver, lifetime, typedParameter, span, startsWith, htype, hpattern]

/-- The parameters of a method are read as a list in parentheses, a receiver being the first of them. -/
theorem reads_parameters (hdepth : source.length ≤ depth + 1) (hgaps : BlankGaps source) (ps : List Parameter)
    (comma : Bool) :
    Reads source (parameters (upTo (depth + 1)))
      (enclosed (.mark '(') (.mark ')') (commaLexemes (ps.map Parameter.lexemes) comma)) (fun _ => True)
      fun read => read.map (fun p => (p.read? (Span.text source)).map ParameterDeclaration.canonical) =
        ps.map fun p => some p.declaration.canonical :=
  .bracketed (.commaList (by decide) (fun p _ => reads_parameter hdepth hgaps p) (run_parameter_close depth) comma)

/-- The body of a method in the core is a pair of braces, read as a block without statements. -/
theorem run_block_empty (depth : Nat) (gap gap' : List Char) (ts : List Token) :
    (upTo (depth + 1)).block.run ((Lexeme.mark '{').token gap :: (Lexeme.mark '}').token gap' :: ts) =
      some ((), ts) := by
  simp [upTo_succ, expand, block, statements]

/-- If every value read is shown, those that are kept are shown alike. Reading keeps only what has a
declaration, and here everything has one. -/
theorem map_filterMap_eq {α β γ : Type} {f : α → Option β} {g : β → γ} {as : List α} {cs : List γ}
    (h : as.map (fun a => (f a).map g) = cs.map some) : (as.filterMap f).map g = cs := by
  have hkept := congrArg (List.filterMap id) h
  rw [List.filterMap_map, List.filterMap_map] at hkept
  rw [List.map_filterMap]
  simpa [Function.comp_def] using hkept

/-- The declaration of a method, up to blanks. -/
def shownMethod (source : List Token) (i : Rust.Item) : Option MethodDeclaration :=
  i.method?.map fun m => (m.read (Span.text source)).canonical

/-- A method is read by the rule for functions and gives its declaration, up to blanks. -/
theorem reads_function (hdepth : source.length ≤ depth + 1) (hgaps : BlankGaps source) (v : Visibility)
    (m : Method) :
    Reads source (functionItem (upTo (depth + 1)) v)
      (.word "fn" :: m.name.lexeme ::
        (enclosed (.mark '(') (.mark ')') (commaLexemes (m.allParameters.map Parameter.lexemes) m.comma) ++
          [.mark '{', .mark '}']))
      (fun _ => True) fun i => shownMethod source i = some (m.declaration v).canonical := by
  refine ⟨fun {ts rest} hts hsource _ => ?_⟩
  obtain ⟨gap, _, rfl, hname⟩ := spells_cons_iff.mp hts
  obtain ⟨gap', list, rfl, hlist⟩ := spells_cons_iff.mp hname
  have hlistSource : list ++ rest <:+ Token.reduce source :=
    ((List.suffix_cons ..).trans (List.suffix_cons ..)).trans hsource
  obtain ⟨read, gap'', _, hrun, hread, hclose, -⟩ :=
    (reads_parameters hdepth hgaps m.allParameters m.comma).before (fun _ _ => trivial) hlist hlistSource
  simp only [spells_cons_iff, spells_nil_iff] at hclose
  obtain ⟨gapEnd, _, rfl, rfl⟩ := hclose
  obtain ⟨gapOpen, inside, rfl, _⟩ := spells_cons_iff.mp hlist
  have htypes := run_typeParameters_of_ne (t := (Lexeme.mark '(').token gapOpen) (by simp) (depth + 1)
  rw [List.cons_append] at hrun
  refine ⟨.method { name := m.name.text, visibility := v, parameters := read }, ?_, ?_⟩
  · simp [functionItem, function, functionHead, run_functionModifiers_of_ne, htypes, hrun, startsWith, whereClause,
      label, lifetime, run_block_empty]
  · have hsame := map_filterMap_eq (hread.trans (List.map_map ..).symm)
    simp [shownMethod, Item.method?, Syntax.Method.read, MethodDeclaration.canonical, Method.declaration, hsame]

end ClassDiagram.Rust.Core
