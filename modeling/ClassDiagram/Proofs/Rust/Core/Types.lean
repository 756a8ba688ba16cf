import ClassDiagram.Proofs.Rust.Core

namespace ClassDiagram.Rust.Core

open Parse Grammar

/-- A name is none of the words that the rules look for where a name may stand. So at each choice of a rule that
asks for such a word the answer is no. -/
theorem Name.text_ne (n : Name) :
    n.text ≠ "_" ∧ n.text ≠ "async" ∧ n.text ≠ "const" ∧ n.text ≠ "crate" ∧ n.text ≠ "default" ∧ n.text ≠ "dyn" ∧
      n.text ≠ "extern" ∧ n.text ≠ "false" ∧ n.text ≠ "fn" ∧ n.text ≠ "for" ∧ n.text ≠ "gen" ∧ n.text ≠ "impl" ∧
      n.text ≠ "mut" ∧ n.text ≠ "pub" ∧ n.text ≠ "ref" ∧ n.text ≠ "self" ∧ n.text ≠ "super" ∧ n.text ≠ "true" ∧
      n.text ≠ "unsafe" ∧ n.text ≠ "use" := by
  have hkeyword {w : String} (hw : w ∈ keywords) : n.text ≠ w := fun h => n.notMem_keywords (h ▸ hw)
  refine ⟨n.ne_underscore, ?_⟩
  and_intros
  all_goals exact hkeyword (by decide)

/-- A name is not one of the types built into the language, which have a form of their own. -/
@[simp]
theorem Name.wordForm_text (n : Name) : wordForm n.text = .name := by
  have hsubset : reservedNames ⊆ keywords := by decide
  have hreserved : n.text ∉ reservedNames := fun h => n.notMem_keywords (hsubset h)
  simp [wordForm, n.text_ne, n.notMem_primitiveTypes, hreserved]

variable {source : List Token}

/-- The rules of a depth are made from those of the depth below. -/
theorem upTo_succ (depth : Nat) : upTo (depth + 1) = expand (upTo depth) := rfl

theorem run_block_of_ne {t : Token} (ht : t.isPunctuation '{' = false) (depth : Nat) (ts : List Token) :
    (upTo depth).block.run (t :: ts) = none := by
  cases depth with
  | zero => rfl
  | succ depth => simp [upTo_succ, expand, block, ht]

theorem run_typeParameters_of_ne {t : Token} (ht : t.isPunctuation '<' = false) (depth : Nat) (ts : List Token) :
    (upTo depth).typeParameters.run (t :: ts) = none := by
  cases depth with
  | zero => rfl
  | succ depth => simp [upTo_succ, expand, typeParameters, ht]

theorem run_functionModifiers_of_ne {t : Token}
    (ht : ∀ w ∈ ["async", "default", "const", "unsafe", "gen", "extern"], t.isWord w = false) (ts : List Token) :
    (many functionModifier).run (t :: ts) = some ([], t :: ts) :=
  run_many_of_none (by simp_all [functionModifier, externModifier])

theorem run_functionHead_of_ne {t : Token}
    (ht : ∀ w ∈ ["fn", "async", "default", "const", "unsafe", "gen", "extern"], t.isWord w = false)
    (ts : List Token) : functionHead.run (t :: ts) = none := by
  obtain ⟨hfn, ht⟩ := List.forall_mem_cons.mp ht
  simp [functionHead, run_functionModifiers_of_ne ht, hfn]

theorem run_leadingBound_of_ne {t : Token} (hquote : t.isPunctuation '\'' = false) (huse : t.isWord "use" = false)
    (ts : List Token) : leadingBound.run (t :: ts) = none := by
  simp [leadingBound, lifetime, useBounds, hquote, huse]

/-- What does not go on with a type. -/
def TypeEnds (ts : List Token) : Prop :=
  ∃ t rest, ts = t :: rest ∧ ∀ c ∈ [':', '<', '(', '!', '+', '='], t.isPunctuation c = false

theorem TypeEnds.of_beginsWith {ts : List Token}
    (h : BeginsWith [.mark ',', .mark '>', .mark '}', .mark ')', .mark '{', .word "for"] ts) : TypeEnds ts :=
  h.isPunctuation_eq_false _ (Text.forall_of_all (by decide))

theorem Ty.exists_lexemes_eq (t : Ty) : ∃ (n : Name) (more : List Lexeme), t.lexemes = n.lexeme :: more := by
  obtain ⟨name, arguments⟩ := t
  rw [Ty.lexemes]
  split <;> exact ⟨name, _, rfl⟩

/-- The type begins with a name. -/
theorem Ty.begins {t : Ty} {ts : List Token} (hts : Spells t.lexemes ts) :
    ∃ (n : Name) (gap : List Char) (more : List Token), ts = n.lexeme.token gap :: more := by
  obtain ⟨n, more, hlexemes⟩ := t.exists_lexemes_eq
  rw [hlexemes] at hts
  obtain ⟨gap, ts, rfl, _⟩ := spells_cons_iff.mp hts
  exact ⟨n, gap, ts, rfl⟩

/-- What the rule for types gives for a name with or without arguments. -/
def IsNamed (form : TypeForm) : Prop :=
  form = .name ∨ form = .genericName

section

variable {depth : Nat}

theorem reads_typeArgument {t : Ty} (ht : Reads source ((upTo depth).type false) t.lexemes TypeEnds IsNamed) :
    Reads source (typeArgument (upTo depth)) t.lexemes (BeginsWith [.mark ',', .mark '>']) fun _ => True := by
  refine ⟨fun {ts rest} hts hsource hrest => ⟨(), ?_, trivial⟩⟩
  obtain ⟨form, hrun, hform⟩ := ht.run hts hsource (.of_beginsWith (hrest.of_subset (by simp)))
  obtain ⟨n, gap, ts, rfl⟩ := Ty.begins hts
  obtain ⟨t, rest, rfl, hmarks⟩ := hrest.isPunctuation_eq_false [':', '='] (Text.forall_of_all (by decide))
  simp only [List.forall_mem_cons] at hmarks
  rw [List.cons_append] at hrun ⊢
  have hblock := run_block_of_ne (t := n.lexeme.token gap) (by simp) depth
  rcases hform with rfl | rfl <;>
    simp [typeArgument, literal, isLiteral, label, lifetime, traitBounds, colon, equals, startsWith, n.text_ne, hblock,
      hrun, hmarks]

/-- A mark that closes a list of types begins no type. This is what ends the list. -/
theorem run_type_close {l : Lexeme} (hl : l ∈ [.mark '>', .mark ')']) (gap : List Char) (ts : List Token) :
    ((upTo depth).type false).run (l.token gap :: ts) = none := by
  simp only [List.mem_cons, List.not_mem_nil, or_false] at hl
  cases depth with
  | zero => rfl
  | succ depth =>
    have hsimple : (simpleType (upTo depth) false).run (l.token gap :: ts) = none := by
      rcases hl with rfl | rfl <;>
        simp [simpleType, functionWords, run_functionHead_of_ne, namedType, typePath, pathStart, bracketedType,
          startsWith]
    rcases hl with rfl | rfl <;> simp [upTo_succ, expand, type, run_leadingBound_of_ne, hsimple]

theorem reads_typeArguments {arguments : List Ty} (hne : arguments ≠ [])
    (hreads : ∀ t ∈ arguments, Reads source ((upTo depth).type false) t.lexemes TypeEnds IsNamed) :
    Reads source (typeArguments (upTo depth))
      (enclosed (.mark '<') (.mark '>') (commaLexemes (arguments.map fun t => t.lexemes) false)) (fun _ => True)
      fun _ => True := by
  have hstop (gap : List Char) (ts : List Token) :
      (typeArgument (upTo depth)).run ((Lexeme.mark '>').token gap :: ts) = none := by
    have hblock := run_block_of_ne (t := (Lexeme.mark '>').token gap) (by simp) depth
    simp [typeArgument, literal, isLiteral, label, lifetime, hblock, run_type_close]
  have hlist : Reads source (commaList1 (typeArgument (upTo depth)))
      (commaLexemes (arguments.map fun t => t.lexemes) false) (BeginsWith [.mark '>'])
      fun read => read.map (fun _ => ()) = arguments.map fun _ => () :=
    .commaList1 (by decide) (fun t ht => (reads_typeArgument (hreads t ht)).imp (fun _ => id) fun _ _ => rfl)
      hstop hne false
  refine ⟨fun {ts rest} hts hsource _ => ⟨(), ?_, trivial⟩⟩
  obtain ⟨gap, inside, rfl, hinside⟩ := spells_cons_iff.mp hts
  obtain ⟨_, gap', nothing, hrun, -, hnothing, -⟩ :=
    hlist.before (.singleton (.mark '>')) hinside ((List.suffix_cons ..).trans hsource)
  obtain rfl := spells_nil_iff.mp hnothing
  simp [typeArguments, hrun]

theorem reads_typePath {name : Name} {arguments : List Ty}
    (hreads : ∀ t ∈ arguments, Reads source ((upTo depth).type false) t.lexemes TypeEnds IsNamed) :
    Reads source (typePath (upTo depth) false) (Ty.mk name arguments).lexemes TypeEnds
      fun form => form = .word .name ∨ form = .generic true := by
  refine ⟨fun {ts rest} hts hsource hrest => ?_⟩
  obtain ⟨t, rest, rfl, hmarks⟩ := hrest
  simp only [List.forall_mem_cons] at hmarks
  have hstart (gap : List Char) (ts : List Token) :
      (pathStart (upTo depth)).run (name.lexeme.token gap :: ts) = some (.name, ts) := by
    simp [pathStart, bracketedType, startsWith]
  rw [Ty.lexemes] at hts
  split at hts
  · obtain ⟨gap, nothing, rfl, hnothing⟩ := spells_cons_iff.mp hts
    obtain rfl := spells_nil_iff.mp hnothing
    have hstop : (typePathStep (upTo depth) false (.word .name)).run (t :: rest) = none := by
      simp [typePathStep, atTypeArguments, startsWith, hmarks]
    exact ⟨.word .name, by simp [typePath, hstart, run_iterate_of_none hstop], .inl rfl⟩
  · next hne =>
    obtain ⟨gap, more, rfl, hmore⟩ := spells_cons_iff.mp hts
    obtain ⟨_, harguments, -⟩ := (reads_typeArguments (by simpa using hne) hreads).run hmore
      ((List.suffix_cons ..).trans hsource) trivial
    obtain ⟨gap', more, rfl, _⟩ := spells_cons_iff.mp hmore
    rw [List.cons_append] at harguments
    have hstep : (typePathStep (upTo depth) false (.word .name)).run
        ((Lexeme.mark '<').token gap' :: (more ++ t :: rest)) = some (.generic true, t :: rest) := by
      simp [typePathStep, atTypeArguments, startsWith, harguments]
    have hstop : (typePathStep (upTo depth) false (.generic true)).run (t :: rest) = none := by
      simp [typePathStep, startsWith, hmarks]
    exact ⟨.generic true, by simp [typePath, hstart, run_iterate_once hstep hstop], .inr rfl⟩

/-- A type is read by the rules for types at any depth that it fits in. By induction on the depth, as the rules
of one depth read arguments by those of the depth below, and each argument has fewer lexemes than the type. -/
theorem reads_type_of_length_le (t : Ty) (hdepth : t.lexemes.length ≤ depth) :
    Reads source ((upTo depth).type false) t.lexemes TypeEnds IsNamed := by
  induction depth generalizing t with
  | zero =>
    obtain ⟨n, more, hlexemes⟩ := t.exists_lexemes_eq
    simp [hlexemes] at hdepth
  | succ depth ih =>
    obtain ⟨name, arguments⟩ := t
    have hreads : ∀ t ∈ arguments, Reads source ((upTo depth).type false) t.lexemes TypeEnds IsNamed := by
      intro t ht
      refine ih t ?_
      have hlength := length_le_commaLexemes false (List.mem_map_of_mem (f := fun t => t.lexemes) ht)
      have hne : arguments ≠ [] := List.ne_nil_of_mem ht
      simp only [Ty.lexemes, List.isEmpty_iff, if_neg hne, enclosed, List.length_cons, List.length_append] at hdepth
      omega
    refine ⟨fun {ts rest} hts hsource hrest => ?_⟩
    obtain ⟨form, hpath, hform⟩ := (reads_typePath hreads).run hts hsource hrest
    obtain ⟨t, rest, rfl, hmarks⟩ := hrest
    simp only [List.forall_mem_cons] at hmarks
    obtain ⟨n, gap, ts, rfl⟩ := Ty.begins hts
    rw [List.cons_append] at hpath ⊢
    have hnamed : ∃ form', (namedType (upTo depth) false).run (n.lexeme.token gap :: (ts ++ t :: rest)) =
        some (form', t :: rest) ∧ IsNamed form' := by
      rcases hform with rfl | rfl
      · exact ⟨.name, by simp [namedType, hpath, atBang, hmarks], .inl rfl⟩
      · exact ⟨.genericName, by simp [namedType, hpath, atBang], .inr rfl⟩
    obtain ⟨form', hnamed, hform'⟩ := hnamed
    have hsimple : (simpleType (upTo depth) false).run (n.lexeme.token gap :: (ts ++ t :: rest)) =
        some (form', t :: rest) := by
      simp [simpleType, functionWords, run_functionHead_of_ne, n.text_ne, hnamed]
    refine ⟨form', ?_, hform'⟩
    simp [upTo_succ, expand, type, run_leadingBound_of_ne, n.text_ne, hsimple, run_many_of_none, hmarks]

/-- No type in a source is deeper than the source is long, so the depth of a whole source is enough. -/
theorem reads_type (hdepth : source.length ≤ depth) (t : Ty) :
    Reads source ((upTo depth).type false) t.lexemes TypeEnds IsNamed := by
  refine ⟨fun hts hsource hrest => ?_⟩
  have hlength := hsource.length_le
  rw [List.length_append, (Token.reduce_sameWord source).length_eq, ← List.Forall₂.length_eq hts] at hlength
  exact (reads_type_of_length_le t (by omega)).run hts hsource hrest

theorem reads_name (hdepth : source.length ≤ depth) (n : Name) :
    Reads source ((upTo depth).type false) [n.lexeme] TypeEnds IsNamed := by
  have htype := reads_type hdepth (.mk n [])
  rwa [Ty.lexemes] at htype

end

end ClassDiagram.Rust.Core
