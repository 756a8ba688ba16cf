import ClassDiagram.Proofs.Rust.Core.Methods
import ClassDiagram.Source.Parse

namespace ClassDiagram.Rust.Core

open Parse Grammar

variable {source : List Token} {depth : Nat}

theorem run_atItem {w : String} {h : Build.isWord w.toList = true} (hmem : w ∈ ["pub", "struct", "enum", "impl", "fn"])
    (gap : List Char) (ts : List Token) :
    atItem.run ((Lexeme.word w h).token gap :: ts) = some (true, (Lexeme.word w h).token gap :: ts) := by
  simp only [List.mem_cons, List.not_mem_nil, or_false] at hmem
  rcases hmem with rfl | rfl | rfl | rfl | rfl <;> simp [atItem]

theorem run_atMacroDefinition {w : String} {h : Build.isWord w.toList = true} (hne : w ≠ "macro_rules")
    (gap : List Char) (ts : List Token) :
    atMacroDefinition.run ((Lexeme.word w h).token gap :: ts) = some (false, (Lexeme.word w h).token gap :: ts) := by
  cases ts <;> simp [atMacroDefinition, hne]

/-- Items that may have a visibility are read behind it. Without one the rule first looks for items that never
have any, and none of these begins with such a word. -/
theorem run_plainItem {v : Visibility} {ts : List Token} (hts : Spells (visibilityLexemes v) ts) (r : Rules)
    {w : String} {h : Build.isWord w.toList = true} (hmem : w ∈ ["struct", "enum", "fn"]) (gap : List Char)
    (rest : List Token) :
    (plainItem r).run (ts ++ (Lexeme.word w h).token gap :: rest) =
      (visibleItem r v).run ((Lexeme.word w h).token gap :: rest) := by
  have hne : w ≠ "pub" ∧ w ≠ "crate" ∧ w ≠ "macro_rules" ∧ w ≠ "let" ∧ w ≠ "impl" ∧ w ≠ "unsafe" := by
    simp only [List.mem_cons, List.not_mem_nil, or_false] at hmem
    rcases hmem with rfl | rfl | rfl <;> decide
  have hvisibility := run_visibility hts r (h := h) ⟨hne.1, hne.2.1⟩ gap rest
  cases v with
  | exposed => simp [plainItem, hvisibility]
  | hidden => simp [plainItem, hvisibility, bareItem, run_atMacroDefinition, atWords, hne]

theorem run_atFunction {w : String} {h : Build.isWord w.toList = true}
    (hne : w ∉ ["async", "default", "const", "unsafe", "gen", "extern"]) (gap : List Char) (ts : List Token) :
    atFunction.run ((Lexeme.word w h).token gap :: ts) =
      some (decide (w = "fn"), (Lexeme.word w h).token gap :: ts) := by
  have hmodifiers := run_functionModifiers_of_ne (t := (Lexeme.word w h).token gap)
    (fun v hv => by simpa using fun h : w = v => hne (h ▸ hv)) ts
  by_cases hfn : w = "fn"
  · subst hfn
    simp [atFunction, functionHead, hmodifiers]
  · simp [atFunction, functionHead, hmodifiers, hfn]

/-- Inside an impl block a method is an item of its own, with its visibility in front. -/
theorem reads_method (hdepth : source.length ≤ depth + 1) (hgaps : BlankGaps source) (v : Visibility) (m : Method) :
    Reads source (upTo (depth + 2)).item (m.lexemes v) (fun _ => True)
      fun i => shownMethod source i = some (m.declaration v).canonical := by
  refine ⟨fun {ts rest} hts hsource _ => ?_⟩
  obtain ⟨first, body, rfl, hfirst, hbody⟩ := spells_append_iff.mp hts
  rw [List.append_assoc] at hsource ⊢
  obtain ⟨i, hrun, hi⟩ := (reads_function hdepth hgaps v m).run hbody ((List.suffix_append ..).trans hsource) trivial
  obtain ⟨gap, more, rfl, _⟩ := spells_cons_iff.mp hbody
  refine ⟨i, ?_, hi⟩
  have hitem : atItem.run (first ++ ((Lexeme.word "fn").token gap :: more ++ rest)) =
      some (true, first ++ ((Lexeme.word "fn").token gap :: more ++ rest)) := by
    obtain ⟨_, gap', rfl⟩ | ⟨_, rfl⟩ := visibility_cases hfirst <;> exact run_atItem (by simp) _ _
  rw [List.cons_append] at hitem hrun ⊢
  have hplain := run_plainItem hfirst (upTo (depth + 1)) (w := "fn") (h := by decide) (by simp) gap (more ++ rest)
  simp [upTo_succ depth.succ, expand, item, hitem, hplain, visibleItem, run_atFunction, hrun]

/-- No item begins with the closing brace, so the list of methods in an impl block ends there. -/
theorem run_item_close (depth : Nat) (gap : List Char) (ts : List Token) :
    (upTo (depth + 2)).item.run ((Lexeme.mark '}').token gap :: ts) = none := by
  have hmacro : atMacroDefinition.run ((Lexeme.mark '}').token gap :: ts) =
      some (false, (Lexeme.mark '}').token gap :: ts) := by
    cases ts <;> simp [atMacroDefinition]
  simp [upTo_succ, expand, item, atItem, hmacro, atFunction, run_functionHead_of_ne, macroItem, path, pathStart,
    bracketedType, startsWith]

/-- The methods in the braces of an impl block are read one after the other. -/
theorem reads_itemList (hdepth : source.length ≤ depth + 1) (hgaps : BlankGaps source)
    (methods : List (Visibility × Method)) :
    Reads source (itemList (upTo (depth + 2)))
      (enclosed (.mark '{') (.mark '}') (methods.flatMap fun (v, m) => m.lexemes v)) (fun _ => True)
      fun read => (read.filterMap Item.method?).map (fun m => (m.read (Span.text source)).canonical) =
        methods.map fun (v, m) => (m.declaration v).canonical := by
  have hmany : Reads source (many (upTo (depth + 2)).item) (methods.flatMap fun (v, m) => m.lexemes v)
      (fun rest => True ∧ (upTo (depth + 2)).item.run rest = none)
      fun read => read.map (shownMethod source) = methods.map fun (v, m) => some (m.declaration v).canonical :=
    .many (fun (v, m) _ => reads_method hdepth hgaps v m) fun (v, m) _ ts hts =>
      ⟨fun hnone => by simp [hnone, Method.lexemes, Spells] at hts, fun _ => trivial⟩
  refine .bracketed (hmany.imp ?_ fun read hread => map_filterMap_eq ?_)
  · intro ts hts
    obtain ⟨gap, rest, rfl⟩ := hts.of_singleton
    exact ⟨trivial, run_item_close depth gap rest⟩
  · rw [List.map_map]
    exact hread

/-- The type that an impl block is for is a lone name, which the rule for types reads at any depth. -/
theorem reads_target (hdepth : source.length ≤ depth) (target : Name) :
    Reads source (span (do let _ ← (upTo depth).type false)) [target.lexeme] TypeEnds
      fun place => place.Covers source [target.lexeme] :=
  (reads_name hdepth target).ignored.span

/-- A type of the core is a path, which is what the rule demands of a trait. -/
theorem isPath_of_isNamed {form : TypeForm} (hform : IsNamed form) : form.isPath = true := by
  rcases hform with rfl | rfl <;> rfl

/-- What an impl block begins with in front of its target: a trait and the word `for`, if it implements one. -/
def traitHead (r : Rules) : Parse Bool :=
  option do
    maybe (punct '!')
    require (← r.type false).isPath
    word "for"

/-- An impl block, with whatever stands in front of its target. Whether there is a trait is all that differs
between the two kinds of blocks, so both are read by this one. -/
theorem reads_implItem (hdepth : source.length ≤ depth + 1) (hgaps : BlankGaps source)
    (head : List Lexeme) {target : Name} {methods : List (Visibility × Method)} {isTraitImpl : Bool}
    (hhead : ∀ {ts rest : List Token}, Spells head ts → ts ++ rest <:+ Token.reduce source →
      (∃ gap gap' more, rest = target.lexeme.token gap :: (Lexeme.mark '{').token gap' :: more) →
      (upTo (depth + 2)).typeParameters.run (ts ++ rest) = none ∧
        (traitHead (upTo (depth + 2))).run (ts ++ rest) = some (isTraitImpl, rest)) :
    Reads source (implItem (upTo (depth + 2))) (.word "impl" :: (head ++ implLexemes target methods)) (fun _ => True)
      fun i => shownItem source i = some (.impl
        { target := target.text, isTraitImpl, methods := methods.map fun (v, m) => (m.declaration v).canonical }) := by
  refine ⟨fun {ts rest} hts hsource _ => ?_⟩
  obtain ⟨gap, _, rfl, hmore⟩ := spells_cons_iff.mp hts
  obtain ⟨first, _, rfl, hfirst, hlast⟩ := spells_append_iff.mp hmore
  obtain ⟨gapTarget, braces, rfl, hbraces⟩ := spells_cons_iff.mp hlast
  rw [List.cons_append, List.append_assoc, List.cons_append] at hsource ⊢
  have hheadSource := (List.suffix_cons ..).trans hsource
  have htargetSource := (List.suffix_append ..).trans hheadSource
  obtain ⟨read, hitems, hread⟩ :=
    (reads_itemList hdepth hgaps methods).run hbraces ((List.suffix_cons ..).trans htargetSource) trivial
  obtain ⟨gapOpen, inside, rfl, _⟩ := spells_cons_iff.mp hbraces
  obtain ⟨place, hplace, hcovers⟩ := (reads_target (by omega : source.length ≤ depth + 2) target).one htargetSource
    (.of_beginsWith ⟨.mark '{', by simp, gapOpen, inside ++ rest, rfl⟩)
  obtain ⟨hparameters, htrait⟩ := hhead hfirst hheadSource ⟨gapTarget, gapOpen, inside ++ rest, rfl⟩
  refine ⟨.impl { target := place, isTraitImpl, methods := read.filterMap Item.method? }, ?_, ?_⟩
  · rw [traitHead] at htrait
    rw [List.cons_append] at hitems hplace hparameters htrait ⊢
    simp [implItem, hparameters, htrait, hplace, whereClause, hitems, -run_option]
  · simp [shownItem, Item.read?, Syntax.Impl.read, Declaration.canonical, hcovers.text_eq, ← hread]

/-- Without a trait the rule tries to read one first, which fails as no `for` follows the target. -/
theorem reads_inherentImpl (hdepth : source.length ≤ depth + 1) (hgaps : BlankGaps source)
    (target : Name) (methods : List (Visibility × Method)) :
    Reads source (implItem (upTo (depth + 2))) (Item.inherentImpl target methods).lexemes (fun _ => True)
      fun i => shownItem source i = some (Item.inherentImpl target methods).declaration.canonical := by
  have hshown : (Item.inherentImpl target methods).declaration.canonical = .impl
      { target := target.text, methods := methods.map fun (v, m) => (m.declaration v).canonical } := by
    simp [Item.declaration, Declaration.canonical]
  rw [hshown]
  refine reads_implItem hdepth hgaps [] fun {ts rest} hts hsource hrest => ?_
  obtain rfl := spells_nil_iff.mp hts
  obtain ⟨gap, gap', more, rfl⟩ := hrest
  rw [List.nil_append] at hsource ⊢
  obtain ⟨form, htype, hform⟩ := (reads_name (by omega : source.length ≤ depth + 2) target).one hsource
    (.of_beginsWith ⟨.mark '{', by simp, gap', more, rfl⟩)
  exact ⟨run_typeParameters_of_ne (by simp) _ _, by simp [traitHead, htype, isPath_of_isNamed hform]⟩

/-- The trait and the word `for` are read and passed over; that there was a trait is noted. -/
theorem reads_traitImpl (hdepth : source.length ≤ depth + 1) (hgaps : BlankGaps source)
    (trait : Ty) (target : Name) (methods : List Method) :
    Reads source (implItem (upTo (depth + 2))) (Item.traitImpl trait target methods).lexemes (fun _ => True)
      fun i => shownItem source i = some (Item.traitImpl trait target methods).declaration.canonical := by
  have hshown : (Item.traitImpl trait target methods).declaration.canonical = .impl
      { target := target.text, isTraitImpl := true
        methods := (methods.map (Visibility.hidden, ·)).map fun (v, m) => (m.declaration v).canonical } := by
    simp [Item.declaration, Declaration.canonical]
  have hlexemes : (Item.traitImpl trait target methods).lexemes =
      .word "impl" :: ((trait.lexemes ++ [.word "for"]) ++
        implLexemes target (methods.map (Visibility.hidden, ·))) := by
    simp [Item.lexemes]
  rw [hshown, hlexemes]
  refine reads_implItem hdepth hgaps _ fun {ts rest} hts hsource hrest => ?_
  obtain ⟨form, gap, nothing, htype, hform, hnothing, -⟩ :=
    (reads_type (by omega : source.length ≤ depth + 2) trait).before
      (fun gap ts => .of_beginsWith ⟨.word "for", by simp, gap, ts, rfl⟩) hts hsource
  obtain rfl := spells_nil_iff.mp hnothing
  obtain ⟨type, _, rfl, hspells, _⟩ := spells_append_iff.mp hts
  obtain ⟨n, gap', more, rfl⟩ := Ty.begins hspells
  rw [List.cons_append, List.cons_append, List.append_assoc] at htype ⊢
  exact ⟨run_typeParameters_of_ne (by simp) _ _, by simp [traitHead, htype, isPath_of_isNamed hform]⟩

/-- An item that follows its visibility is read by the rule for such items. -/
theorem reads_visible {v : Visibility} {r : Rules} {w : String} {h : Build.isWord w.toList = true} {ls : List Lexeme}
    {Q : Rust.Item → Prop} (hmem : w ∈ ["struct", "enum", "fn"])
    (hreads : Reads source (visibleItem r v) (.word w h :: ls) (fun _ => True) Q) :
    Reads source (plainItem r) (visibilityLexemes v ++ .word w h :: ls) (fun _ => True) Q := by
  refine ⟨fun {ts rest} hts hsource hrest => ?_⟩
  obtain ⟨first, body, rfl, hfirst, hbody⟩ := spells_append_iff.mp hts
  rw [List.append_assoc] at hsource ⊢
  obtain ⟨i, hrun, hi⟩ := hreads.run hbody ((List.suffix_append ..).trans hsource) hrest
  obtain ⟨gap, more, rfl, _⟩ := spells_cons_iff.mp hbody
  exact ⟨i, (run_plainItem hfirst r hmem gap (more ++ rest)).trans hrun, hi⟩

theorem reads_visibleItem {v : Visibility} {r : Rules} {w : String} {h : Build.isWord w.toList = true}
    {ls : List Lexeme} {Q : Rust.Item → Prop} {p : Parse Rust.Item}
    (hp : w = "struct" ∧ p = structItem r v ∨ w = "enum" ∧ p = enumItem r v)
    (hreads : Reads source p (.word w h :: ls) (fun _ => True) Q) :
    Reads source (visibleItem r v) (.word w h :: ls) (fun _ => True) Q := by
  refine ⟨fun {ts rest} hts hsource hrest => ?_⟩
  obtain ⟨i, hrun, hi⟩ := hreads.run hts hsource hrest
  refine ⟨i, ?_, hi⟩
  obtain ⟨gap, more, rfl, _⟩ := spells_cons_iff.mp hts
  rw [List.cons_append] at hrun ⊢
  obtain ⟨rfl, rfl⟩ | ⟨rfl, rfl⟩ := hp <;> simp [visibleItem, run_atFunction, hrun]

/-- An impl block has no visibility, and the rule for items that may have one is not tried. -/
theorem reads_bareImpl {r : Rules} {ls : List Lexeme} {Q : Rust.Item → Prop}
    (hreads : Reads source (implItem r) (.word "impl" :: ls) (fun _ => True) Q) :
    Reads source (plainItem r) (.word "impl" :: ls) (fun _ => True) Q := by
  refine ⟨fun {ts rest} hts hsource hrest => ?_⟩
  obtain ⟨i, hrun, hi⟩ := hreads.run hts hsource hrest
  obtain ⟨gap, more, rfl, _⟩ := spells_cons_iff.mp hts
  rw [List.cons_append] at hrun ⊢
  exact ⟨i, by simp [plainItem, visibility, bareItem, run_atMacroDefinition, atWords, hrun], hi⟩

/-- Every item of the core is read and gives its declaration, up to blanks: one case for each kind of item. -/
theorem reads_plainItem (hdepth : source.length ≤ depth + 1) (hgaps : BlankGaps source) (i : Item) :
    Reads source (plainItem (upTo (depth + 2))) i.lexemes (fun _ => True)
      fun read => shownItem source read = some i.declaration.canonical := by
  have hdepth' : source.length ≤ depth + 2 := by omega
  cases i with
  | struct v name fields comma =>
    have hstruct := reads_structItem hdepth' hgaps v name fields comma
    exact reads_visible (by simp) (reads_visibleItem (.inl ⟨rfl, rfl⟩) hstruct)
  | unitStruct v name =>
    exact reads_visible (by simp) (reads_visibleItem (.inl ⟨rfl, rfl⟩) (reads_unitStructItem v name))
  | enum v name variants comma =>
    exact reads_visible (by simp) (reads_visibleItem (.inr ⟨rfl, rfl⟩) (reads_enumItem v name variants comma))
  | inherentImpl target methods => exact reads_bareImpl (reads_inherentImpl hdepth hgaps target methods)
  | traitImpl trait target methods => exact reads_bareImpl (reads_traitImpl hdepth hgaps trait target methods)

/-- Each item begins with a word that items begin with, so a list of items is told from its end. -/
theorem Item.exists_lexemes_eq (i : Item) : ∃ (w : String) (h : Build.isWord w.toList = true) (more : List Lexeme),
    i.lexemes = .word w h :: more ∧ w ∈ ["pub", "struct", "enum", "impl", "fn"] := by
  have hvisible (v : Visibility) {w : String} {h : Build.isWord w.toList = true} (ls : List Lexeme)
      (hmem : w ∈ ["struct", "enum"]) : ∃ (w' : String) (h' : Build.isWord w'.toList = true) (more : List Lexeme),
      visibilityLexemes v ++ .word w h :: ls = .word w' h' :: more ∧ w' ∈ ["pub", "struct", "enum", "impl", "fn"] := by
    cases v with
    | exposed => exact ⟨"pub", by decide, _, rfl, by simp⟩
    | hidden => exact ⟨w, h, ls, rfl, by simp at hmem ⊢; tauto⟩
  cases i with
  | struct v name fields comma => exact hvisible v _ (by simp)
  | unitStruct v name => exact hvisible v _ (by simp)
  | enum v name variants comma => exact hvisible v _ (by simp)
  | inherentImpl target methods => exact ⟨"impl", by decide, _, rfl, by simp⟩
  | traitImpl trait target methods => exact ⟨"impl", by decide, _, rfl, by simp⟩

/-- At the top of a file an item is read as a statement, and no other form of statement begins like one. -/
theorem reads_statement (hdepth : source.length ≤ depth + 1) (hgaps : BlankGaps source) (i : Item) :
    Reads source (statement (upTo (depth + 2))) i.lexemes (fun _ => True)
      fun s => ∃ read, s = .item read ∧ shownItem source read = some i.declaration.canonical := by
  refine ⟨fun {ts rest} hts hsource hrest => ?_⟩
  obtain ⟨read, hrun, hread⟩ := (reads_plainItem hdepth hgaps i).run hts hsource hrest
  obtain ⟨w, h, more, hlexemes, hmem⟩ := i.exists_lexemes_eq
  rw [hlexemes] at hts
  obtain ⟨gap, more, rfl, _⟩ := spells_cons_iff.mp hts
  rw [List.cons_append] at hrun ⊢
  exact ⟨.item read, by simp [statement, run_atItem hmem, hrun], read, rfl, hread⟩

/-- The items of a file are read one after the other, by induction on the items. The fuel is enough since every
item has at least one token. -/
theorem run_fileItems (hdepth : source.length ≤ depth + 1) (hgaps : BlankGaps source) {items : List Item}
    {ts : List Token} (hts : Spells (items.flatMap Item.lexemes) ts) (hsource : ts <:+ Token.reduce source)
    {fuel : Nat} (hfuel : ts.length < fuel) :
    ∃ read, (fileItems (upTo (depth + 2)) fuel).run ts = some (read, []) ∧
      read.map (shownItem source) = items.map fun i => some i.declaration.canonical := by
  induction items generalizing ts fuel with
  | nil =>
    obtain ⟨fuel, rfl⟩ := Nat.exists_eq_add_one_of_ne_zero (Nat.ne_zero_of_lt hfuel)
    obtain rfl := spells_nil_iff.mp hts
    exact ⟨[], rfl, rfl⟩
  | cons i items ih =>
    obtain ⟨fuel, rfl⟩ := Nat.exists_eq_add_one_of_ne_zero (Nat.ne_zero_of_lt hfuel)
    obtain ⟨first, rest, rfl, hfirst, hrest⟩ := spells_append_iff.mp hts
    obtain ⟨_, hrun, read, rfl, hread⟩ := (reads_statement hdepth hgaps i).run hfirst hsource trivial
    have hne : first ≠ [] := by
      obtain ⟨w, h, more, hlexemes, _⟩ := i.exists_lexemes_eq
      rintro rfl
      rw [hlexemes] at hfirst
      cases hfirst
    have hpos := List.length_pos_iff.mpr hne
    rw [List.length_append] at hfuel
    obtain ⟨others, hothers, hshown⟩ :=
      ih hrest ((List.suffix_append ..).trans hsource) (by omega : rest.length < fuel)
    have hnonempty : (first ++ rest).isEmpty = false := by simp [hne]
    exact ⟨read :: others, by simp [fileItems, hnonempty, hrun, hothers], by simp [hread, hshown]⟩

/-- A file of printed items is read to its end, with no interpreter line in front. -/
theorem run_file (hdepth : source.length ≤ depth + 1) (hgaps : BlankGaps source) {items : List Item}
    (hsource : Spells (items.flatMap Item.lexemes) (Token.reduce source)) :
    ∃ read, (file (upTo (depth + 2))).run (Token.reduce source) = some (read, []) ∧
      read.map (shownItem source) = items.map fun i => some i.declaration.canonical := by
  obtain ⟨read, hitems, hread⟩ :=
    run_fileItems hdepth hgaps hsource List.suffix_rfl (Nat.lt_succ_self (Token.reduce source).length)
  refine ⟨read, ?_, hread⟩
  have hshebang : (token (·.kind = .shebang)).run (Token.reduce source) = none := by
    generalize Token.reduce source = ts at hsource
    generalize items.flatMap Item.lexemes = ls at hsource
    cases hsource with
    | nil => rfl
    | @cons l _ _ _ hl _ =>
      obtain ⟨gap, rfl⟩ := hl
      cases l <;> simp
  simp [file, hshebang, hitems]

/-- Printing any list of items and parsing the text gives back the declarations of the items, in their order and
up to blanks in types and receivers. The layout may put any blanks between the lexemes, as long as two words
stay apart. -/
theorem parse_print (path : Option String) (layout : Layout) (items : List Item) :
    ∃ unit, SourceUnit.parse path (print layout items) = .ok unit ∧ unit.path = path ∧
      unit.declarations.map Declaration.canonical = items.map fun i => i.declaration.canonical := by
  have htokens : Lexer.tokens? (print layout items) = some (layout.tokens none (items.flatMap Item.lexemes)) :=
    layout.tokens?_chars _
  have hspells := layout.spells_tokens none (items.flatMap Item.lexemes)
  have hgaps := layout.isBlank_of_mem_tokens none (items.flatMap Item.lexemes)
  generalize layout.tokens none (items.flatMap Item.lexemes) = source at htokens hspells hgaps
  have hreduced : Spells (items.flatMap Item.lexemes) (Token.reduce source) :=
    hspells.of_sameWord ((Token.reduce_sameWord source).flip.imp fun _ _ h => ⟨h.1.symm, h.2.symm⟩)
  obtain ⟨read, hfile, hread⟩ := run_file (by omega : source.length ≤ (4 * source.length + 2) + 1) hgaps hreduced
  have hparse : parse? (print layout items) = some ⟨source, read⟩ := by
    rw [parse?, htokens]
    simp [depthFor, hfile]
  refine ⟨⟨path, Parsed.declarations ⟨source, read⟩⟩, ?_, rfl, ?_⟩
  · simp [SourceUnit.parse, declarations?, hparse]
  · refine map_filterMap_eq ?_
    rw [List.map_map]
    exact hread

/-- An impl block with a visibility is a syntax error, so the core has no such blocks. -/
theorem parse_exposedImpl :
    SourceUnit.parse none (String.ofList (Layout.chars (fun _ => ⟨[], by simp⟩) none
      (visibilityLexemes .exposed ++ (Item.inherentImpl { text := "A" } []).lexemes))) =
      .error { path := "<memory>", problem := "syntax error" } := by
  decide +kernel

end ClassDiagram.Rust.Core
