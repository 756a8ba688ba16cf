import ClassDiagram.Proofs.Rust.Core.Types

namespace ClassDiagram.Rust.Core

open Parse Grammar

variable {source : List Token} {depth : Nat}

theorem canonical_written (ls : List Lexeme) : Signature.canonical (written ls) = written ls := by
  refine Signature.canonical_eq_self fun c hc => ?_
  obtain ⟨l, _, hc⟩ := List.mem_flatMap.mp (by simpa [written] using hc)
  exact isBlank_of_mem_lexeme hc

/-- The text of a place that holds a type is the type as it is written, but for blanks. -/
theorem canonical_type {t : Ty} {place : Span} (hgaps : BlankGaps source) (h : place.Covers source t.lexemes) :
    Signature.canonical (place.text source) = Signature.canonical t.text := by
  rw [h.canonical_text hgaps, Ty.text, canonical_written]

/-- The place of a type in a source, wherever it stands and whatever blanks are in it. -/
theorem reads_typePlace (hdepth : source.length ≤ depth) (t : Ty) :
    Reads source (span (do let _ ← (upTo depth).type false)) t.lexemes TypeEnds
      fun place => place.Covers source t.lexemes :=
  (reads_type hdepth t).ignored.span

theorem run_attributes {t : Token} (ht : t.isPunctuation '#' = false) (r : Rules) (ts : List Token) :
    (attributes r).run (t :: ts) = some (false, t :: ts) := by
  have hnone : (outerAttribute r).run (t :: ts) = none := by simp [outerAttribute, ht]
  simp [attributes, run_many_of_none hnone]

section

variable {v : Visibility} {ts : List Token} (hts : Spells (visibilityLexemes v) ts)

include hts

/-- A visibility of the core is the word `pub` or nothing at all; forms with a path in parentheses are not
printed. -/
theorem visibility_cases : v = .exposed ∧ (∃ gap, ts = [(Lexeme.word "pub").token gap]) ∨ v = .hidden ∧ ts = [] := by
  cases v with
  | exposed =>
    simp only [visibilityLexemes, spells_cons_iff, spells_nil_iff] at hts
    obtain ⟨gap, _, rfl, rfl⟩ := hts
    exact .inl ⟨rfl, gap, rfl⟩
  | hidden => exact .inr ⟨rfl, spells_nil_iff.mp hts⟩

theorem run_attributes_visibility (r : Rules) {w : String} {h : Build.isWord w.toList = true} (gap : List Char)
    (rest : List Token) :
    (attributes r).run (ts ++ (Lexeme.word w h).token gap :: rest) =
      some (false, ts ++ (Lexeme.word w h).token gap :: rest) := by
  obtain ⟨_, gap', rfl⟩ | ⟨_, rfl⟩ := visibility_cases hts <;> exact run_attributes (by simp) r _

/-- The visibility of an item is read up to its first word, which is none of the words that a visibility begins
with. -/
theorem run_visibility (r : Rules) {w : String} {h : Build.isWord w.toList = true} (hne : w ≠ "pub" ∧ w ≠ "crate")
    (gap : List Char) (rest : List Token) :
    (visibility r).run (ts ++ (Lexeme.word w h).token gap :: rest) = some (v, (Lexeme.word w h).token gap :: rest) := by
  obtain ⟨rfl, gap', rfl⟩ | ⟨rfl, rfl⟩ := visibility_cases hts <;> simp [visibility, visibilityScope, hne]

end

/-- A field is read with its visibility, its name and its type. The declaration keeps the text of the type,
which holds the blanks of the layout. -/
theorem reads_field (hdepth : source.length ≤ depth) (hgaps : BlankGaps source) (f : Field) :
    Reads source (field (upTo depth)) f.lexemes (BeginsWith [.mark ',', .mark '}'])
      fun read => (read.read (Span.text source)).canonical = f.declaration.canonical := by
  refine ⟨fun {ts rest} hts hsource hrest => ?_⟩
  simp only [Field.lexemes, spells_append_iff, spells_cons_iff] at hts
  obtain ⟨first, _, rfl, hfirst, gap, _, rfl, gap', type, rfl, htype⟩ := hts
  simp only [List.append_assoc, List.cons_append] at hsource ⊢
  have htypeSource : type ++ rest <:+ Token.reduce source :=
    ((List.suffix_cons ..).trans ((List.suffix_cons ..).trans (List.suffix_append first _))).trans hsource
  obtain ⟨place, hplace, hcovers⟩ :=
    (reads_typePlace hdepth f.type).run htype htypeSource (.of_beginsWith (hrest.of_subset (by simp)))
  have hattributes := run_attributes_visibility hfirst (upTo depth) (w := f.name.text) (h := f.name.isWord) gap
  have hvisibility := run_visibility hfirst (upTo depth) (h := f.name.isWord) (by simp [f.name.text_ne]) gap
  refine ⟨{ name := f.name.text, type := place, visibility := f.visibility }, ?_, ?_⟩
  · simp [field, hattributes, hvisibility, hplace]
  · simp [Syntax.Field.read, FieldDeclaration.canonical, Field.declaration, canonical_type hgaps hcovers]

theorem run_field_close (r : Rules) (gap : List Char) (ts : List Token) :
    (field r).run ((Lexeme.mark '}').token gap :: ts) = none := by
  simp [field, run_attributes, visibility]

/-- The fields of a struct are read as a list in braces, with or without a comma at its end. -/
theorem reads_fields (hdepth : source.length ≤ depth) (hgaps : BlankGaps source) (fields : List Field)
    (comma : Bool) :
    Reads source (Grammar.fields (upTo depth))
      (enclosed (.mark '{') (.mark '}') (commaLexemes (fields.map Field.lexemes) comma)) (fun _ => True)
      fun read => (read.map fun f => (f.read (Span.text source)).canonical) =
        fields.map fun f => f.declaration.canonical :=
  .bracketed (.commaList (by decide) (fun f _ => reads_field hdepth hgaps f) (run_field_close _) comma)

/-- The declaration of an item, up to blanks. -/
def shownItem (source : List Token) (i : Rust.Item) : Option Declaration :=
  (i.read? (Span.text source)).map Declaration.canonical

/-- A struct with named fields gives its declaration, up to the blanks in the types of the fields. -/
theorem reads_structItem (hdepth : source.length ≤ depth) (hgaps : BlankGaps source) (v : Visibility) (name : Name)
    (fields : List Field) (comma : Bool) :
    Reads source (structItem (upTo depth) v)
      (.word "struct" :: name.lexeme ::
        enclosed (.mark '{') (.mark '}') (commaLexemes (fields.map Field.lexemes) comma))
      (fun _ => True) fun i => shownItem source i = some (Item.struct v name fields comma).declaration.canonical := by
  refine ⟨fun {ts rest} hts hsource _ => ?_⟩
  obtain ⟨gap, _, rfl, hname⟩ := spells_cons_iff.mp hts
  obtain ⟨gap', braces, rfl, hbraces⟩ := spells_cons_iff.mp hname
  have hbracesSource : braces ++ rest <:+ Token.reduce source :=
    ((List.suffix_cons ..).trans (List.suffix_cons ..)).trans hsource
  obtain ⟨read, hfields, hread⟩ := (reads_fields hdepth hgaps fields comma).run hbraces hbracesSource trivial
  obtain ⟨gap'', inside, rfl, _⟩ := spells_cons_iff.mp hbraces
  have hparameters := run_typeParameters_of_ne (t := (Lexeme.mark '{').token gap'') (by simp) depth
  rw [List.cons_append] at hfields
  refine ⟨.struct { name := name.text, visibility := v, shape := .named, fields := read }, ?_, ?_⟩
  · simp [structItem, whereClause, hparameters, hfields]
  · have hsame : (read.map (Syntax.Field.read (Span.text source))).map FieldDeclaration.canonical =
        (fields.map Field.declaration).map FieldDeclaration.canonical := by
      simpa only [List.map_map, Function.comp_def] using hread
    simp [shownItem, Item.read?, Syntax.Struct.read, Item.declaration, Declaration.canonical, hsame]

theorem reads_unitStructItem (v : Visibility) (name : Name) :
    Reads source (structItem (upTo depth) v) [.word "struct", name.lexeme, .mark ';'] (fun _ => True)
      fun i => shownItem source i = some (Item.unitStruct v name).declaration.canonical := by
  refine ⟨fun {ts rest} hts _ _ => ?_⟩
  simp only [spells_cons_iff, spells_nil_iff] at hts
  obtain ⟨gap, _, rfl, gap', _, rfl, gap'', _, rfl, rfl⟩ := hts
  have hparameters := run_typeParameters_of_ne (t := (Lexeme.mark ';').token gap'') (by simp) depth
  refine ⟨.struct { name := name.text, visibility := v, shape := .unit }, ?_, ?_⟩
  · simp [structItem, hparameters]
  · simp [shownItem, Item.read?, Syntax.Struct.read, Item.declaration, Declaration.canonical]

theorem reads_variant (r : Rules) (name : Name) :
    Reads source (variant r) [name.lexeme] (BeginsWith [.mark ',', .mark '}']) fun _ => True := by
  refine ⟨fun {ts rest} hts _ hrest => ⟨(), ?_, trivial⟩⟩
  simp only [spells_cons_iff, spells_nil_iff] at hts
  obtain ⟨gap, _, rfl, rfl⟩ := hts
  obtain ⟨t, rest, rfl, hmarks⟩ := hrest.isPunctuation_eq_false ['{', '(', '='] (Text.forall_of_all (by decide))
  simp only [List.forall_mem_cons] at hmarks
  simp [variant, run_attributes, visibility, fields, tupleFields, name.text_ne, hmarks]

/-- An enum is read with its variants, of which the declaration keeps none. The list may end in a comma or be
empty. -/
theorem reads_enumItem (v : Visibility) (name : Name) (variants : List Name) (comma : Bool) :
    Reads source (enumItem (upTo depth) v)
      (.word "enum" :: name.lexeme ::
        enclosed (.mark '{') (.mark '}') (commaLexemes (variants.map fun v => [v.lexeme]) comma))
      (fun _ => True) fun i => shownItem source i = some (Item.enum v name variants comma).declaration.canonical := by
  have hstop (gap : List Char) (ts : List Token) :
      (variant (upTo depth)).run ((Lexeme.mark '}').token gap :: ts) = none := by
    simp [variant, run_attributes, visibility]
  have hvariants : Reads source (commaList (variant (upTo depth)))
      (commaLexemes (variants.map fun v => [v.lexeme]) comma) (BeginsWith [.mark '}'])
      fun read => read.map (fun _ => ()) = variants.map fun _ => () :=
    .commaList (by decide) (fun v _ => (reads_variant _ v).imp (fun _ => id) fun _ _ => rfl) hstop comma
  refine ⟨fun {ts rest} hts hsource _ => ?_⟩
  obtain ⟨gap, _, rfl, hname⟩ := spells_cons_iff.mp hts
  obtain ⟨gap', _, rfl, hbraces⟩ := spells_cons_iff.mp hname
  obtain ⟨gap'', inside, rfl, hinside⟩ := spells_cons_iff.mp hbraces
  have hinsideSource : inside ++ rest <:+ Token.reduce source :=
    ((List.suffix_cons ..).trans ((List.suffix_cons ..).trans (List.suffix_cons ..))).trans hsource
  obtain ⟨read, _, nothing, hrun, -, hnothing, -⟩ := hvariants.before (.singleton (.mark '}')) hinside hinsideSource
  obtain rfl := spells_nil_iff.mp hnothing
  have hparameters := run_typeParameters_of_ne (t := (Lexeme.mark '{').token gap'') (by simp) depth
  refine ⟨.enum { name := name.text, visibility := v }, ?_, rfl⟩
  simp [enumItem, whereClause, hparameters, hrun]

end ClassDiagram.Rust.Core
