import ClassDiagram.Diagram.PlantUml
import ClassDiagram.Proofs.Build.Merge
import Mathlib.Data.List.DropRight

namespace ClassDiagram

namespace Text

/-- Blanks and nothing else, perhaps none at all. -/
def AreBlank (cs : List Char) : Prop :=
  ∀ c ∈ cs, isBlank c = true

instance (cs : List Char) : Decidable (AreBlank cs) :=
  List.decidableBAll (fun c => isBlank c = true) cs

/-- A text with nothing but blanks around it. -/
def Surrounds (text : String) (core : List Char) : Prop :=
  ∃ before after, AreBlank before ∧ AreBlank after ∧ text.toList = before ++ core ++ after

/-- The characters without the blanks at the end. -/
def dropTrailingBlanks (cs : List Char) : List Char :=
  cs.rdropWhile isBlank

/-- Stripping a text is dropping the blanks in front and then those at the end; the order of the two makes no
difference, but it is the one by which the lemmas below compute. -/
theorem stripChars_eq (cs : List Char) : stripChars cs = dropTrailingBlanks (dropLeadingBlanks cs) :=
  rfl

theorem dropLeadingBlanks_append {before : List Char} (hbefore : AreBlank before) (cs : List Char) :
    dropLeadingBlanks (before ++ cs) = dropLeadingBlanks cs :=
  List.dropWhile_append_of_pos hbefore

/-- Blanks that are put behind a text are dropped again, together with those that it ended in itself. -/
theorem dropTrailingBlanks_append {after : List Char} (hafter : AreBlank after) (cs : List Char) :
    dropTrailingBlanks (cs ++ after) = dropTrailingBlanks cs := by
  have hreverse : ∀ c ∈ after.reverse, isBlank c = true := fun c hc => hafter c (List.mem_reverse.mp hc)
  rw [dropTrailingBlanks, List.rdropWhile, List.reverse_append, List.dropWhile_append_of_pos hreverse]
  rfl

/-- What stands in front of more than blanks is kept with them: only the blanks at the very end are dropped, and
these are not reached through other characters. -/
theorem dropTrailingBlanks_append_left (cs : List Char) {rest : List Char} (hrest : ¬ AreBlank rest) :
    dropTrailingBlanks (cs ++ rest) = cs ++ dropTrailingBlanks rest := by
  have hkept : ¬ (rest.reverse.dropWhile isBlank).isEmpty = true := by
    rw [List.isEmpty_iff, List.dropWhile_eq_nil_iff]
    exact fun hblank => hrest fun c hc => hblank c (List.mem_reverse.mpr hc)
  rw [dropTrailingBlanks, List.rdropWhile, List.reverse_append, List.dropWhile_append, if_neg hkept,
    List.reverse_append, List.reverse_reverse]
  rfl

theorem dropLeadingBlanks_eq_nil_iff {cs : List Char} : dropLeadingBlanks cs = [] ↔ AreBlank cs :=
  List.dropWhile_eq_nil_iff

/-- Blanks around a text make no difference to what stripping leaves of it, so two layouts of one pattern are
compared by what they surround. -/
theorem Surrounds.stripChars_eq {text : String} {core : List Char} (hsurrounds : Surrounds text core) :
    stripChars text.toList = stripChars core := by
  obtain ⟨before, after, hbefore, hafter, htext⟩ := hsurrounds
  rw [htext, List.append_assoc, Text.stripChars_eq, Text.stripChars_eq, dropLeadingBlanks_append hbefore]
  by_cases hcore : AreBlank core
  · -- Nothing is left of the text, and the blanks behind it are then in front.
    rw [dropLeadingBlanks_append hcore, dropLeadingBlanks_eq_nil_iff.mpr hafter,
      dropLeadingBlanks_eq_nil_iff.mpr hcore]
  · have hkept : ¬ (core.dropWhile isBlank).isEmpty = true := by
      rw [List.isEmpty_iff]
      exact dropLeadingBlanks_eq_nil_iff.not.mpr hcore
    rw [dropLeadingBlanks, List.dropWhile_append, if_neg hkept, dropTrailingBlanks_append hafter]
    rfl

end Text

namespace Build

open Text

/-- Patterns that differ in the blanks around them, or also in those that stand between a leading `mut` and
what it binds. -/
inductive SamePattern (p q : String) : Prop
  | around (core : List Char) (hp : Surrounds p core) (hq : Surrounds q core)
  | afterMut (gap gap' binding : List Char) (hne : gap ≠ []) (hne' : gap' ≠ []) (hgap : AreBlank gap)
      (hgap' : AreBlank gap') (hp : Surrounds p ("mut".toList ++ gap ++ binding))
      (hq : Surrounds q ("mut".toList ++ gap' ++ binding))

/-- What a pattern with a leading `mut` binds. With nothing behind it, `mut` is itself the pattern, and then no
blanks are dropped but those around. -/
theorem dropMut_stripChars_mut {gap : List Char} (hne : gap ≠ []) (hgap : AreBlank gap) (binding : List Char) :
    dropMut (stripChars ("mut".toList ++ gap ++ binding)) =
      if AreBlank binding then "mut".toList else dropLeadingBlanks (dropTrailingBlanks binding) := by
  have hfront : dropLeadingBlanks ("mut".toList ++ gap ++ binding) = "mut".toList ++ gap ++ binding := by
    rfl
  rw [stripChars_eq, hfront]
  split
  · next hbinding =>
    rw [dropTrailingBlanks_append hbinding, dropTrailingBlanks_append hgap]
    rfl
  · next hbinding =>
    rw [dropTrailingBlanks_append_left _ hbinding]
    obtain ⟨c, rest, rfl⟩ := List.exists_cons_of_ne_nil hne
    have hc : isBlank c = true := hgap c List.mem_cons_self
    have hrest : AreBlank rest := fun d hd => hgap d (List.mem_cons_of_mem c hd)
    change dropMut ('m' :: 'u' :: 't' :: c :: (rest ++ dropTrailingBlanks binding)) = _
    rw [dropMut, if_pos hc, dropLeadingBlanks_append hrest]

/-- Patterns that differ in blanks alone are cleaned to the same text. The two constructors of the relation are
the two places where blanks of a pattern may stand. -/
theorem SamePattern.dropMut_eq {p q : String} (hsame : SamePattern p q) :
    dropMut (stripChars p.toList) = dropMut (stripChars q.toList) := by
  cases hsame with
  | around core hp hq => rw [hp.stripChars_eq, hq.stripChars_eq]
  | afterMut gap gap' binding hne hne' hgap hgap' hp hq =>
    rw [hp.stripChars_eq, hq.stripChars_eq, dropMut_stripChars_mut hne hgap, dropMut_stripChars_mut hne' hgap']

end Build

structure FieldDeclaration.SameButLayout (d d' : FieldDeclaration) : Prop where
  name : d.name = d'.name
  type : Text.dropBlanks d.type = Text.dropBlanks d'.type
  visibility : d.visibility = d'.visibility

/-- The text of a receiver may be any. -/
structure ParameterDeclaration.SameButLayout (d d' : ParameterDeclaration) : Prop where
  pattern : d.isReceiver = false → Build.SamePattern d.pattern d'.pattern
  type : Text.dropBlanks d.type = Text.dropBlanks d'.type
  isReceiver : d.isReceiver = d'.isReceiver

structure MethodDeclaration.SameButLayout (d d' : MethodDeclaration) : Prop where
  name : d.name = d'.name
  visibility : d.visibility = d'.visibility
  parameters : List.Forall₂ ParameterDeclaration.SameButLayout d.parameters d'.parameters

structure StructDeclaration.SameButLayout (d d' : StructDeclaration) : Prop where
  name : d.name = d'.name
  visibility : d.visibility = d'.visibility
  shape : d.shape = d'.shape
  fields : List.Forall₂ FieldDeclaration.SameButLayout d.fields d'.fields

structure ImplDeclaration.SameButLayout (d d' : ImplDeclaration) : Prop where
  target : Text.dropBlanks d.target = Text.dropBlanks d'.target
  isTraitImpl : d.isTraitImpl = d'.isTraitImpl
  methods : List.Forall₂ MethodDeclaration.SameButLayout d.methods d'.methods

inductive Declaration.SameButLayout : Declaration → Declaration → Prop
  | struct {d d' : StructDeclaration} (hsame : d.SameButLayout d') : SameButLayout (.struct d) (.struct d')
  | impl {d d' : ImplDeclaration} (hsame : d.SameButLayout d') : SameButLayout (.impl d) (.impl d')
  | enum (d : EnumDeclaration) : SameButLayout (.enum d) (.enum d)
  | other (kind : String) : SameButLayout (.other kind) (.other kind)

/-- Units with the same declarations but for the layout of these. They may come from different files. -/
def SourceUnit.SameButLayout (unit unit' : SourceUnit) : Prop :=
  List.Forall₂ Declaration.SameButLayout unit.declarations unit'.declarations

namespace Build

/-- Types that agree without their blanks have one canonical form. This is all that the builder ever uses of a
type, so layout inside types is never seen. -/
theorem canonical_eq_of_dropBlanks_eq {type type' : String} (hsame : Text.dropBlanks type = Text.dropBlanks type') :
    Signature.canonical type = Signature.canonical type' :=
  hsame

/-- A field keeps its name, its visibility and the canonical form of its type, and also its references are
computed from that form. -/
theorem field_eq_of_sameButLayout {d d' : FieldDeclaration} (hsame : d.SameButLayout d') : field d = field d' := by
  rw [field, field, hsame.name, hsame.visibility, canonical_eq_of_dropBlanks_eq hsame.type]

theorem fields_eq_of_sameButLayout {ds ds' : List FieldDeclaration}
    (hsame : List.Forall₂ FieldDeclaration.SameButLayout ds ds') : ds.map field = ds'.map field := by
  induction hsame with
  | nil => rfl
  | cons hfirst _ ih => rw [List.map_cons, List.map_cons, field_eq_of_sameButLayout hfirst, ih]

theorem struct_eq_of_sameButLayout {d d' : StructDeclaration} (hsame : d.SameButLayout d') :
    struct d = struct d' := by
  rw [struct, struct, hsame.shape, hsame.name, hsame.visibility, fields_eq_of_sameButLayout hsame.fields]

/-- Of a parameter that is no receiver the name, or what takes its place, is the same. A receiver is passed
over, so its text may differ in more than blanks. -/
theorem parameter_eq_of_sameButLayout {d d' : ParameterDeclaration} (hsame : d.SameButLayout d')
    (hreceiver : d.isReceiver = false) : parameter d = parameter d' := by
  have hreceiver' : d'.isReceiver = false := hsame.isReceiver ▸ hreceiver
  simp only [parameter, hreceiver, hreceiver', (hsame.pattern hreceiver).dropMut_eq,
    canonical_eq_of_dropBlanks_eq hsame.type, Bool.false_eq_true, if_false]

theorem parameters_cons_of_receiver {d : ParameterDeclaration} (hreceiver : d.isReceiver = true)
    (ds : List ParameterDeclaration) : parameters (d :: ds) = parameters ds := by
  simp [parameters, parameter, hreceiver]

/-- Lists of parameters that differ in layout give the same members and the same skips, subjects included: what
a skip shows is the pattern as cleaning leaves it. -/
theorem parameters_eq_of_sameButLayout {ds ds' : List ParameterDeclaration}
    (hsame : List.Forall₂ ParameterDeclaration.SameButLayout ds ds') : parameters ds = parameters ds' := by
  induction hsame with
  | nil => rfl
  | @cons d d' ds ds' hfirst hrest ih =>
    -- Receivers are passed over, so that nothing is left of their text.
    cases hreceiver : d.isReceiver with
    | true =>
      have hreceiver' : d'.isReceiver = true := hfirst.isReceiver ▸ hreceiver
      rw [parameters_cons_of_receiver hreceiver, parameters_cons_of_receiver hreceiver', ih]
    | false => rw [parameters, parameters, parameter_eq_of_sameButLayout hfirst hreceiver, ih]

/-- Methods keep their names and visibilities, and their parameters agree one by one, so the methods that blocks
attach are the same. -/
theorem methods_eq_of_sameButLayout {ds ds' : List MethodDeclaration}
    (hsame : List.Forall₂ MethodDeclaration.SameButLayout ds ds') : methods ds = methods ds' := by
  induction hsame with
  | nil => rfl
  | @cons d d' ds ds' hfirst hrest ih =>
    have hmethod : method d = method d' := by
      rw [method, method, parameters_eq_of_sameButLayout hfirst.parameters, hfirst.name, hfirst.visibility]
    rw [methods, methods, hmethod, ih]

/-- The target of an impl block is read without its blanks, unless the block is passed over for its trait. Only
then may the target appear as it is written. -/
theorem target_eq_of_sameButLayout {d d' : ImplDeclaration} (hsame : d.SameButLayout d')
    (htrait : d.isTraitImpl = false) : target d = target d' := by
  have htrait' : d'.isTraitImpl = false := hsame.isTraitImpl ▸ htrait
  simp only [target, htrait, htrait', canonical_eq_of_dropBlanks_eq hsame.target, Bool.false_eq_true, if_false]

/-- A block for a trait is passed over before its target is looked at, and the skip shows the target with all
its blanks. -/
theorem target_of_isTraitImpl {d : ImplDeclaration} (htrait : d.isTraitImpl = true) :
    target d = .error ⟨.traitImpl, d.target⟩ := by
  rw [target, if_pos htrait]

end Build

namespace Model

/-- Models with the same entities, and with skips for the same reasons in the same order. -/
structure SameButSubjects (m m' : Model) : Prop where
  entities : m.entities = m'.entities
  reasons : m.skipped.map (·.reason) = m'.skipped.map (·.reason)

variable {m m' : Model}

theorem SameButSubjects.skip (hsame : m.SameButSubjects m') (reason : SkipReason) (subject subject' : String) :
    (m.skip reason subject).SameButSubjects (m'.skip reason subject') :=
  ⟨hsame.entities, by simp [Model.skip, hsame.reasons]⟩

/-- Taking in an entity keeps models alike. The entities are the same list, so the new one finds the same place
in both. -/
theorem SameButSubjects.insert (hsame : m.SameButSubjects m') (e : Entity) :
    (m.insert e).SameButSubjects (m'.insert e) := by
  rw [Model.insert, Model.insert, hsame.entities]
  split
  · exact hsame.skip _ _ _
  · exact ⟨rfl, hsame.reasons⟩

/-- Types are taken in alike: whether there is such a name already, and what the declaration describes, is the
same on both sides. -/
theorem SameButSubjects.addType (hsame : m.SameButSubjects m') (includeEnums : Bool) {d d' : Declaration}
    (hlayout : d.SameButLayout d') :
    (m.addType includeEnums d).SameButSubjects (m'.addType includeEnums d') := by
  cases hlayout with
  | @struct d d' hstruct =>
    rw [Model.addType, Model.addType, Build.struct_eq_of_sameButLayout hstruct]
    cases Build.struct d' with
    | ok e => exact hsame.insert e
    | error s => exact hsame.skip _ _ _
  | impl _ => exact hsame
  | enum d =>
    rw [Model.addType, Model.addType]
    split
    · exact hsame.insert _
    · exact hsame.skip _ _ _
  | other kind => exact hsame

/-- Impl blocks are taken in alike. The skip of one for a trait holds the target as it is written, which is
why subjects may differ. -/
theorem SameButSubjects.addImpl (hsame : m.SameButSubjects m') {d d' : Declaration}
    (hlayout : d.SameButLayout d') : (m.addImpl d).SameButSubjects (m'.addImpl d') := by
  cases hlayout with
  | struct _ => exact hsame
  | @impl d d' himpl =>
    cases htrait : d.isTraitImpl with
    | true =>
      have htrait' : d'.isTraitImpl = true := himpl.isTraitImpl ▸ htrait
      simp only [Model.addImpl, Build.target_of_isTraitImpl htrait, Build.target_of_isTraitImpl htrait']
      exact hsame.skip _ _ _
    | false =>
      simp only [Model.addImpl, Build.target_eq_of_sameButLayout himpl htrait,
        Build.methods_eq_of_sameButLayout himpl.methods, hsame.entities]
      cases Build.target d' with
      | error s => exact hsame.skip _ _ _
      | ok name =>
        dsimp only
        split
        · exact ⟨by simp only [Model.extend, hsame.entities], by simp [Model.extend, hsame.reasons]⟩
        · exact hsame.skip _ _ _
  | enum d => exact hsame
  | other kind => exact hsame

/-- A pass over the declarations keeps what each of its steps keeps. Both passes of a build are such folds, so
one induction serves for both. -/
theorem SameButSubjects.foldl {step : Model → Declaration → Model}
    (hstep : ∀ {m m' d d'}, m.SameButSubjects m' → Declaration.SameButLayout d d' →
      (step m d).SameButSubjects (step m' d'))
    {ds ds' : List Declaration} (hlayout : List.Forall₂ Declaration.SameButLayout ds ds')
    (hsame : m.SameButSubjects m') : (ds.foldl step m).SameButSubjects (ds'.foldl step m') := by
  induction hlayout generalizing m m' with
  | nil => exact hsame
  | cons hfirst _ ih => exact ih (hstep hsame hfirst)

end Model

/-- The two passes take units that differ in layout to models with the same entities and to skips for the same
reasons, in the same order. -/
theorem build_sameButSubjects (includeEnums : Bool) {ds ds' : List Declaration}
    (hlayout : List.Forall₂ Declaration.SameButLayout ds ds') :
    (build includeEnums ds).SameButSubjects (build includeEnums ds') := by
  have htypes : (ds.foldl (Model.addType includeEnums) {}).SameButSubjects
      (ds'.foldl (Model.addType includeEnums) {}) :=
    Model.SameButSubjects.foldl (fun hsame => hsame.addType includeEnums) hlayout ⟨rfl, rfl⟩
  exact Model.SameButSubjects.foldl (fun hsame => hsame.addImpl) hlayout htypes

/-- Units that differ in layout alone have the same entities, in the same order, and leave out as much for the
same reasons. So a diagram that shows the one beside any other entities is the diagram that shows the other in
its place. Blanks in the type of a field or parameter and in the target of an impl block count for nothing, and
so do those around a binding pattern; after a leading `mut` it counts only that there is one. -/
theorem Builder.build_eq_of_sameButLayout (b : Builder) {unit unit' : SourceUnit}
    (hlayout : unit.SameButLayout unit') :
    (b.build unit).1 = (b.build unit').1 ∧
      (b.build unit).2.skipped.map (·.reason) = (b.build unit').2.skipped.map (·.reason) ∧
      ∀ showVisibility before after,
        PlantUml.render showVisibility (before ++ (b.build unit).1 ++ after) =
          PlantUml.render showVisibility (before ++ (b.build unit').1 ++ after) := by
  obtain ⟨hentities, hreasons⟩ := build_sameButSubjects b.includeEnums hlayout
  have hbuilt : (b.build unit).1 = (b.build unit').1 := hentities
  refine ⟨hbuilt, hreasons, fun showVisibility before after => ?_⟩
  rw [hbuilt]

/-- A struct, a block that adds to it and a block for a trait, set close. -/
def denseUnit : SourceUnit where
  declarations :=
    [.struct { name := "Shelf", fields := [{ name := "rows", type := "Map<Book,Vec<Book>>" }] },
      .impl { target := "Shelf", methods := [{ name := "add", parameters := [
        { pattern := "&self", isReceiver := true }, { pattern := "mut book", type := "Book" },
        { pattern := "mut (a, b)", type := "(A,B)" }, { pattern := "mut", type := "u8" }] }] },
      .impl { target := "Vec<Book>", isTraitImpl := true }]

/-- The same with other blanks: an em space, a no-break space, a line separator and line ends among them. -/
def sparseUnit : SourceUnit where
  path := some "shelf.rs"
  declarations :=
    [.struct { name := "Shelf", fields := [{ name := "rows", type := "Map <\u2003Book,\n  Vec<\u00a0Book > >" }] },
      .impl { target := " Shelf\u2028", methods := [{ name := "add", parameters := [
        { pattern := "& self", isReceiver := true }, { pattern := "\tmut\u00a0\n book ", type := " Book" },
        { pattern := "mut\t\t(a, b)\n", type := "( A, B )" }, { pattern := "mut \u2003", type := "u8" }] }] },
      .impl { target := "Vec< Book >", isTraitImpl := true }]

theorem denseUnit_sameButLayout : denseUnit.SameButLayout sparseUnit := by
  have hself : ParameterDeclaration.SameButLayout { pattern := "&self", isReceiver := true }
      { pattern := "& self", isReceiver := true } :=
    ⟨by simp, rfl, rfl⟩
  have hbook : ParameterDeclaration.SameButLayout { pattern := "mut book", type := "Book" }
      { pattern := "\tmut\u00a0\n book ", type := " Book" } :=
    ⟨fun _ => .afterMut " ".toList "\u00a0\n ".toList "book".toList (by decide) (by decide) (by decide) (by decide)
      ⟨[], [], by decide, by decide, by decide⟩ ⟨['\t'], [' '], by decide, by decide, by decide⟩, by decide, rfl⟩
  have hpair : ParameterDeclaration.SameButLayout { pattern := "mut (a, b)", type := "(A,B)" }
      { pattern := "mut\t\t(a, b)\n", type := "( A, B )" } :=
    ⟨fun _ => .afterMut " ".toList "\t\t".toList "(a, b)".toList (by decide) (by decide) (by decide) (by decide)
      ⟨[], [], by decide, by decide, by decide⟩ ⟨[], ['\n'], by decide, by decide, by decide⟩, by decide, rfl⟩
  have hmut : ParameterDeclaration.SameButLayout { pattern := "mut", type := "u8" }
      { pattern := "mut \u2003", type := "u8" } :=
    ⟨fun _ => .around "mut".toList ⟨[], [], by decide, by decide, by decide⟩
      ⟨[], " \u2003".toList, by decide, by decide, by decide⟩, rfl, rfl⟩
  refine .cons (.struct ⟨rfl, rfl, rfl, ?_⟩) (.cons (.impl ⟨by decide, rfl, ?_⟩)
    (.cons (.impl ⟨by decide, rfl, .nil⟩) .nil))
  · exact .cons ⟨rfl, by decide +kernel, rfl⟩ .nil
  · exact .cons ⟨rfl, rfl, .cons hself (.cons hbook (.cons hpair (.cons hmut .nil)))⟩ .nil

/-- The two layouts of the unit are built alike. The skip of the block for a trait shows the target as it is
written, so only the reasons are compared. -/
theorem build_denseUnit :
    denseUnit.SameButLayout sparseUnit ∧
      (({} : Builder).build denseUnit).1 = (({} : Builder).build sparseUnit).1 ∧
      (({} : Builder).build denseUnit).2.skipped = [⟨.nonIdentifierBinding, "(a, b)"⟩, ⟨.traitImpl, "Vec<Book>"⟩] ∧
      (({} : Builder).build sparseUnit).2.skipped.map (·.reason) = [.nonIdentifierBinding, .traitImpl] := by
  obtain ⟨hentities, hreasons, _⟩ := Builder.build_eq_of_sameButLayout {} denseUnit_sameButLayout
  have hskipped : (({} : Builder).build denseUnit).2.skipped =
      [⟨.nonIdentifierBinding, "(a, b)"⟩, ⟨.traitImpl, "Vec<Book>"⟩] := by
    decide +kernel
  refine ⟨denseUnit_sameButLayout, hentities, hskipped, ?_⟩
  rw [← hreasons, hskipped]
  rfl

end ClassDiagram
