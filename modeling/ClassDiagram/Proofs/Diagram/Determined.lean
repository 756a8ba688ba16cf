import ClassDiagram.Proofs.Diagram.Reading

namespace ClassDiagram

/-- The names that a declaration gives to types and members. -/
def Declaration.names : Declaration → List String
  | .struct d => d.name :: d.fields.map (·.name)
  | .impl d => d.methods.map (·.name)
  | .enum d => [d.name]
  | .other _ => []

/-- All names of types and members are legible. Empty names need not be excluded. -/
def SourceUnit.LegiblyNamed (unit : SourceUnit) : Prop :=
  ∀ d ∈ unit.declarations, ∀ name ∈ d.names, IsLegible name

-- Characters are finite in number: without the instance for lists, all of them might be tried.
instance (name : String) : Decidable (IsLegible name) :=
  List.decidableBAll (fun c => Text.isBlank c = false ∧ c ≠ '"' ∧ c ≠ ':' ∧ c ≠ '(') name.toList

instance (unit : SourceUnit) : Decidable unit.LegiblyNamed :=
  List.decidableBAll (fun d : Declaration => ∀ name ∈ d.names, IsLegible name) unit.declarations

/-- The entities of units, each with the builder that takes it: the states of one builder, or several ones. -/
def Builder.outputs (runs : List (Builder × SourceUnit)) : List Entity :=
  runs.flatMap fun run => (run.1.build run.2).1

/-- Each entity among the outputs of several builders is made from the declarations of the unit that one of them
was given. -/
theorem Builder.madeFrom_of_mem_outputs {runs : List (Builder × SourceUnit)} {e : Entity}
    (he : e ∈ outputs runs) : ∃ run ∈ runs, e.MadeFrom run.2.declarations := by
  obtain ⟨run, hrun, he⟩ := List.mem_flatMap.mp he
  rw [build_fst] at he
  exact ⟨run, hrun, Merge.madeFrom_of_mem_described he⟩

namespace Entity

mutual

/-- The entity with one visibility for itself and everything in it. -/
def withVisibility (v : Visibility) : Entity → Entity
  | ⟨kind, displayName, name, _, members⟩ => ⟨kind, displayName, name, v, withVisibilityAll v members⟩

/-- Entities with one visibility for them and everything in them. -/
def withVisibilityAll (v : Visibility) : List Entity → List Entity
  | [] => []
  | e :: rest => withVisibility v e :: withVisibilityAll v rest

end

theorem withVisibilityAll_eq_map (v : Visibility) (es : List Entity) :
    withVisibilityAll v es = es.map (withVisibility v) := by
  induction es with
  | nil => rfl
  | cons e rest ih => rw [withVisibilityAll, ih, List.map_cons]

end Entity

namespace PlantUml

/-- The members of an entity made from legibly named declarations can be told apart. Fields have their types in
canonical form, and methods have names without a parenthesis, where the parameters begin. -/
theorem isType_of_madeFrom {unit : SourceUnit} (hnames : unit.LegiblyNamed) {e : Entity}
    (hmade : e.MadeFrom unit.declarations) : IsType e := by
  cases hmade with
  | enum d henum => exact .enum d.name d.visibility (hnames _ henum d.name (by simp [Declaration.names]))
  | struct d methods hstruct hmethods =>
    have hname : IsLegible d.name := hnames _ hstruct d.name (by simp [Declaration.names])
    refine .struct d.name _ d.visibility hname fun m hm => ?_
    rcases List.mem_append.mp hm with hm | hm
    · obtain ⟨f, hf, rfl⟩ := List.mem_map.mp hm
      refine .field f (hnames _ hstruct f.name ?_)
      exact List.mem_cons_of_mem d.name (List.mem_map_of_mem hf)
    · obtain ⟨f, hf, rfl⟩ := List.mem_map.mp hm
      obtain ⟨impl, himpl, hmem⟩ := hmethods f hf
      exact .method f (hnames _ himpl f.name (List.mem_map_of_mem hmem))

/-- All entities of legibly named units have the shape that can be read back, whichever builder made them. -/
theorem isType_of_mem_outputs {runs : List (Builder × SourceUnit)} (hnames : ∀ run ∈ runs, run.2.LegiblyNamed)
    {e : Entity} (he : e ∈ Builder.outputs runs) : IsType e := by
  obtain ⟨run, hrun, hmade⟩ := Builder.madeFrom_of_mem_outputs he
  exact isType_of_madeFrom (hnames run hrun) hmade

/-- The text of blocks, with the blank line that stands before each. -/
def blocksText (showVisibility : Bool) (es : List Entity) : List Char :=
  es.flatMap fun e => '\n' :: '\n' :: (block showVisibility e).toList

/-- What follows the line of the last block. -/
def edgesText : List Entity → List Char
  | [] => '\n' :: '\n' :: '\n' :: "@enduml".toList
  | e :: es =>
    (edgeText (knownNames (e :: es)) e).toList ++
      (es.flatMap (fun e' => '\n' :: '\n' :: (edgeText (knownNames (e :: es)) e').toList) ++
        '\n' :: "@enduml".toList)

/-- A diagram as one list of characters: its start, the blocks, one line end, and what follows the last block. -/
theorem toList_render (showVisibility : Bool) (es : List Entity) :
    (render showVisibility es).toList =
      "@startuml".toList ++ (blocksText showVisibility es ++ '\n' :: edgesText es) := by
  cases es with
  | nil => simp [render, blocksText, edgesText]
  | cons e es =>
    simp only [render, List.map_cons, String.toList_append, toList_intercalate_cons, List.flatMap_map,
      blocksText, edgesText, List.flatMap_cons]
    simp

/-- Does a text go on with a block, after the first of two line ends? -/
def StartsBlock (showVisibility : Bool) (s : List Char) : Prop :=
  ∃ e rest, s = '\n' :: ((block showVisibility e).toList ++ rest)

/-- A block begins with a keyword. The end of a diagram begins with an at sign and a blank line with a line end,
so neither is taken for a block. -/
theorem block_start (showVisibility : Bool) (e : Entity) :
    ∃ c rest, (block showVisibility e).toList = c :: rest ∧ c ≠ '@' ∧ c ≠ '\n' := by
  by_cases henum : e.kind = .enum
  · exact ⟨'e', _, by simp [block, henum]; rfl, by decide, by decide⟩
  · exact ⟨'c', _, by simp [block, henum]; rfl, by decide, by decide⟩

/-- The edges of an entity are no text at all, or begin with a quote, which no block does. -/
theorem edgeText_start (known : List String) (e : Entity) :
    (edgeText known e).toList = [] ∨ ∃ rest, (edgeText known e).toList = '"' :: rest := by
  rw [edgeText]
  cases edges known e with
  | nil => exact .inl rfl
  | cons edge rest => exact .inr ⟨_, by simp [Edge.line]; rfl⟩

/-- The edges and the end of a diagram are never taken for one more block. It is here that reading blocks back
comes to its end. -/
theorem not_startsBlock_edgesText (showVisibility : Bool) (es : List Entity) :
    ¬ StartsBlock showVisibility (edgesText es) := by
  rintro ⟨f, tail, htext⟩
  obtain ⟨c, rest, hblock, hat, hline⟩ := block_start showVisibility f
  rw [hblock, List.cons_append] at htext
  cases es with
  | nil => exact hline (List.cons.inj (List.cons.inj htext).2).1.symm
  | cons e es =>
    rw [edgesText] at htext
    rcases edgeText_start (knownNames (e :: es)) e with hempty | ⟨line, hquote⟩
    · -- The first type has no edges, so that the text goes on with its end or with a blank line.
      rw [hempty] at htext
      cases es with
      | nil => exact hat (List.cons.inj (List.cons.inj htext).2).1.symm
      | cons e' es => exact hline (List.cons.inj (List.cons.inj htext).2).1.symm
    · rw [hquote] at htext
      exact absurd (List.cons.inj htext).1 (by decide)

/-- Blocks are read back one by one as long as another block follows. What follows may differ on both sides, as
long as it starts no block. -/
theorem blocksText_append_inj {showVisibility : Bool} {es fs : List Entity} (hes : ∀ e ∈ es, IsType e)
    (hfs : ∀ f ∈ fs, IsType f) {s t : List Char} (hs : ¬ StartsBlock showVisibility s)
    (ht : ¬ StartsBlock showVisibility t)
    (htext : blocksText showVisibility es ++ '\n' :: s = blocksText showVisibility fs ++ '\n' :: t) :
    es.map (typeAsShown showVisibility) = fs.map (typeAsShown showVisibility) := by
  have hread : ∀ e f s t, IsType e → IsType f →
      '\n' :: '\n' :: (block showVisibility e).toList ++ s =
        '\n' :: '\n' :: (block showVisibility f).toList ++ t →
      typeAsShown showVisibility e = typeAsShown showVisibility f ∧ s = t := by
    intro e f s t he hf htext
    simp only [List.cons_append, List.cons.injEq, true_and] at htext
    exact block_append_inj he hf htext
  have hstart : ∀ e s, IsType e →
      ¬ ∃ t, '\n' :: '\n' :: (block showVisibility e).toList ++ s = '\n' :: t ∧
        ¬ StartsBlock showVisibility t := by
    rintro e s _ ⟨t, hline, hnone⟩
    exact hnone ⟨e, s, (List.cons.inj hline).2.symm⟩
  exact (flatMap_append_inj (E := fun s => ∃ t, s = '\n' :: t ∧ ¬ StartsBlock showVisibility t)
    hread hstart hes hfs ⟨s, rfl, hs⟩ ⟨t, rfl, ht⟩ htext).1

/-- Types that are drawn alike are alike as far as their blocks tell. The edges add nothing to this, since they
can be told from the types. -/
theorem map_typeAsShown_of_render_eq {showVisibility : Bool} {es fs : List Entity} (hes : ∀ e ∈ es, IsType e)
    (hfs : ∀ f ∈ fs, IsType f) (hrender : render showVisibility es = render showVisibility fs) :
    es.map (typeAsShown showVisibility) = fs.map (typeAsShown showVisibility) := by
  have htext := congrArg String.toList hrender
  rw [toList_render, toList_render] at htext
  exact blocksText_append_inj hes hfs (not_startsBlock_edgesText showVisibility es)
    (not_startsBlock_edgesText showVisibility fs) (List.append_cancel_left htext)

/-- With markers, a block tells everything but the visibility of the type itself, which is nowhere drawn. -/
theorem typeAsShown_true (e : Entity) : typeAsShown true e = { e with visibility := .hidden } := by
  have hmember : asShown true = id := by
    funext m
    cases m
    rfl
  simp [typeAsShown, hmember]

/-- Setting all visibilities to one value forgets exactly what a block without markers leaves out. -/
theorem withVisibility_asShown (v : Visibility) (showVisibility : Bool) (e : Entity) :
    (asShown showVisibility e).withVisibility v = e.withVisibility v := by
  cases e
  rfl

/-- With or without markers, a block tells everything that is not a visibility. It is drawn member by member, in
the order of the members. -/
theorem withVisibility_typeAsShown (v : Visibility) (showVisibility : Bool) (e : Entity) :
    (typeAsShown showVisibility e).withVisibility v = e.withVisibility v := by
  cases e
  simp [typeAsShown, Entity.withVisibility, Entity.withVisibilityAll_eq_map, withVisibility_asShown]

/-- Equal diagrams come from equal entities: up to the visibility of the types themselves if the diagrams show
visibility, and up to all visibilities if they do not. Blocks are read back one by one, until what follows is no
block: edge lines start with a quote and the end of the diagram with an at sign, where a block starts with its
keyword. -/
theorem render_determines (runs runs' : List (Builder × SourceUnit))
    (hnames : ∀ run ∈ runs, run.2.LegiblyNamed) (hnames' : ∀ run ∈ runs', run.2.LegiblyNamed) :
    (render true (Builder.outputs runs) = render true (Builder.outputs runs') →
      (Builder.outputs runs).map (fun e => { e with visibility := .hidden }) =
        (Builder.outputs runs').map (fun e => { e with visibility := .hidden })) ∧
      (render false (Builder.outputs runs) = render false (Builder.outputs runs') →
        (Builder.outputs runs).map (Entity.withVisibility .hidden) =
          (Builder.outputs runs').map (Entity.withVisibility .hidden)) := by
  have htypes : ∀ e ∈ Builder.outputs runs, IsType e := fun _ => isType_of_mem_outputs hnames
  have htypes' : ∀ e ∈ Builder.outputs runs', IsType e := fun _ => isType_of_mem_outputs hnames'
  constructor
  · intro hrender
    simpa only [funext typeAsShown_true] using map_typeAsShown_of_render_eq htypes htypes' hrender
  · intro hrender
    have hshown := map_typeAsShown_of_render_eq htypes htypes' hrender
    have hsame := congrArg (List.map (Entity.withVisibility .hidden)) hshown
    simpa only [List.map_map, Function.comp_def, withVisibility_typeAsShown] using hsame

/-- A struct with a field and a method, in a unit that may be built with or without enums. -/
def lampRuns (includeEnums : Bool) (visibility memberVisibility : Visibility) : List (Builder × SourceUnit) :=
  [({ includeEnums },
    { declarations :=
        [.impl { target := "Lamp", methods := [
            { name := "dim", parameters := [{ pattern := "mut by", type := "u8" }] }] },
          .struct { name := "Lamp", visibility, fields := [
            { name := "level", type := "Option< u8 >", visibility := memberVisibility }] }] })]

/-- The visibility of the struct, and without markers that of its field, does not show: different entities lead
to one diagram, and agree up to what is left out. -/
theorem render_lampRuns :
    ((Builder.outputs (lampRuns true .exposed .hidden)).map (·.visibility) ≠
        (Builder.outputs (lampRuns false .hidden .hidden)).map (·.visibility) ∧
      (Builder.outputs (lampRuns true .exposed .hidden)).map (fun e => { e with visibility := .hidden }) =
        (Builder.outputs (lampRuns false .hidden .hidden)).map (fun e => { e with visibility := .hidden })) ∧
      (Builder.outputs (lampRuns true .exposed .hidden)).map (Entity.withVisibility .hidden) =
        (Builder.outputs (lampRuns false .hidden .exposed)).map (Entity.withVisibility .hidden) := by
  refine ⟨⟨by decide, ?_⟩, ?_⟩
  · exact (render_determines _ _ (by decide) (by decide)).1 (by decide +kernel)
  · exact (render_determines _ _ (by decide) (by decide)).2 (by decide +kernel)

end PlantUml

end ClassDiagram
