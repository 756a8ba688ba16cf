import ClassDiagram.Proofs.Diagram.Determined
import ClassDiagram.Proofs.Rust.Entities
import ClassDiagram.Proofs.Rust.Places

namespace ClassDiagram.Rust

/-- The plain name that a pattern binds, if it binds one; a receiver binds none. -/
def boundName? (pattern : String) : Option String :=
  let name := String.ofList (Build.dropMut (Text.stripChars pattern.toList))
  if pattern ≠ "self" ∧ Build.isPlainName name then some name else none

namespace Syntax.Parameter

/-- A parameter with a type is shown if its pattern is a plain name; the type decides only how it is shown. -/
theorem entity?_typed (text : Span → String) (pattern type : Span) :
    (typed pattern type).entity? text =
      (boundName? (text pattern)).map fun name => .ofParameter name (Signature.canonical (text type)) := by
  rw [entity?, read?, Option.bind_some, Build.parameter, boundName?]
  by_cases hself : text pattern = "self"
  · simp [hself, Except.toOption]
  · by_cases hplain : Build.isPlainName (String.ofList (Build.dropMut (Text.stripChars (text pattern).toList)))
    · simp [hself, hplain, Except.toOption]
    · simp [hself, hplain, Except.toOption]

end Syntax.Parameter

/-- The type at a place is shown, when the texts of the source are read by `text`. -/
inductive Shows (text : Span → String) (items : List Item) (place : Span) : Prop
  | field (s : Syntax.Struct) (f : Syntax.Field) (hs : shownStruct? items s.name = some s) (hf : f ∈ s.fields)
      (htype : f.type = place)
  | parameter (s : Syntax.Struct) (block : Syntax.Impl) (m : Syntax.Method) (pattern : Span)
      (hs : shownStruct? items s.name = some s) (hblock : .impl block ∈ items)
      (howner : block.owner? text = some s.name) (hm : m ∈ block.methods)
      (hp : .typed pattern place ∈ m.parameters) (hbound : (boundName? (text pattern)).isSome = true)

/-- Two readings of items that differ in the text of one type at most. -/
structure AgreeBut (items : List Item) (place : Span) (text text' : Span → String) : Prop where
  eq : ∀ part ∈ items.flatMap Item.parts, part ≠ .type place → ∀ span, part.place? = some span →
    text' span = text span

/-- Lists put together from pieces of equal lengths are equal only if the pieces are. -/
theorem flatMap_inj {α β : Type} {l : List α} {f g : α → List β}
    (hlength : ∀ a ∈ l, (f a).length = (g a).length) (h : l.flatMap f = l.flatMap g) : ∀ a ∈ l, f a = g a := by
  induction l with
  | nil => simp
  | cons a l ih =>
    rw [List.flatMap_cons, List.flatMap_cons] at h
    obtain ⟨hfirst, hrest⟩ := List.append_inj h (hlength a List.mem_cons_self)
    intro b hb
    rcases List.mem_cons.mp hb with rfl | hb
    · exact hfirst
    · exact ih (fun c hc => hlength c (List.mem_cons_of_mem a hc)) hrest b hb

namespace AgreeBut

variable {items : List Item} {place : Span} {text text' : Span → String} (hagree : AgreeBut items place text text')

include hagree

theorem type_eq {part : Span} (hpart : .type part ∈ items.flatMap Item.parts) (hne : part ≠ place) :
    text' part = text part :=
  hagree.eq (.type part) hpart (fun h => hne (Part.type.inj h)) part rfl

/-- A field whose type is not at the place has the same text in both readings. -/
theorem field_eq {s : Syntax.Struct} (hs : .struct s ∈ items) {f : Syntax.Field} (hf : f ∈ s.fields)
    (hne : f.type ≠ place) : text' f.type = text f.type := by
  refine hagree.type_eq (List.mem_flatMap.mpr ⟨.struct s, hs, ?_⟩) hne
  exact List.mem_cons_of_mem _ (List.mem_flatMap.mpr ⟨f, hf, by simp [Syntax.Field.parts]⟩)

/-- Targets of impl blocks are never at the place of a type, so each block goes to the same struct in both
readings. -/
theorem owner?_eq {block : Syntax.Impl} (hblock : .impl block ∈ items) :
    block.owner? text' = block.owner? text := by
  have htarget : text' block.target = text block.target :=
    hagree.eq (.target block.target) (List.mem_flatMap.mpr ⟨.impl block, hblock, List.mem_cons_self⟩)
      nofun _ rfl
  rw [Syntax.Impl.owner?, htarget, Syntax.Impl.owner?]

omit hagree in
theorem mem_parts_of_mem_parameters {block : Syntax.Impl} (hblock : .impl block ∈ items) {m : Syntax.Method}
    (hm : m ∈ block.methods) {p : Syntax.Parameter} (hp : p ∈ m.parameters) {part : Part} (hpart : part ∈ p.parts) :
    part ∈ items.flatMap Item.parts := by
  refine List.mem_flatMap.mpr ⟨.impl block, hblock, List.mem_cons_of_mem _ ?_⟩
  refine List.mem_flatMap.mpr ⟨m, hm, List.mem_cons_of_mem _ ?_⟩
  exact List.mem_flatMap.mpr ⟨p, hp, hpart⟩

theorem pattern_eq {block : Syntax.Impl} (hblock : .impl block ∈ items) {m : Syntax.Method}
    (hm : m ∈ block.methods) {pattern type : Span} (hp : .typed pattern type ∈ m.parameters) :
    text' pattern = text pattern :=
  hagree.eq (.binding pattern) (mem_parts_of_mem_parameters hblock hm hp List.mem_cons_self) nofun _ rfl

/-- The same parameters count in both readings, because this is told by their patterns. -/
theorem isSome_entity?_eq {block : Syntax.Impl} (hblock : .impl block ∈ items) {m : Syntax.Method}
    (hm : m ∈ block.methods) {p : Syntax.Parameter} (hp : p ∈ m.parameters) :
    (p.entity? text').isSome = (p.entity? text).isSome := by
  cases p with
  | receiver place => rfl
  | anonymous => rfl
  | typed pattern type =>
    rw [Syntax.Parameter.entity?_typed, Syntax.Parameter.entity?_typed, hagree.pattern_eq hblock hm hp,
      Option.isSome_map, Option.isSome_map]

/-- A parameter of a method that a shown struct gets is the same in both readings, if the type at the place is
not shown: either its type is elsewhere or its pattern is no plain name. -/
theorem entity?_eq_of_not_shows {s : Syntax.Struct} (hs : shownStruct? items s.name = some s)
    {block : Syntax.Impl} (hblock : .impl block ∈ items) (howner : block.owner? text = some s.name)
    {m : Syntax.Method} (hm : m ∈ block.methods) (hhidden : ¬ Shows text items place) {p : Syntax.Parameter}
    (hp : p ∈ m.parameters) : p.entity? text' = p.entity? text := by
  cases p with
  | receiver place => rfl
  | anonymous => rfl
  | typed pattern type =>
    rw [Syntax.Parameter.entity?_typed, Syntax.Parameter.entity?_typed, hagree.pattern_eq hblock hm hp]
    cases hbound : boundName? (text pattern) with
    | none => rfl
    | some name =>
      have hne : type ≠ place := by
        rintro rfl
        exact hhidden (.parameter s block m pattern hs hblock howner hm hp (by rw [hbound]; rfl))
      have hpart : .type type ∈ Syntax.Parameter.parts (.typed pattern type) := by simp [Syntax.Parameter.parts]
      rw [hagree.type_eq (mem_parts_of_mem_parameters hblock hm hp hpart) hne]

/-- A type that is not shown makes no difference to any struct that is. -/
theorem entity_eq_of_not_shows (hhidden : ¬ Shows text items place) {s : Syntax.Struct}
    (hs : shownStruct? items s.name = some s) : s.entity text' items = s.entity text items := by
  have hfields : s.fields.map (fun f => Build.field (f.read text')) =
      s.fields.map fun f => Build.field (f.read text) := by
    refine List.map_congr_left fun f hf => ?_
    have hne : f.type ≠ place := fun htype => hhidden (.field s f hs hf htype)
    rw [Syntax.Field.read, hagree.field_eq (shownStruct?_name hs).2.2 hf hne, Syntax.Field.read]
  have hmethods : items.flatMap (Item.methodsFor text' s.name) = items.flatMap (Item.methodsFor text s.name) := by
    refine List.flatMap_congr fun item hitem => ?_
    cases item with
    | impl block =>
      rw [Item.methodsFor, Item.methodsFor, hagree.owner?_eq hitem]
      by_cases howner : block.owner? text = some s.name
      · rw [if_pos howner, if_pos howner]
        refine List.map_congr_left fun m hm => ?_
        rw [Syntax.Method.entity, Syntax.Method.entity]
        congr 1
        exact List.filterMap_congr fun p hp => hagree.entity?_eq_of_not_shows hs hitem howner hm hhidden hp
      · rw [if_neg howner, if_neg howner]
    | _ => rfl
  rw [Syntax.Struct.entity, hfields, hmethods, Syntax.Struct.entity]

/-- If a struct looks the same in both readings, so do its fields and its methods. Both have the same number of
members of each kind, which is what lets the lists be compared piece by piece. -/
theorem members_eq_of_asShown {showVisibility : Bool} {s : Syntax.Struct}
    (hsame : PlantUml.typeAsShown showVisibility (s.entity text' items) =
      PlantUml.typeAsShown showVisibility (s.entity text items)) :
    (∀ f ∈ s.fields, Signature.canonical (text' f.type) = Signature.canonical (text f.type)) ∧
      ∀ block, .impl block ∈ items → block.owner? text = some s.name → ∀ m ∈ block.methods,
        m.parameters.filterMap (Syntax.Parameter.entity? text') =
          m.parameters.filterMap (Syntax.Parameter.entity? text) := by
  have hmembers : (s.entity text' items).members.map (PlantUml.asShown showVisibility) =
      (s.entity text items).members.map (PlantUml.asShown showVisibility) := congrArg Entity.members hsame
  simp only [Syntax.Struct.entity, Entity.ofStruct, List.map_append, List.map_map, List.map_flatMap] at hmembers
  obtain ⟨hfields, hmethods⟩ := List.append_inj hmembers (by simp)
  constructor
  · intro f hf
    exact congrArg Entity.displayName (List.map_inj_left.mp hfields f hf)
  · intro block hblock howner m hm
    have hlengths : ∀ item ∈ items,
        ((Item.methodsFor text' s.name item).map (PlantUml.asShown showVisibility)).length =
          ((Item.methodsFor text s.name item).map (PlantUml.asShown showVisibility)).length := by
      intro item hitem
      cases item with
      | impl other =>
        rw [Item.methodsFor, Item.methodsFor, hagree.owner?_eq hitem]
        split <;> simp
      | _ => rfl
    have hblocks := flatMap_inj hlengths hmethods _ hblock
    rw [Item.methodsFor, Item.methodsFor, hagree.owner?_eq hblock, if_pos howner, if_pos howner, List.map_map,
      List.map_map] at hblocks
    exact congrArg Entity.members (List.map_inj_left.mp hblocks m hm)

/-- A type that is shown can be read off the diagram, blanks aside: if the shown structs look the same in both
readings, so does the type. -/
theorem canonical_eq_of_shows {showVisibility : Bool} (hshows : Shows text items place)
    (hsame : ∀ s ∈ shownStructs items, PlantUml.typeAsShown showVisibility (s.entity text' items) =
      PlantUml.typeAsShown showVisibility (s.entity text items)) :
    Signature.canonical (text' place) = Signature.canonical (text place) := by
  cases hshows with
  | field s f hs hf htype =>
    rw [← htype]
    exact (hagree.members_eq_of_asShown (hsame s (mem_shownStructs.mpr hs))).1 f hf
  | parameter s block m pattern hs hblock howner hm hp hbound =>
    have hparameters := (hagree.members_eq_of_asShown (hsame s (mem_shownStructs.mpr hs))).2 block hblock howner m hm
    rw [List.filterMap_eq_flatMap_toList, List.filterMap_eq_flatMap_toList] at hparameters
    have hlengths : ∀ p ∈ m.parameters, (p.entity? text').toList.length = (p.entity? text).toList.length := by
      intro p hp
      have hcounts := hagree.isSome_entity?_eq hblock hm hp
      cases hentity' : p.entity? text' <;> cases hentity : p.entity? text <;> simp_all
    have hentity := flatMap_inj hlengths hparameters _ hp
    obtain ⟨name, hname⟩ := Option.isSome_iff_exists.mp hbound
    rw [Syntax.Parameter.entity?_typed, Syntax.Parameter.entity?_typed, hagree.pattern_eq hblock hm hp, hname] at hentity
    exact congrArg Entity.displayName (List.singleton_inj.mp hentity)

/-- The diagrams of two readings that differ in the text of one type, blanks aside, are the same exactly if the
type is not shown. From left to right the diagrams are read back, and so the names have to be legible. -/
theorem render_eq_iff (hdiffers : Signature.canonical (text' place) ≠ Signature.canonical (text place))
    (hnames : SourceUnit.LegiblyNamed ⟨none, items.filterMap (Item.read? text)⟩)
    (hnames' : SourceUnit.LegiblyNamed ⟨none, items.filterMap (Item.read? text')⟩) (showVisibility : Bool) :
    PlantUml.render showVisibility (Merge.described false (items.filterMap (Item.read? text'))) =
        PlantUml.render showVisibility (Merge.described false (items.filterMap (Item.read? text))) ↔
      ¬ Shows text items place := by
  have htypes {read : Span → String} (hlegible : SourceUnit.LegiblyNamed ⟨none, items.filterMap (Item.read? read)⟩) :
      ∀ e ∈ Merge.described false (items.filterMap (Item.read? read)), PlantUml.IsType e := fun e he =>
    PlantUml.isType_of_madeFrom hlegible (Merge.madeFrom_of_mem_described he)
  constructor
  · intro hrender hshows
    have hshown := PlantUml.map_typeAsShown_of_render_eq (htypes hnames') (htypes hnames) hrender
    rw [described_read, described_read, List.map_map, List.map_map] at hshown
    exact hdiffers (hagree.canonical_eq_of_shows hshows (List.map_inj_left.mp hshown))
  · intro hhidden
    rw [described_read, described_read]
    congr 1
    exact List.map_congr_left fun s hs => hagree.entity_eq_of_not_shows hhidden (mem_shownStructs.mp hs)

end AgreeBut

end ClassDiagram.Rust
