import ClassDiagram.Proofs.Diagram.Entries

namespace ClassDiagram

/-- No enum has the name of a struct that can stand in a diagram. -/
def EnumsApart (ds : List Declaration) : Prop :=
  ∀ s e, .struct s ∈ ds → s.shape ≠ .tuple → .enum e ∈ ds → e.name ≠ s.name

namespace Merge

/-- A declaration is a type with enums if it is one without them, or if it is an enum. So the tables of both
builds differ by the names of enums only. -/
theorem typeName?_true_eq_some {d : Declaration} {name : String} (htype : typeName? true d = some name) :
    typeName? false d = some name ∨ typeName? false d = none ∧ ∃ e, d = .enum e ∧ e.name = name := by
  cases d with
  | struct s => exact .inl htype
  | enum e => exact .inr ⟨rfl, e, rfl, Option.some.inj htype⟩
  | impl s => cases htype
  | other kind => cases htype

/-- What is a type without enums is a struct whose fields are not positional, and it is a type with enums just
as well. -/
theorem typeName?_false_eq_some {d : Declaration} {name : String} (htype : typeName? false d = some name) :
    typeName? true d = some name ∧ ∃ s, d = .struct s ∧ s.shape ≠ .tuple ∧ s.name = name := by
  cases d with
  | struct s =>
    refine ⟨htype, s, rfl, ?_⟩
    rw [typeName?] at htype
    split at htype
    · cases htype
    · next hshape => exact ⟨hshape, Option.some.inj htype⟩
  | enum e => cases htype
  | impl s => cases htype
  | other kind => cases htype

/-- Whether the name of a struct is taken does not hang on enums that keep apart from it. This is where the
enums of a unit could do harm, by a name that they take first. -/
theorem mem_typeNames_true_iff {ds : List Declaration} {name : String}
    (hapart : ∀ e, .enum e ∈ ds → e.name ≠ name) : name ∈ typeNames true ds ↔ name ∈ typeNames false ds := by
  rw [mem_typeNames, mem_typeNames]
  constructor
  · rintro ⟨d, hd, htype⟩
    obtain hstruct | ⟨_, e, rfl, hname⟩ := typeName?_true_eq_some htype
    · exact ⟨d, hd, hstruct⟩
    · exact absurd hname (hapart e hd)
  · rintro ⟨d, hd, htype⟩
    exact ⟨d, hd, (typeName?_false_eq_some htype).1⟩

theorem describedWith_concat_of_none {includeEnums : Bool} (ds : List Declaration) {d : Declaration}
    (htype : typeName? includeEnums d = none) (impls : List Declaration) :
    describedWith includeEnums (ds ++ [d]) impls = describedWith includeEnums ds impls :=
  describedWith_concat_of_mem_all ds (typeNames_concat_of_none ds htype) impls

/-- A declaration of a type at the end adds its entity if its name is new, and nothing otherwise. -/
theorem describedWith_concat_of_some {includeEnums : Bool} (ds : List Declaration) {d : Declaration}
    {name : String} (htype : typeName? includeEnums d = some name) (impls : List Declaration) :
    describedWith includeEnums (ds ++ [d]) impls =
      describedWith includeEnums ds impls ++
        if name ∈ typeNames includeEnums ds then [] else (entity? impls d).toList := by
  by_cases hknown : name ∈ typeNames includeEnums ds
  · have hnames := typeNames_concat_of_some ds htype
    rw [if_pos hknown] at hnames
    rw [if_pos hknown, List.append_nil, describedWith_concat_of_mem_all ds hnames]
  · rw [if_neg hknown, describedWith_concat_of_fresh ds htype hknown]

/-- The structs of a unit are the same with enums and without, with the methods that impl blocks give them. An
enum takes no place from a struct and is never added to. -/
theorem filter_struct_describedWith {ds : List Declaration} (hapart : EnumsApart ds) (impls : List Declaration) :
    (describedWith true ds impls).filter (·.kind = .struct) = describedWith false ds impls := by
  -- From the right: a struct at the end is new to both tables or to neither, and an enum at the end changes
  -- the one table by an entry that the filter drops.
  induction ds using List.reverseRecOn with
  | nil => rfl
  | append_singleton ds d ih =>
    have hearlier : EnumsApart ds := fun s e hs hshape he =>
      hapart s e (List.mem_append_left _ hs) hshape (List.mem_append_left _ he)
    cases htype : typeName? true d with
    | none =>
      have hneither : typeName? false d = none := by
        cases hfalse : typeName? false d with
        | none => rfl
        | some name => rw [(typeName?_false_eq_some hfalse).1] at htype; cases htype
      rw [describedWith_concat_of_none ds htype, describedWith_concat_of_none ds hneither, ih hearlier]
    | some name =>
      rw [describedWith_concat_of_some ds htype, List.filter_append, ih hearlier]
      obtain hstruct | ⟨hnone, e, rfl, _⟩ := typeName?_true_eq_some htype
      · obtain ⟨_, s, rfl, hshape, hname⟩ := typeName?_false_eq_some hstruct
        have hsame : name ∈ typeNames true ds ↔ name ∈ typeNames false ds :=
          mem_typeNames_true_iff fun e he =>
            hname ▸ hapart s e (by simp) hshape (List.mem_append_left _ he)
        rw [describedWith_concat_of_some ds hstruct]
        by_cases hknown : name ∈ typeNames false ds
        · rw [if_pos (hsame.mpr hknown), if_pos hknown]
          rfl
        · rw [if_neg (hsame.not.mpr hknown), if_neg hknown]
          rfl
      · rw [describedWith_concat_of_none ds hnone]
        split
        · exact List.append_nil _
        · exact List.append_nil _

/-- What is described is a struct or an enum, and an enum has no members. So there are no edges from an enum. -/
theorem kind_of_mem_described {includeEnums : Bool} {ds : List Declaration} {e : Entity}
    (he : e ∈ described includeEnums ds) : e.kind = .struct ∨ e.kind = .enum ∧ e.members = [] := by
  cases madeFrom_of_mem_described he with
  | struct d methods _ _ => exact .inl rfl
  | enum d _ => exact .inr ⟨rfl, rfl⟩

end Merge

namespace Builder

variable {on off : Builder}

/-- The same for a list of units, each of which is built by itself. Enums of other units may share the name of a
struct. -/
theorem filter_struct_buildAll (hon : on.includeEnums = true) (hoff : off.includeEnums = false)
    {units : List SourceUnit} (hapart : ∀ unit ∈ units, EnumsApart unit.declarations) :
    (on.buildAll units).1.filter (·.kind = .struct) = (off.buildAll units).1 := by
  rw [buildAll_fst, buildAll_fst, hon, hoff, List.filter_flatMap]
  refine List.flatMap_congr fun unit hunit => ?_
  exact Merge.filter_struct_describedWith (hapart unit hunit) unit.declarations

theorem kind_of_mem_buildAll {b : Builder} {units : List SourceUnit} {e : Entity}
    (he : e ∈ (b.buildAll units).1) : e.kind = .struct ∨ e.kind = .enum ∧ e.members = [] := by
  rw [buildAll_fst] at he
  obtain ⟨unit, _, he⟩ := List.mem_flatMap.mp he
  exact Merge.kind_of_mem_described he

end Builder

namespace PlantUml

/-- Is this the block of a class? -/
def isClassBlock (text : String) : Bool :=
  "class ".toList.isPrefixOf text.toList

/-- The first word of a block tells an enum from every other kind, with and without markers. -/
theorem isClassBlock_block (showVisibility : Bool) (e : Entity) :
    isClassBlock (block showVisibility e) = decide (e.kind ≠ .enum) := by
  by_cases henum : e.kind = .enum
  · simp [isClassBlock, block, henum, List.isPrefixOf]
  · simp [isClassBlock, block, henum, List.isPrefixOf]

/-- Among built entities the blocks of classes are those of the structs, since there are structs and enums only. -/
theorem isClassBlock_of_mem_buildAll {b : Builder} {units : List SourceUnit} {e : Entity}
    (he : e ∈ (b.buildAll units).1) (showVisibility : Bool) :
    isClassBlock (block showVisibility e) = decide (e.kind = .struct) := by
  rw [isClassBlock_block]
  obtain hstruct | ⟨henum, _⟩ := Builder.kind_of_mem_buildAll he
  · simp [hstruct]
  · simp [henum]

/-- The classes among the blocks that are drawn for units are those of the structs that were built. -/
theorem filter_isClassBlock (b : Builder) (units : List SourceUnit) (showVisibility : Bool) :
    (b.buildAll units).1.filter (isClassBlock ∘ block showVisibility) =
      (b.buildAll units).1.filter (·.kind = .struct) := by
  apply List.filter_congr
  intro e he
  exact isClassBlock_of_mem_buildAll he showVisibility

/-- The entries of classes are those of the structs: what is drawn of an enum begins with another word, so the
text of the block alone tells which entries a diagram without enums has as well. -/
theorem filter_isClassBlock_entries (b : Builder) (units : List SourceUnit) (showVisibility : Bool) :
    (entries showVisibility (b.buildAll units).1).filter (fun entry => isClassBlock entry.block) =
      ((b.buildAll units).1.filter (·.kind = .struct)).map
        (entryOf showVisibility (knownNames (b.buildAll units).1)) := by
  rw [← filter_isClassBlock b units showVisibility]
  exact List.filter_map

/-- Taking in enums adds to a diagram and changes nothing of what it showed. If no enum of a unit has the name
of a struct of the same unit, the structs with all their members are those of the diagram without enums, in
the same order; so are the blocks of classes; and each struct keeps its edges, in their order. Both diagrams
are nothing but their entries, so this is all that can be seen of the difference: the entries of classes stand
in the same order with more edges at most, and the other entries have none. -/
theorem structs_of_buildAll_enums (on off : Builder) (hon : on.includeEnums = true)
    (hoff : off.includeEnums = false) (units : List SourceUnit)
    (hapart : ∀ unit ∈ units, EnumsApart unit.declarations) :
    (on.buildAll units).1.filter (·.kind = .struct) = (off.buildAll units).1 ∧
      (∀ showVisibility, ((on.buildAll units).1.map (block showVisibility)).filter isClassBlock =
        (off.buildAll units).1.map (block showVisibility)) ∧
      (∀ e ∈ (off.buildAll units).1, (edges (knownNames (off.buildAll units).1) e).Sublist
        (edges (knownNames (on.buildAll units).1) e)) ∧
      (∀ e ∈ (on.buildAll units).1, e.kind ≠ .struct → edges (knownNames (on.buildAll units).1) e = []) ∧
      ∀ showVisibility,
        render showVisibility (on.buildAll units).1 = page (entries showVisibility (on.buildAll units).1) ∧
        render showVisibility (off.buildAll units).1 = page (entries showVisibility (off.buildAll units).1) ∧
        List.Forall₂ Entry.Grows (entries showVisibility (off.buildAll units).1)
          ((entries showVisibility (on.buildAll units).1).filter fun entry => isClassBlock entry.block) ∧
        ∀ entry ∈ entries showVisibility (on.buildAll units).1,
          isClassBlock entry.block = false → entry.edges = [] := by
  have hstructs := Builder.filter_struct_buildAll hon hoff hapart
  have hknown : knownNames (off.buildAll units).1 ⊆ knownNames (on.buildAll units).1 := by
    apply knownNames_subset
    rw [← hstructs]
    exact List.filter_sublist
  have hbare : ∀ e ∈ (on.buildAll units).1, e.kind ≠ .struct →
      edges (knownNames (on.buildAll units).1) e = [] := by
    intro e he hkind
    obtain hstruct | ⟨_, hmembers⟩ := Builder.kind_of_mem_buildAll he
    · exact absurd hstruct hkind
    · rw [edges_eq_flatMap, hmembers, List.flatMap_nil]
  refine ⟨hstructs, fun showVisibility => ?_, fun e _ => edges_sublist hknown e, hbare, fun showVisibility => ?_⟩
  · rw [List.filter_map, filter_isClassBlock, hstructs]
  · refine ⟨render_eq_page showVisibility _, render_eq_page showVisibility _, ?_, ?_⟩
    · rw [filter_isClassBlock_entries, hstructs, entries, List.forall₂_map_left_iff, List.forall₂_map_right_iff,
        List.forall₂_same]
      intro e _
      exact entryOf_grows hknown showVisibility e
    · intro entry hentry hclass
      obtain ⟨e, he, rfl⟩ := List.mem_map.mp hentry
      apply hbare e he
      intro hstruct
      have hblock : isClassBlock (block showVisibility e) = true := by
        rw [isClassBlock_of_mem_buildAll he, decide_eq_true hstruct]
      exact absurd (hblock.symm.trans hclass) (by decide)

/-- A struct with an enum in the type of a field, an impl block for that enum, and an enum of another unit that
has the name of the struct. -/
def ticketUnits : List SourceUnit :=
  [{ declarations :=
      [.enum { name := "State" },
        .struct { name := "Ticket", fields := [
          { name := "state", type := "Option<State>" }, { name := "next", type := "Ticket" }] },
        .impl { target := "State", methods := [{ name := "open" }] }] },
    { declarations := [.enum { name := "Ticket" }] }]

/-- The struct keeps its edge to itself, and gets two more with enums: one that hangs off the type of its field,
and one to that type. -/
theorem structs_of_ticketUnits :
    (∀ unit ∈ ticketUnits, EnumsApart unit.declarations) ∧
      (({ includeEnums := true } : Builder).buildAll ticketUnits).1.filter (·.kind = .struct) =
        (({} : Builder).buildAll ticketUnits).1 ∧
      (({} : Builder).buildAll ticketUnits).1.map (edges ["Ticket"]) = [[⟨"Ticket", "Ticket"⟩]] ∧
      ((({ includeEnums := true } : Builder).buildAll ticketUnits).1.filter (·.kind = .struct)).map
          (edges ["State", "Ticket", "Ticket"]) =
        [[⟨"Option<State>", "State"⟩, ⟨"Ticket", "Option<State>"⟩, ⟨"Ticket", "Ticket"⟩]] ∧
      List.Forall₂ Entry.Grows (entries true (({} : Builder).buildAll ticketUnits).1)
        ((entries true (({ includeEnums := true } : Builder).buildAll ticketUnits).1).filter fun entry =>
          isClassBlock entry.block) := by
  have hapart : ∀ unit ∈ ticketUnits, EnumsApart unit.declarations := by
    simp only [ticketUnits, EnumsApart, List.forall_mem_cons, List.not_mem_nil]
    refine ⟨?_, by simp, by simp⟩
    intro s e hs _ he
    obtain rfl : s = _ := by simpa using hs
    obtain rfl : e = _ := by simpa using he
    decide
  obtain ⟨hstructs, _, _, _, hentries⟩ :=
    structs_of_buildAll_enums { includeEnums := true } {} rfl rfl ticketUnits hapart
  obtain ⟨_, _, hgrow, _⟩ := hentries true
  exact ⟨hapart, hstructs, by decide +kernel, by decide +kernel, hgrow⟩

end PlantUml

end ClassDiagram
