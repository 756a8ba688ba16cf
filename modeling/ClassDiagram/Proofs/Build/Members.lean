import ClassDiagram.Proofs.Build.Merge

namespace ClassDiagram

/-- An entity made from declarations: an enum, or a struct with its fields and methods of impl blocks. -/
inductive Entity.MadeFrom (ds : List Declaration) : Entity → Prop
  | struct (d : StructDeclaration) (methods : List MethodDeclaration) (hstruct : .struct d ∈ ds)
      (hmethods : ∀ m ∈ methods, ∃ block, .impl block ∈ ds ∧ m ∈ block.methods) :
      MadeFrom ds
        (.ofStruct d.name (d.fields.map Build.field ++ methods.map fun m => (Build.method m).1) d.visibility)
  | enum (d : EnumDeclaration) (henum : .enum d ∈ ds) : MadeFrom ds (.ofEnum d.name d.visibility)

namespace Merge

/-- The methods that declarations add to a struct are those of some of their impl blocks, in the order of the
blocks and of the functions in them. -/
theorem flatMap_methodsFor (ds : List Declaration) (name : String) :
    ∃ methods : List MethodDeclaration,
      ds.flatMap (methodsFor name) = methods.map (fun m => (Build.method m).1) ∧
      ∀ m ∈ methods, ∃ block, .impl block ∈ ds ∧ m ∈ block.methods := by
  induction ds with
  | nil => exact ⟨[], rfl, by simp⟩
  | cons d ds ih =>
    obtain ⟨methods, hmethods, hblocks⟩ := ih
    have hlater : ∀ m ∈ methods, ∃ block, .impl block ∈ d :: ds ∧ m ∈ block.methods := by
      intro m hm
      obtain ⟨block, hblock, hmem⟩ := hblocks m hm
      exact ⟨block, List.mem_cons_of_mem d hblock, hmem⟩
    rw [List.flatMap_cons, hmethods]
    cases d with
    | impl block =>
      rw [methodsFor]
      split
      · refine ⟨block.methods ++ methods, by simp, fun m hm => ?_⟩
        rcases List.mem_append.mp hm with hm | hm
        · exact ⟨block, List.mem_cons_self, hm⟩
        · exact hlater m hm
      · exact ⟨methods, rfl, hlater⟩
    | struct s => exact ⟨methods, rfl, hlater⟩
    | enum s => exact ⟨methods, rfl, hlater⟩
    | other kind => exact ⟨methods, rfl, hlater⟩

/-- Every described entity is made from declarations of its own unit. Nothing else gets into an entity, whatever
other units a builder has seen. -/
theorem madeFrom_of_mem_described {includeEnums : Bool} {ds : List Declaration} {e : Entity}
    (he : e ∈ described includeEnums ds) : e.MadeFrom ds := by
  rw [described, describedWith, List.mem_filterMap] at he
  obtain ⟨name, _, hentity⟩ := he
  obtain ⟨d, hfirst, hentity⟩ := Option.bind_eq_some_iff.mp hentity
  have hmem : d ∈ ds := List.mem_of_find?_eq_some hfirst
  cases d with
  | struct s =>
    obtain ⟨methods, hmethods, hblocks⟩ := flatMap_methodsFor ds s.name
    rw [entity?, hmethods] at hentity
    cases hentity
    exact .struct s methods hmem hblocks
  | enum s =>
    cases hentity
    exact .enum s hmem
  | impl s => cases hentity
  | other kind => cases hentity

end Merge

/-- The same for a list of units: an entity of the whole is made from the declarations of one of them.
Properties of all entities follow by cases on how they are made. -/
theorem Builder.madeFrom_of_mem_buildAll {b : Builder} {units : List SourceUnit} {e : Entity}
    (he : e ∈ (b.buildAll units).1) : ∃ unit ∈ units, e.MadeFrom unit.declarations := by
  rw [buildAll_fst, List.mem_flatMap] at he
  obtain ⟨unit, hunit, he⟩ := he
  exact ⟨unit, hunit, Merge.madeFrom_of_mem_described he⟩

namespace Build

/-- A parameter that is kept has a plain name and its type in canonical form, so neither holds anything that a
diagram would have to escape. -/
theorem parameter_eq_ok {d : ParameterDeclaration} {e : Entity} (hparameter : parameter d = .ok e) :
    ∃ name, isPlainName name = true ∧ e = .ofParameter name (Signature.canonical d.type) := by
  rw [parameter] at hparameter
  split at hparameter
  · cases hparameter
  · dsimp only at hparameter
    split at hparameter
    · next hplain =>
      cases hparameter
      exact ⟨_, hplain, rfl⟩
    · cases hparameter

/-- The parameters of a method bind plain names, and their types are in canonical form. Receivers and patterns
of other kinds are not among the members. -/
theorem mem_parameters {ds : List ParameterDeclaration} {e : Entity} (he : e ∈ (parameters ds).1) :
    ∃ d ∈ ds, ∃ name, isPlainName name = true ∧ e = .ofParameter name (Signature.canonical d.type) := by
  induction ds with
  | nil => cases he
  | cons d ds ih =>
    have hlater (hrest : e ∈ (parameters ds).1) :
        ∃ d' ∈ d :: ds, ∃ name, isPlainName name = true ∧
          e = .ofParameter name (Signature.canonical d'.type) := by
      obtain ⟨d', hd', hshape⟩ := ih hrest
      exact ⟨d', List.mem_cons_of_mem d hd', hshape⟩
    rw [parameters] at he
    cases hparameter : parameter d with
    | ok kept =>
      simp only [hparameter] at he
      rcases List.mem_cons.mp he with rfl | hrest
      · exact ⟨d, List.mem_cons_self, parameter_eq_ok hparameter⟩
      · exact hlater hrest
    | error skip =>
      simp only [hparameter] at he
      split at he
      · exact hlater he
      · exact hlater he

end Build

end ClassDiagram
