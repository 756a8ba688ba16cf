import ClassDiagram.Proofs.Build.Independent
import ClassDiagram.Proofs.Pipeline.Stages

namespace ClassDiagram

namespace Pipeline

/-- The entities of units that one builder builds in turn. -/
def buildInTurn (units : List SourceUnit) : StateT Builder Job (List Entity) := do
  return (← units.mapM build).flatten

/-- Building units in turn gives what the builder makes of them, and records besides. -/
theorem onlyNotes_mapM_build (units : List SourceUnit) (b : Builder) :
    ∃ found, found.flatten = (b.buildAll units).1 ∧
      Job.OnlyNotes ((units.mapM build).run b) (found, (b.buildAll units).2) := by
  induction units generalizing b with
  | nil => exact ⟨[], rfl, .pure _⟩
  | cons unit units ih =>
    obtain ⟨found, hflatten, hnotes⟩ := ih (b.build unit).2
    refine ⟨(b.build unit).1 :: found, congrArg ((b.build unit).1 ++ ·) hflatten, ?_⟩
    rw [List.mapM_cons, StateT.run_bind]
    refine .bind (onlyNotes_build unit b) ?_
    rw [StateT.run_bind]
    exact .bind hnotes (.pure _)

/-- Each unit gives its entities, whatever was built before it, and the reports change nothing about them. -/
theorem outcome_buildInTurn (units : List SourceUnit) (b : Builder) (w : Workspace) :
    (((buildInTurn units).run' b).outcome w).1 =
      .ok (units.flatMap fun unit => Merge.described b.includeEnums unit.declarations) := by
  obtain ⟨found, hflatten, records, hnotes⟩ := onlyNotes_mapM_build units b
  rw [← Builder.buildAll_fst, ← hflatten, buildInTurn]
  simp only [StateT.run'_eq, StateT.run_bind, map_eq_pure_bind, bind_assoc]
  rw [Job.outcome_bind_of_ok (hnotes w)]
  rfl

end Pipeline

namespace Builder

/-- Independent parts of a unit are built side by side: the entities of the one stand before those of the other,
and the skips are those of both, in another order. Hence a unit among others can be split into such parts, in
any workspace, and the entities that are drawn stay the same. The order of skips differs because a builder looks
at all types of a unit first and then at all its impl blocks. -/
theorem build_append (b : Builder) {ds more : List Declaration} (hapart : Independent b.includeEnums ds more)
    (path path₁ path₂ : Option String) :
    let whole : SourceUnit := ⟨path, ds ++ more⟩
    let first : SourceUnit := ⟨path₁, ds⟩
    let second : SourceUnit := ⟨path₂, more⟩
    (b.build whole).1 = (b.build first).1 ++ (b.build second).1 ∧
      (b.build whole).1.map (·.displayName) =
        Merge.typeNames b.includeEnums ds ++ Merge.typeNames b.includeEnums more ∧
      (b.build whole).2.skipped.Perm ((b.build first).2.skipped ++ (b.build second).2.skipped) ∧
      ∀ (before after : List SourceUnit) (w w' : Workspace), ∃ entities,
        (((Pipeline.buildInTurn (before ++ whole :: after)).run' b).outcome w).1 = .ok entities ∧
          (((Pipeline.buildInTurn (before ++ first :: second :: after)).run' b).outcome w').1 = .ok entities := by
  intro whole first second
  have hentities := build_append_entities hapart
  have hnames : (b.build whole).1.map (·.displayName) =
      Merge.typeNames b.includeEnums ds ++ Merge.typeNames b.includeEnums more := by
    rw [build_fst, Merge.described, Merge.map_displayName_describedWith, Merge.typeNames_append hapart.names]
  refine ⟨hentities, hnames, build_append_skipped hapart, fun before after w w' => ?_⟩
  refine ⟨_, Pipeline.outcome_buildInTurn _ b w, ?_⟩
  rw [Pipeline.outcome_buildInTurn, List.flatMap_append, List.flatMap_append, List.flatMap_cons, List.flatMap_cons,
    List.flatMap_cons, Merge.described_append hapart, List.append_assoc]

/-- A unit with a struct, an impl block for it, one for an unknown type and a tuple struct. -/
def shelfDeclarations : List Declaration :=
  [.struct { name := "Shelf", fields := [{ name := "books", type := "Vec<Book>" }] },
    .impl { target := "Shelf", methods := [
      { name := "add", parameters := [{ pattern := "book", type := "Book" }] }] },
    .impl { target := "Room" }, .struct { name := "Width", shape := .tuple }]

/-- A unit with an implementation of a trait for the struct of the other unit, a struct and an enum of its name. -/
def bookDeclarations : List Declaration :=
  [.impl { target := "Shelf", isTraitImpl := true }, .struct { name := "Book" }, .enum { name := "Book" },
    .impl { target := "Book", methods := [{ name := "open", parameters := [{ pattern := "(a, b)" }] }] }]

/-- The skips of a unit made of both stand in neither order of the two lists. -/
theorem build_shelf_book :
    Independent true shelfDeclarations bookDeclarations ∧
      (({ includeEnums := true } : Builder).build ⟨none, shelfDeclarations ++ bookDeclarations⟩).1 =
        (({ includeEnums := true } : Builder).build ⟨none, shelfDeclarations⟩).1 ++
          (({ includeEnums := true } : Builder).build ⟨none, bookDeclarations⟩).1 ∧
      (({ includeEnums := true } : Builder).build ⟨none, shelfDeclarations ++ bookDeclarations⟩).2.skipped =
        [⟨.tupleStruct, "Width"⟩, ⟨.duplicateTypeName, "Book"⟩, ⟨.undeclaredTarget, "Room"⟩, ⟨.traitImpl, "Shelf"⟩,
          ⟨.nonIdentifierBinding, "(a, b)"⟩] ∧
      (({ includeEnums := true } : Builder).build ⟨none, shelfDeclarations⟩).2.skipped =
        [⟨.tupleStruct, "Width"⟩, ⟨.undeclaredTarget, "Room"⟩] ∧
      (({ includeEnums := true } : Builder).build ⟨none, bookDeclarations⟩).2.skipped =
        [⟨.duplicateTypeName, "Book"⟩, ⟨.traitImpl, "Shelf"⟩, ⟨.nonIdentifierBinding, "(a, b)"⟩] := by
  have hapart : Independent true shelfDeclarations bookDeclarations := by decide +kernel
  obtain ⟨hentities, _⟩ := build_append { includeEnums := true } hapart none none none
  exact ⟨hapart, hentities, by decide +kernel, by decide +kernel, by decide +kernel⟩

end Builder

end ClassDiagram
