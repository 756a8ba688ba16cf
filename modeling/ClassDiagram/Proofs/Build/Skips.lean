import ClassDiagram.Proofs.Build.Merge

namespace ClassDiagram

/-- The impl blocks of a unit. -/
def implsOf (ds : List Declaration) : List ImplDeclaration :=
  ds.filterMap fun
    | .impl d => some d
    | _ => none

theorem mem_implsOf {ds : List Declaration} {d : ImplDeclaration} : d ∈ implsOf ds ↔ .impl d ∈ ds := by
  rw [implsOf, List.mem_filterMap]
  constructor
  · rintro ⟨other, hother, hsame⟩
    cases other with
    | impl block =>
      cases hsame
      exact hother
    | struct s => cases hsame
    | enum s => cases hsame
    | other kind => cases hsame
  · exact fun hd => ⟨_, hd, rfl⟩

namespace Merge

/-- The skip of a declaration that gives no type of its own, where some names are taken by earlier ones. -/
def typeSkip? (includeEnums : Bool) (taken : List String) : Declaration → Option Skip
  | .struct d =>
    if d.shape = .tuple then some ⟨.tupleStruct, d.name⟩
    else if d.name ∈ taken then some ⟨.duplicateTypeName, d.name⟩ else none
  | .enum d =>
    if includeEnums = false then some ⟨.enum, d.name⟩
    else if d.name ∈ taken then some ⟨.duplicateTypeName, d.name⟩ else none
  | _ => none

/-- The skips of declarations that give no types of their own, behind others and in their order. -/
def typeSkipsAfter (includeEnums : Bool) (before : List Declaration) : List Declaration → List Skip
  | [] => []
  | d :: ds =>
    (typeSkip? includeEnums (typeNames includeEnums before) d).toList ++
      typeSkipsAfter includeEnums (before ++ [d]) ds

/-- The skips of the declarations of a unit that give no types of their own. -/
def typeSkips (includeEnums : Bool) (ds : List Declaration) : List Skip :=
  typeSkipsAfter includeEnums [] ds

/-- Is the type of a name a struct? -/
def isStructName (includeEnums : Bool) (ds : List Declaration) (name : String) : Bool :=
  match firstOf? includeEnums ds name with
  | some (.struct _) => true
  | _ => false

/-- The skip of an impl block that adds nothing: one for a trait, one whose target is no plain name, or one for a
name that is not that of a struct. -/
def implSkip? (isStruct : String → Bool) (d : ImplDeclaration) : Option Skip :=
  let name := Signature.canonical d.target
  if d.isTraitImpl then some ⟨.traitImpl, d.target⟩
  else if Build.isPlainName name = false then some ⟨.qualifiedTarget, name⟩
  else if isStruct name then none
  else some ⟨.undeclaredTarget, name⟩

/-- The skip of a parameter that binds no plain name and is no receiver. -/
def parameterSkip? (d : ParameterDeclaration) : Option Skip :=
  let name := String.ofList (Build.dropMut (Text.stripChars d.pattern.toList))
  if d.isReceiver ∨ Build.isPlainName name = true then none else some ⟨.nonIdentifierBinding, name⟩

/-- The skips of an impl block: one for the block as a whole, or else those of its parameters. -/
def implSkips (isStruct : String → Bool) : Declaration → List Skip
  | .impl d =>
    match implSkip? isStruct d with
    | some skip => [skip]
    | none => (d.methods.flatMap (·.parameters)).filterMap parameterSkip?
  | _ => []

/-- Skips are found from left to right, each with the names of all declarations in front of it taken, so a list
of declarations may be cut anywhere. -/
theorem typeSkipsAfter_append (includeEnums : Bool) (before ds more : List Declaration) :
    typeSkipsAfter includeEnums before (ds ++ more) =
      typeSkipsAfter includeEnums before ds ++ typeSkipsAfter includeEnums (before ++ ds) more := by
  induction ds generalizing before with
  | nil => simp [typeSkipsAfter]
  | cons d ds ih => simp [typeSkipsAfter, ih]

/-- A declaration at the end is skipped or not by what stands before it, and changes no earlier skip. -/
theorem typeSkips_concat (includeEnums : Bool) (ds : List Declaration) (d : Declaration) :
    typeSkips includeEnums (ds ++ [d]) =
      typeSkips includeEnums ds ++ (typeSkip? includeEnums (typeNames includeEnums ds) d).toList := by
  simp [typeSkips, typeSkipsAfter_append, typeSkipsAfter]

/-- The skips of a list of parameters are those of each parameter, since the skip of one does not depend on the
others. -/
theorem parameters_snd (ds : List ParameterDeclaration) :
    (Build.parameters ds).2 = ds.filterMap parameterSkip? := by
  induction ds with
  | nil => rfl
  | cons d ds ih =>
    rw [Build.parameters, Build.parameter, List.filterMap_cons, parameterSkip?]
    by_cases hreceiver : d.isReceiver = true
    · simp [hreceiver, ih]
    · by_cases hplain :
          Build.isPlainName (String.ofList (Build.dropMut (Text.stripChars d.pattern.toList))) = true
      · simp [hreceiver, hplain, ih]
      · simp [hreceiver, hplain, ih]

/-- The skips of the methods of a block are those of all their parameters, method by method. -/
theorem methods_snd (ms : List MethodDeclaration) :
    (Build.methods ms).2 = (ms.flatMap (·.parameters)).filterMap parameterSkip? := by
  induction ms with
  | nil => rfl
  | cons m ms ih => simp [Build.methods, Build.method, parameters_snd, ih]

/-- A name is that of a struct if the first declaration taken in under it is one. A later struct of the name is
a duplicate and does not count. -/
theorem isStructName_iff {includeEnums : Bool} {ds : List Declaration} {name : String} :
    isStructName includeEnums ds name = true ↔ ∃ s, firstOf? includeEnums ds name = some (.struct s) := by
  rw [isStructName]
  rcases firstOf? includeEnums ds name with _ | d
  · simp
  · cases d <;> simp

/-- The structs among the described entities have the names of structs. So the lookup of a target in the table
can be told from the declarations. -/
theorem any_struct_describedWith (includeEnums : Bool) (ds impls : List Declaration) (name : String) :
    ((describedWith includeEnums ds impls).any fun e => e.kind = .struct && e.displayName == name) =
      isStructName includeEnums ds name := by
  rw [Bool.eq_iff_iff, isStructName_iff, List.any_eq_true]
  constructor
  · rintro ⟨e, he, hstruct⟩
    obtain ⟨hkind, rfl⟩ : e.kind = .struct ∧ e.displayName = name := by simpa using hstruct
    obtain ⟨name, hname, hentity⟩ := List.mem_filterMap.mp he
    obtain ⟨d, e', hfirst, _, _, hentity', hdisplay⟩ := firstOf?_of_mem_typeNames hname impls
    rw [hfirst, Option.bind_some, hentity'] at hentity
    cases hentity
    rw [hdisplay]
    cases d with
    | struct s => exact ⟨s, hfirst⟩
    | enum s =>
      cases hentity'
      cases hkind
    | impl s => cases hentity'
    | other kind => cases hentity'
  · rintro ⟨s, hfirst⟩
    have htype : typeName? includeEnums (.struct s) = some name := by simpa using List.find?_some hfirst
    have hname := mem_typeNames.mpr ⟨_, List.mem_of_find?_eq_some hfirst, htype⟩
    obtain ⟨d, e, hfirst', _, _, hentity, hdisplay⟩ := firstOf?_of_mem_typeNames hname impls
    cases hfirst.symm.trans hfirst'
    refine ⟨e, List.mem_filterMap.mpr ⟨name, hname, by rw [hfirst, Option.bind_some, hentity]⟩, ?_⟩
    cases hentity
    simpa [Entity.ofStruct] using hdisplay

end Merge

namespace Model

open Merge

/-- An entity whose name is in the table already is recorded as a duplicate, under its own name. -/
theorem insert_skipped (m : Model) (e : Entity) :
    (m.insert e).skipped = m.skipped ++
      if e.displayName ∈ m.entities.map (·.displayName) then [⟨.duplicateTypeName, e.displayName⟩] else [] := by
  rw [insert]
  by_cases htaken : e.displayName ∈ m.entities.map (·.displayName)
  · rw [if_pos ((any_displayName_iff m _).mpr htaken), if_pos htaken, skip]
  · rw [if_neg ((any_displayName_iff m _).not.mpr htaken), if_neg htaken, List.append_nil]

/-- A step of the first pass records the skip that the declaration has where the names of the table are taken. -/
theorem addType_skipped (includeEnums : Bool) (m : Model) (d : Declaration) :
    (m.addType includeEnums d).skipped =
      m.skipped ++ (typeSkip? includeEnums (m.entities.map (·.displayName)) d).toList := by
  cases d with
  | struct d =>
    rw [addType, Build.struct, typeSkip?]
    by_cases htuple : d.shape = .tuple
    · simp [htuple, skip]
    · simp only [if_neg htuple, insert_skipped, Entity.ofStruct]
      split <;> rfl
  | enum d =>
    rw [addType, typeSkip?]
    cases includeEnums with
    | false => simp [skip]
    | true =>
      simp only [if_true, insert_skipped, Entity.ofEnum, Bool.true_eq_false, if_false]
      split <;> rfl
  | impl d => exact (List.append_nil _).symm
  | other kind => exact (List.append_nil _).symm

/-- After the first pass the skips are those of declarations that give no types of their own. The names of the
table are at each step those of the declarations before. -/
theorem foldl_addType_skipped (includeEnums : Bool) (ds : List Declaration) :
    (ds.foldl (addType includeEnums) {}).skipped = typeSkips includeEnums ds := by
  induction ds using List.reverseRecOn with
  | nil => rfl
  | append_singleton ds d ih =>
    rw [List.foldl_concat, addType_skipped, ih, foldl_addType_entities, map_displayName_describedWith,
      typeSkips_concat]

/-- Is there a struct of a name in the table? -/
def hasStruct (m : Model) (name : String) : Bool :=
  m.entities.any fun e => e.kind = .struct && e.displayName == name

/-- Which structs there are is settled by the first pass; impl blocks add to structs but never make one. -/
theorem hasStruct_addImpl (m : Model) (d : Declaration) : (m.addImpl d).hasStruct = m.hasStruct := by
  funext name
  rw [hasStruct, hasStruct, addImpl_entities, List.any_map]
  congr 1
  funext e
  rw [Function.comp, attach]
  split <;> rfl

/-- A step of the second pass records the skips of one impl block, looked up among the structs of the table. -/
theorem addImpl_skipped (m : Model) (d : Declaration) :
    (m.addImpl d).skipped = m.skipped ++ implSkips m.hasStruct d := by
  cases d with
  | impl d =>
    rw [addImpl, Build.target, implSkips, implSkip?]
    by_cases htrait : d.isTraitImpl = true
    · simp [htrait, skip]
    · by_cases hplain : Build.isPlainName (Signature.canonical d.target) = true
      · simp only [htrait, hplain, Bool.false_eq_true, if_false, if_true, Bool.true_eq_false]
        by_cases hstruct : m.hasStruct (Signature.canonical d.target) = true
        · rw [if_pos hstruct]
          rw [hasStruct] at hstruct
          rw [if_pos hstruct, ← methods_snd]
          rfl
        · rw [if_neg hstruct]
          rw [hasStruct] at hstruct
          rw [if_neg hstruct]
          rfl
      · simp [htrait, hplain, skip]
  | struct d => exact (List.append_nil _).symm
  | enum d => exact (List.append_nil _).symm
  | other kind => exact (List.append_nil _).symm

/-- All impl blocks are looked up among the same structs, so the skips of the second pass are those of each
block, in their order. -/
theorem foldl_addImpl_skipped (ds : List Declaration) (m : Model) :
    (ds.foldl addImpl m).skipped = m.skipped ++ ds.flatMap (implSkips m.hasStruct) := by
  induction ds generalizing m with
  | nil => simp
  | cons d ds ih =>
    rw [List.foldl_cons, ih, addImpl_skipped, hasStruct_addImpl, List.flatMap_cons, List.append_assoc]

end Model

/-- All skips of the first pass stand before all of the second. The first pass skips the declarations that give
no type of their own, the second the impl blocks without a struct to add to, and for each other block the
parameters that bind no plain name. -/
theorem build_skipped (includeEnums : Bool) (ds : List Declaration) :
    (build includeEnums ds).skipped =
      Merge.typeSkips includeEnums ds ++ ds.flatMap (Merge.implSkips (Merge.isStructName includeEnums ds)) := by
  have hstructs : (ds.foldl (Model.addType includeEnums) {}).hasStruct = Merge.isStructName includeEnums ds := by
    funext name
    rw [Model.hasStruct, Model.foldl_addType_entities, Merge.any_struct_describedWith]
  rw [build, Model.foldl_addImpl_skipped, Model.foldl_addType_skipped, hstructs]

end ClassDiagram
