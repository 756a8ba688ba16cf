import ClassDiagram.Entity.Build
import Mathlib.Data.List.Basic
import Mathlib.Data.List.Induction

namespace ClassDiagram

namespace Merge

/-- The name under which a declaration is taken in as a type, if it is. -/
def typeName? (includeEnums : Bool) : Declaration → Option String
  | .struct d => if d.shape = .tuple then none else some d.name
  | .enum d => if includeEnums then some d.name else none
  | _ => none

/-- The names of the types of a unit, each once, in the order of their first declarations. -/
def typeNames (includeEnums : Bool) (ds : List Declaration) : List String :=
  (ds.filterMap (typeName? includeEnums)).eraseDups

/-- The declaration that describes the type of a name: the first one taken in under it. -/
def firstOf? (includeEnums : Bool) (ds : List Declaration) (name : String) : Option Declaration :=
  ds.find? fun d => typeName? includeEnums d = some name

/-- The methods that a declaration adds to the struct of a name: those of an impl block for this very name
that implements no trait. -/
def methodsFor (name : String) : Declaration → List Entity
  | .impl d =>
    if d.isTraitImpl = false ∧ Signature.canonical d.target = name ∧ Build.isPlainName name = true then
      d.methods.map fun m => (Build.method m).1
    else []
  | _ => []

/-- The entity of a declared type, with the methods that the declarations `impls` add to it. -/
def entity? (impls : List Declaration) : Declaration → Option Entity
  | .struct d =>
    some (.ofStruct d.name (d.fields.map Build.field ++ impls.flatMap (methodsFor d.name)) d.visibility)
  | .enum d => some (.ofEnum d.name d.visibility)
  | _ => none

/-- One entity for each name of a type, described by its first declaration and by `impls`. -/
def describedWith (includeEnums : Bool) (ds impls : List Declaration) : List Entity :=
  (typeNames includeEnums ds).filterMap fun name => (firstOf? includeEnums ds name).bind (entity? impls)

/-- The entities of a unit. -/
def described (includeEnums : Bool) (ds : List Declaration) : List Entity :=
  describedWith includeEnums ds ds

/-- A name is among the names of a unit if some declaration is taken in under it, whichever comes first. -/
theorem mem_typeNames {includeEnums : Bool} {ds : List Declaration} {name : String} :
    name ∈ typeNames includeEnums ds ↔ ∃ d ∈ ds, typeName? includeEnums d = some name := by
  rw [typeNames, List.mem_eraseDups, List.mem_filterMap]

theorem typeNames_concat_of_none {includeEnums : Bool} (ds : List Declaration) {d : Declaration}
    (htype : typeName? includeEnums d = none) :
    typeNames includeEnums (ds ++ [d]) = typeNames includeEnums ds := by
  simp [typeNames, List.filterMap_append, htype]

/-- A declaration at the end adds its name unless an earlier one did. Together with the case of no name this
computes the names of a unit one declaration at a time. -/
theorem typeNames_concat_of_some {includeEnums : Bool} (ds : List Declaration) {d : Declaration}
    {name : String} (htype : typeName? includeEnums d = some name) :
    typeNames includeEnums (ds ++ [d]) =
      if name ∈ typeNames includeEnums ds then typeNames includeEnums ds
      else typeNames includeEnums ds ++ [name] := by
  have hstep : typeNames includeEnums (ds ++ [d]) = typeNames includeEnums ds ++
      (List.removeAll [name] (ds.filterMap (typeName? includeEnums))).eraseDups := by
    simp [typeNames, List.filterMap_append, List.eraseDups_append, htype]
  rw [hstep]
  by_cases hknown : name ∈ ds.filterMap (typeName? includeEnums)
  · have hremoved : List.removeAll [name] (ds.filterMap (typeName? includeEnums)) = [] := by
      simpa [List.removeAll] using hknown
    rw [if_pos (by simpa [typeNames] using hknown), hremoved]
    simp
  · have hkept : List.removeAll [name] (ds.filterMap (typeName? includeEnums)) = [name] := by
      simpa [List.removeAll] using hknown
    rw [if_neg (by simpa [typeNames] using hknown), hkept]
    simp [List.eraseDups_cons]

/-- No name is listed twice, so the types of a unit can be counted by their names and found by them. -/
theorem typeNames_nodup (includeEnums : Bool) (ds : List Declaration) :
    (typeNames includeEnums ds).Nodup := by
  induction ds using List.reverseRecOn with
  | nil => simp [typeNames]
  | append_singleton ds d ih =>
    cases htype : typeName? includeEnums d with
    | none => rwa [typeNames_concat_of_none ds htype]
    | some name =>
      rw [typeNames_concat_of_some ds htype]
      split
      · exact ih
      · next hfresh =>
        refine List.nodup_append.mpr ⟨ih, by simp, fun a ha b hb => ?_⟩
        rw [List.mem_singleton.mp hb]
        exact ne_of_mem_of_not_mem ha hfresh

/-- The declaration that a name of a type leads to, with the entity that it describes. It is one of the unit, it
is taken in under this name, and its entity is called by it. -/
theorem firstOf?_of_mem_typeNames {includeEnums : Bool} {ds : List Declaration} {name : String}
    (hname : name ∈ typeNames includeEnums ds) (impls : List Declaration) :
    ∃ d e, firstOf? includeEnums ds name = some d ∧ d ∈ ds ∧ typeName? includeEnums d = some name ∧
      entity? impls d = some e ∧ e.displayName = name := by
  obtain ⟨d₀, hd₀, hname₀⟩ := mem_typeNames.mp hname
  have hfound : (firstOf? includeEnums ds name).isSome := by
    rw [firstOf?, List.find?_isSome]
    exact ⟨d₀, hd₀, by simpa using hname₀⟩
  obtain ⟨d, hfirst⟩ := Option.isSome_iff_exists.mp hfound
  have htype : typeName? includeEnums d = some name := by
    simpa using List.find?_some hfirst
  have hmem : d ∈ ds := List.mem_of_find?_eq_some hfirst
  cases d with
  | struct s =>
    have hsame : s.name = name := by
      rw [typeName?] at htype
      split at htype
      · cases htype
      · exact Option.some.inj htype
    exact ⟨_, _, hfirst, hmem, htype, rfl, hsame⟩
  | enum s =>
    have hsame : s.name = name := by
      rw [typeName?] at htype
      split at htype
      · exact Option.some.inj htype
      · cases htype
    exact ⟨_, _, hfirst, hmem, htype, rfl, hsame⟩
  | impl s => cases htype
  | other kind => cases htype

/-- An entity after the methods that the declarations `impls` add to it. -/
def attach (impls : List Declaration) (e : Entity) : Entity :=
  if e.kind = .struct then { e with members := e.members ++ impls.flatMap (methodsFor e.displayName) } else e

theorem attach_append (impls more : List Declaration) (e : Entity) :
    attach (impls ++ more) e = attach more (attach impls e) := by
  by_cases hstruct : e.kind = .struct
  · simp [attach, hstruct]
  · simp [attach, hstruct]

/-- An entity to which none of the declarations adds anything stays as it is; enums always do, since only
structs are given methods. -/
theorem attach_eq_self {impls : List Declaration} {e : Entity}
    (hnone : e.kind = .struct → impls.flatMap (methodsFor e.displayName) = []) : attach impls e = e := by
  by_cases hstruct : e.kind = .struct
  · rw [attach, if_pos hstruct, hnone hstruct, List.append_nil]
    cases e
    rfl
  · rw [attach, if_neg hstruct]

/-- Describing a declaration and attaching methods afterwards is the same as describing it with these methods at
once. This is what makes one formula of the two passes. -/
theorem map_attach_entity? (impls : List Declaration) (d : Declaration) :
    (entity? [] d).map (attach impls) = entity? impls d := by
  cases d with
  | struct s => simp [entity?, attach, Entity.ofStruct]
  | enum s => simp [entity?, attach, Entity.ofEnum]
  | impl s => rfl
  | other kind => rfl

/-- The second pass turns the table of the first into the table that is described with the impl blocks. Each
entity is changed at its place. -/
theorem map_attach_describedWith (includeEnums : Bool) (ds impls : List Declaration) :
    (describedWith includeEnums ds []).map (attach impls) = describedWith includeEnums ds impls := by
  rw [describedWith, List.map_filterMap, describedWith]
  refine List.filterMap_congr fun name _ => ?_
  cases firstOf? includeEnums ds name with
  | none => rfl
  | some d => exact map_attach_entity? impls d

/-- The described entities are called by the names of the unit, in the order of the names; methods that are
added change nothing about it. -/
theorem map_displayName_describedWith (includeEnums : Bool) (ds impls : List Declaration) :
    (describedWith includeEnums ds impls).map (·.displayName) = typeNames includeEnums ds := by
  rw [describedWith, List.map_filterMap]
  have hsome : ∀ name ∈ typeNames includeEnums ds,
      ((firstOf? includeEnums ds name).bind (entity? impls)).map (·.displayName) = some name := by
    intro name hname
    obtain ⟨d, e, hfirst, _, _, hentity, hdisplay⟩ := firstOf?_of_mem_typeNames hname impls
    simp [hfirst, hentity, hdisplay]
  calc (typeNames includeEnums ds).filterMap _
      = (typeNames includeEnums ds).filterMap some := List.filterMap_congr hsome
    _ = typeNames includeEnums ds := List.filterMap_some

/-- Declarations at the end leave the entities of earlier names as they are: the first declaration of a name is
the one that counts. -/
theorem firstOf?_append_of_mem {includeEnums : Bool} {ds : List Declaration} {name : String}
    (hname : name ∈ typeNames includeEnums ds) (more : List Declaration) :
    firstOf? includeEnums (ds ++ more) name = firstOf? includeEnums ds name := by
  obtain ⟨first, _, hfirst, _⟩ := firstOf?_of_mem_typeNames hname []
  rw [firstOf?] at hfirst
  rw [firstOf?, firstOf?, List.find?_append, hfirst, Option.some_or]

theorem firstOf?_eq_none {includeEnums : Bool} {ds : List Declaration} {name : String}
    (hname : name ∉ typeNames includeEnums ds) : firstOf? includeEnums ds name = none := by
  rw [firstOf?, List.find?_eq_none]
  intro d hd hsame
  exact hname (mem_typeNames.mpr ⟨d, hd, by simpa using hsame⟩)

/-- A name that no earlier declaration takes is described by what comes later, as if the earlier ones were not
there. -/
theorem firstOf?_append_of_not_mem {includeEnums : Bool} {ds : List Declaration} {name : String}
    (hname : name ∉ typeNames includeEnums ds) (more : List Declaration) :
    firstOf? includeEnums (ds ++ more) name = firstOf? includeEnums more name := by
  have hnone := firstOf?_eq_none hname
  rw [firstOf?] at hnone
  rw [firstOf?, firstOf?, List.find?_append, hnone, Option.none_or]

/-- A declaration at the end that adds no name adds no entity, be it of another kind or a duplicate of an
earlier one. -/
theorem describedWith_concat_of_mem_all {includeEnums : Bool} (ds : List Declaration) {d : Declaration}
    (hnames : typeNames includeEnums (ds ++ [d]) = typeNames includeEnums ds) (impls : List Declaration) :
    describedWith includeEnums (ds ++ [d]) impls = describedWith includeEnums ds impls := by
  rw [describedWith, hnames, describedWith]
  refine List.filterMap_congr fun name hname => ?_
  rw [firstOf?_append_of_mem hname]

/-- The names of two units that share none are those of the first and then those of the second. -/
theorem typeNames_append {includeEnums : Bool} {ds more : List Declaration}
    (hapart : ∀ name ∈ typeNames includeEnums ds, name ∉ typeNames includeEnums more) :
    typeNames includeEnums (ds ++ more) = typeNames includeEnums ds ++ typeNames includeEnums more := by
  have hkept : List.removeAll (more.filterMap (typeName? includeEnums)) (ds.filterMap (typeName? includeEnums)) =
      more.filterMap (typeName? includeEnums) := by
    rw [List.removeAll, List.filter_eq_self]
    intro name hmore
    have hfresh : name ∉ ds.filterMap (typeName? includeEnums) := by
      intro hds
      exact hapart name (List.mem_eraseDups.mpr hds) (List.mem_eraseDups.mpr hmore)
    simpa using hfresh
  rw [typeNames, List.filterMap_append, List.eraseDups_append, hkept, typeNames, typeNames]

/-- Units that share no names of types have their entities side by side. With a shared name the second unit
would lose the entity to the first. -/
theorem describedWith_append {includeEnums : Bool} {ds more : List Declaration}
    (hapart : ∀ name ∈ typeNames includeEnums ds, name ∉ typeNames includeEnums more) (impls : List Declaration) :
    describedWith includeEnums (ds ++ more) impls =
      describedWith includeEnums ds impls ++ describedWith includeEnums more impls := by
  rw [describedWith, typeNames_append hapart, List.filterMap_append, describedWith, describedWith]
  congr 1
  · refine List.filterMap_congr fun name hname => ?_
    rw [firstOf?_append_of_mem hname]
  · refine List.filterMap_congr fun name hname => ?_
    rw [firstOf?_append_of_not_mem fun hds => hapart name hds hname]

/-- A declaration at the end with a new name adds its entity at the end, already with the methods of the given
blocks. -/
theorem describedWith_concat_of_fresh {includeEnums : Bool} (ds : List Declaration) {d : Declaration}
    {name : String} (htype : typeName? includeEnums d = some name)
    (hfresh : name ∉ typeNames includeEnums ds) (impls : List Declaration) :
    describedWith includeEnums (ds ++ [d]) impls =
      describedWith includeEnums ds impls ++ (entity? impls d).toList := by
  have hname : typeNames includeEnums [d] = [name] := by simp [typeNames, htype, List.eraseDups_cons]
  have hone : describedWith includeEnums [d] impls = (entity? impls d).toList := by
    rw [describedWith, hname]
    cases hentity : entity? impls d <;> simp [firstOf?, htype, hentity]
  rw [describedWith_append, hone]
  intro other hother hsame
  rw [hname, List.mem_singleton] at hsame
  exact hfresh (hsame ▸ hother)

theorem methods_fst (ms : List MethodDeclaration) :
    (Build.methods ms).1 = ms.map fun m => (Build.method m).1 := by
  induction ms with
  | nil => rfl
  | cons m rest ih => simp [Build.methods, ih]

/-- A block whose target cannot be read gives methods to no struct, whatever its name. -/
theorem methodsFor_of_target_error {s : ImplDeclaration} {skip : Skip}
    (htarget : Build.target s = .error skip) (name : String) : methodsFor name (.impl s) = [] := by
  rw [methodsFor, if_neg]
  rintro ⟨htrait, rfl, hplain⟩
  simp [Build.target, htrait, hplain] at htarget

/-- A block gives all its functions to the struct that its target names, and nothing to others. -/
theorem methodsFor_of_target_ok {s : ImplDeclaration} {target : String}
    (htarget : Build.target s = .ok target) (name : String) :
    methodsFor name (.impl s) = if name = target then (Build.methods s.methods).1 else [] := by
  rw [Build.target] at htarget
  split at htarget
  · cases htarget
  · next htrait =>
    dsimp only at htarget
    split at htarget
    · next hplain =>
      cases htarget
      by_cases hname : name = Signature.canonical s.target
      · subst hname
        simp [methodsFor, htrait, hplain, methods_fst]
      · simp [methodsFor, hname, Ne.symm hname]
    · cases htarget

end Merge

namespace Model

open Merge

/-- The table is searched by name; this states the search as membership among the names of its entities. -/
theorem any_displayName_iff (m : Model) (name : String) :
    m.entities.any (·.displayName == name) = true ↔ name ∈ m.entities.map (·.displayName) := by
  simp [List.any_eq_true]

/-- Taking in an entity adds it at the end unless its name is in the table; the entity that has the name stays
as it was. -/
theorem insert_entities (m : Model) (e : Entity) :
    (m.insert e).entities =
      if e.displayName ∈ m.entities.map (·.displayName) then m.entities else m.entities ++ [e] := by
  rw [insert]
  by_cases htaken : e.displayName ∈ m.entities.map (·.displayName)
  · rw [if_pos ((any_displayName_iff m _).mpr htaken), if_pos htaken, skip]
  · rw [if_neg ((any_displayName_iff m _).not.mpr htaken), if_neg htaken]

theorem addType_entities_of_none {includeEnums : Bool} (m : Model) {d : Declaration}
    (htype : typeName? includeEnums d = none) : (m.addType includeEnums d).entities = m.entities := by
  cases d with
  | struct s =>
    have htuple : s.shape = .tuple := by
      by_contra hshape
      simp [typeName?, hshape] at htype
    simp [addType, Build.struct, htuple, skip]
  | enum s =>
    have henums : includeEnums = false := by
      cases includeEnums
      · rfl
      · simp [typeName?] at htype
    simp [addType, henums, skip]
  | impl s => rfl
  | other kind => rfl

/-- The first pass takes in a declaration of a type with its fields alone. Methods are for the second pass, when
all structs are known. -/
theorem addType_entities_of_some {includeEnums : Bool} (m : Model) {d : Declaration} {name : String}
    (htype : typeName? includeEnums d = some name) :
    (m.addType includeEnums d).entities =
      if name ∈ m.entities.map (·.displayName) then m.entities else m.entities ++ (entity? [] d).toList := by
  cases d with
  | struct s =>
    rw [typeName?] at htype
    split at htype
    · cases htype
    · next hshape =>
      cases htype
      simp only [addType, Build.struct, if_neg hshape]
      rw [insert_entities]
      simp [entity?, Entity.ofStruct]
  | enum s =>
    rw [typeName?] at htype
    split at htype
    · next henums =>
      cases htype
      simp only [addType, if_pos henums]
      rw [insert_entities]
      simp [entity?, Entity.ofEnum]
    · cases htype
  | impl s => cases htype
  | other kind => cases htype

/-- After the first pass the table holds the types of the unit with their fields. The induction adds
declarations at the end, as the pass does. -/
theorem foldl_addType_entities (includeEnums : Bool) (ds : List Declaration) :
    (ds.foldl (addType includeEnums) {}).entities = describedWith includeEnums ds [] := by
  -- From the right: the names in the table are those of the declarations before, which decides between a
  -- new entry and a duplicate.
  induction ds using List.reverseRecOn with
  | nil => rfl
  | append_singleton ds d ih =>
    rw [List.foldl_concat]
    cases htype : typeName? includeEnums d with
    | none =>
      rw [addType_entities_of_none _ htype, ih]
      exact (describedWith_concat_of_mem_all ds (typeNames_concat_of_none ds htype) []).symm
    | some name =>
      rw [addType_entities_of_some _ htype, ih, map_displayName_describedWith]
      by_cases hknown : name ∈ typeNames includeEnums ds
      · rw [if_pos hknown]
        have hnames := typeNames_concat_of_some ds htype
        rw [if_pos hknown] at hnames
        exact (describedWith_concat_of_mem_all ds hnames []).symm
      · rw [if_neg hknown]
        exact (describedWith_concat_of_fresh ds htype hknown []).symm

/-- Declarations that give nothing to any struct of the table leave the table as it is. -/
theorem map_attach_eq_self {m : Model} {impls : List Declaration}
    (hnone : ∀ e ∈ m.entities, e.kind = .struct → impls.flatMap (methodsFor e.displayName) = []) :
    m.entities.map (attach impls) = m.entities := by
  calc m.entities.map (attach impls)
      = m.entities.map id := List.map_congr_left fun e he => attach_eq_self (hnone e he)
    _ = m.entities := List.map_id _

/-- The second pass adds the methods of an impl block to the struct of its name and to nothing else, also not to
an enum of that name. -/
theorem addImpl_entities (m : Model) (d : Declaration) :
    (m.addImpl d).entities = m.entities.map (attach [d]) := by
  cases d with
  | struct s => exact (map_attach_eq_self (by simp [methodsFor])).symm
  | enum s => exact (map_attach_eq_self (by simp [methodsFor])).symm
  | other kind => exact (map_attach_eq_self (by simp [methodsFor])).symm
  | impl s =>
    rw [addImpl]
    cases htarget : Build.target s with
    | error s' => exact (map_attach_eq_self (by simp [methodsFor_of_target_error htarget])).symm
    | ok target =>
      dsimp only
      split
      · refine List.map_congr_left fun e _ => ?_
        by_cases hstruct : e.kind = .struct
        · by_cases hname : e.displayName = target
          · simp [attach, hstruct, hname, methodsFor_of_target_ok htarget]
          · rw [attach_eq_self (by simp [hname, methodsFor_of_target_ok htarget])]
            simp [hname]
        · simp [attach, hstruct]
      · next hundeclared =>
        refine (map_attach_eq_self fun e he hstruct => ?_).symm
        have hname : e.displayName ≠ target := by
          intro hsame
          exact hundeclared (List.any_eq_true.mpr ⟨e, he, by simp [hstruct, hsame]⟩)
        simp [methodsFor_of_target_ok htarget, hname]

/-- After the second pass every struct of the table has the methods of its impl blocks, those of the first block
in front. -/
theorem foldl_addImpl_entities (ds : List Declaration) (m : Model) :
    (ds.foldl addImpl m).entities = m.entities.map (attach ds) := by
  induction ds using List.reverseRecOn with
  | nil => exact (map_attach_eq_self (by simp)).symm
  | append_singleton ds d ih =>
    rw [List.foldl_concat, addImpl_entities, ih, List.map_map]
    exact List.map_congr_left fun e _ => (attach_append ds [d] e).symm

end Model

/-- The two passes over the mutable table compute the declarative description of a unit. Every property of built
entities is proved on the description. -/
theorem build_entities (includeEnums : Bool) (ds : List Declaration) :
    (build includeEnums ds).entities = Merge.described includeEnums ds := by
  rw [build, Model.foldl_addImpl_entities, Model.foldl_addType_entities, Merge.map_attach_describedWith,
    Merge.described]

namespace Builder

theorem build_fst (b : Builder) (unit : SourceUnit) :
    (b.build unit).1 = Merge.described b.includeEnums unit.declarations :=
  build_entities b.includeEnums unit.declarations

/-- Builds units one after the other; their entities stand in the order of the units. -/
def buildAll (b : Builder) : List SourceUnit → List Entity × Builder
  | [] => ([], b)
  | unit :: units =>
    let (entities, b) := b.build unit
    let (more, b) := b.buildAll units
    (entities ++ more, b)

/-- What a builder takes in is not changed by building, so each unit of a list is built under the same setting. -/
theorem buildAll_includeEnums (b : Builder) (units : List SourceUnit) :
    (b.buildAll units).2.includeEnums = b.includeEnums := by
  induction units generalizing b with
  | nil => rfl
  | cons unit units ih => exact ih (b.build unit).2

/-- The entities of a list of units are those of each unit on its own, one unit after the other: no table is
carried from one unit to the next. -/
theorem buildAll_fst (b : Builder) (units : List SourceUnit) :
    (b.buildAll units).1 = units.flatMap fun unit => Merge.described b.includeEnums unit.declarations := by
  induction units generalizing b with
  | nil => rfl
  | cons unit units ih =>
    simp only [buildAll, List.flatMap_cons]
    rw [ih, build_fst]
    rfl

/-- Whatever a builder built before, the entities of a unit are those that the unit's declarations describe, one
for each name of a type, in the order of the names. Each name is described by the first declaration taken in
under it, and a struct gets the functions of every impl block for its name, wherever in the unit the block
stands. -/
theorem build_eq_described (b : Builder) (before : List SourceUnit) (unit : SourceUnit) :
    ((b.buildAll before).2.build unit).1 = Merge.described b.includeEnums unit.declarations ∧
      ((b.buildAll before).2.build unit).1.map (·.displayName) =
        Merge.typeNames b.includeEnums unit.declarations ∧
      (Merge.typeNames b.includeEnums unit.declarations).Nodup := by
  have hbuild : ((b.buildAll before).2.build unit).1 = Merge.described b.includeEnums unit.declarations := by
    rw [build_fst, buildAll_includeEnums]
  refine ⟨hbuild, ?_, Merge.typeNames_nodup _ _⟩
  rw [hbuild]
  exact Merge.map_displayName_describedWith _ _ _

end Builder

end ClassDiagram
