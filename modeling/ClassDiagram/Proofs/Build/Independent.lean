import ClassDiagram.Proofs.Build.Skips
import Mathlib.Data.List.Perm.Basic

namespace ClassDiagram

/-- A unit adds nothing to the structs of another: none of its impl blocks, those for traits apart, has one of them
for its target. -/
def LeavesStructs (includeEnums : Bool) (ds others : List Declaration) : Prop :=
  ∀ d ∈ implsOf ds, d.isTraitImpl = false →
    ∀ e ∈ (build includeEnums others).entities, e.kind = .struct → e.displayName ≠ Signature.canonical d.target

instance (includeEnums : Bool) (ds others : List Declaration) : Decidable (LeavesStructs includeEnums ds others) :=
  inferInstanceAs (Decidable (∀ d ∈ implsOf ds, _))

/-- Two units share no name of a type, and neither adds to the structs of the other. -/
structure Independent (includeEnums : Bool) (ds more : List Declaration) : Prop where
  names : ∀ name ∈ Merge.typeNames includeEnums ds, name ∉ Merge.typeNames includeEnums more
  first : LeavesStructs includeEnums ds more
  second : LeavesStructs includeEnums more ds

instance (includeEnums : Bool) (ds more : List Declaration) : Decidable (Independent includeEnums ds more) :=
  decidable_of_iff
    ((∀ name ∈ Merge.typeNames includeEnums ds, name ∉ Merge.typeNames includeEnums more) ∧
      LeavesStructs includeEnums ds more ∧ LeavesStructs includeEnums more ds)
    ⟨fun ⟨names, first, second⟩ => ⟨names, first, second⟩, fun hapart => ⟨hapart.names, hapart.first, hapart.second⟩⟩

namespace Merge

variable {includeEnums : Bool} {ds more : List Declaration}

/-- The targets of a unit that adds nothing to the structs of another are no names of these. Blocks for traits
may have such a target, since they are passed over before the target is looked at. -/
theorem isStructName_target (hleaves : LeavesStructs includeEnums ds more) {d : ImplDeclaration}
    (hd : d ∈ implsOf ds) (htrait : d.isTraitImpl = false) :
    isStructName includeEnums more (Signature.canonical d.target) = false := by
  rw [← any_struct_describedWith includeEnums more more, List.any_eq_false]
  intro e he
  rw [← described, ← build_entities] at he
  by_cases hstruct : e.kind = .struct
  · simp [hleaves d hd htrait e he hstruct]
  · simp [hstruct]

/-- None of the blocks of such a unit gives a method to a struct of the other, whatever blocks were applied to
the other before. -/
theorem flatMap_methodsFor_eq_nil (hleaves : LeavesStructs includeEnums ds more) {impls : List Declaration}
    {e : Entity} (he : e ∈ describedWith includeEnums more impls) (hstruct : e.kind = .struct) :
    ds.flatMap (methodsFor e.displayName) = [] := by
  have hname : isStructName includeEnums more e.displayName = true := by
    rw [← any_struct_describedWith includeEnums more impls, List.any_eq_true]
    exact ⟨e, he, by simp [hstruct]⟩
  rw [List.flatMap_eq_nil_iff]
  intro d hd
  cases d with
  | impl d =>
    rw [methodsFor, if_neg]
    rintro ⟨htrait, htarget, _⟩
    have hother := isStructName_target hleaves (mem_implsOf.mpr hd) htrait
    rw [htarget, hname] at hother
    cases hother
  | struct d => rfl
  | enum d => rfl
  | other kind => rfl

/-- A unit that leaves the structs of another as they are adds nothing to the entities of that other: attaching
its blocks is the identity on them. -/
theorem map_attach_of_leaves (hleaves : LeavesStructs includeEnums ds more) (impls : List Declaration) :
    (describedWith includeEnums more impls).map (attach ds) = describedWith includeEnums more impls :=
  Model.map_attach_eq_self (m := { entities := describedWith includeEnums more impls })
    fun _ he => flatMap_methodsFor_eq_nil hleaves he

/-- Blocks may be applied in two goes. The entities that the first blocks made are taken on by the later ones as
if all had come at once. -/
theorem describedWith_append_impls (ds impls more : List Declaration) :
    describedWith includeEnums ds (impls ++ more) = (describedWith includeEnums ds impls).map (attach more) := by
  rw [← map_attach_describedWith, ← map_attach_describedWith _ ds impls, List.map_map]
  exact List.map_congr_left fun e _ => attach_append impls more e

/-- Each unit describes its entities as it does alone. The names of the first are not among those of the second,
so no entry is left out, and no block reaches across. -/
theorem described_append (hapart : Independent includeEnums ds more) :
    described includeEnums (ds ++ more) = described includeEnums ds ++ described includeEnums more := by
  have hfirst : describedWith includeEnums ds (ds ++ more) = described includeEnums ds := by
    rw [describedWith_append_impls, map_attach_of_leaves hapart.second, described]
  have hsecond : describedWith includeEnums more (ds ++ more) = described includeEnums more := by
    rw [describedWith_append_impls, ← map_attach_describedWith _ more ds, map_attach_of_leaves hapart.first,
      map_attach_describedWith, described]
  rw [described, describedWith_append hapart.names, hfirst, hsecond]

/-- A name is taken in two units together if one of them takes it. Which of the two it is makes no difference to
any later declaration. -/
theorem mem_typeNames_append {name : String} :
    name ∈ typeNames includeEnums (ds ++ more) ↔
      name ∈ typeNames includeEnums ds ∨ name ∈ typeNames includeEnums more := by
  simp [mem_typeNames, or_and_right, exists_or]

/-- Whether a declaration is skipped depends on whether its own name is taken. Other names in the table have no
say, so tables that agree on this name skip alike. -/
theorem typeSkip?_congr {taken taken' : List String} {d : Declaration}
    (hsame : ∀ name, typeName? includeEnums d = some name → (name ∈ taken ↔ name ∈ taken')) :
    typeSkip? includeEnums taken d = typeSkip? includeEnums taken' d := by
  cases d with
  | struct d =>
    by_cases htuple : d.shape = .tuple
    · simp [typeSkip?, htuple]
    · simp [typeSkip?, htuple, hsame d.name (by simp [typeName?, htuple])]
  | enum d =>
    cases includeEnums with
    | false => rfl
    | true => simp [typeSkip?, hsame d.name rfl]
  | impl d => rfl
  | other kind => rfl

/-- Declarations ahead that share no name with later ones make none of these a duplicate, so they may be put in
front without a change to what is skipped. -/
theorem typeSkipsAfter_append_left (before : List Declaration) {later : List Declaration}
    (hapart : ∀ name ∈ typeNames includeEnums later, name ∉ typeNames includeEnums ds) :
    typeSkipsAfter includeEnums (ds ++ before) later = typeSkipsAfter includeEnums before later := by
  induction later generalizing before with
  | nil => rfl
  | cons d later ih =>
    have hskip : typeSkip? includeEnums (typeNames includeEnums (ds ++ before)) d =
        typeSkip? includeEnums (typeNames includeEnums before) d := by
      refine typeSkip?_congr fun name hname => ?_
      have hfresh := hapart name (mem_typeNames.mpr ⟨d, List.mem_cons_self, hname⟩)
      rw [mem_typeNames_append, or_iff_right hfresh]
    have hlater : ∀ name ∈ typeNames includeEnums later, name ∉ typeNames includeEnums ds := by
      intro name hname
      obtain ⟨other, hother, htype⟩ := mem_typeNames.mp hname
      exact hapart name (mem_typeNames.mpr ⟨other, List.mem_cons_of_mem d hother, htype⟩)
    rw [typeSkipsAfter, typeSkipsAfter, hskip, List.append_assoc, ih _ hlater]

/-- The first pass over two units one behind the other skips what it skips in each of them, if no name of the
first comes again in the second. -/
theorem typeSkips_append (hnames : ∀ name ∈ typeNames includeEnums ds, name ∉ typeNames includeEnums more) :
    typeSkips includeEnums (ds ++ more) = typeSkips includeEnums ds ++ typeSkips includeEnums more := by
  have hfresh := typeSkipsAfter_append_left [] fun name hmore hds => hnames name hds hmore
  rw [typeSkips, typeSkipsAfter_append, List.nil_append, ← List.append_nil ds, hfresh, List.append_nil]
  rfl

theorem isStructName_eq_false {name : String} (hname : name ∉ typeNames includeEnums ds) :
    isStructName includeEnums ds name = false := by
  rw [isStructName, firstOf?_eq_none hname]

/-- A struct is known in both units together if it is known in one. The names must not meet: with an enum of the
name ahead the struct would be a duplicate. -/
theorem isStructName_append (hnames : ∀ name ∈ typeNames includeEnums ds, name ∉ typeNames includeEnums more)
    (name : String) :
    isStructName includeEnums (ds ++ more) name =
      (isStructName includeEnums ds name || isStructName includeEnums more name) := by
  by_cases hname : name ∈ typeNames includeEnums ds
  · rw [isStructName_eq_false (hnames name hname), Bool.or_false, isStructName, firstOf?_append_of_mem hname]
    rfl
  · rw [isStructName_eq_false hname, Bool.false_or, isStructName, firstOf?_append_of_not_mem hname]
    rfl

/-- What an impl block skips depends on whether its own target is a struct. Blocks for traits need not even
that, since their target is not looked up. -/
theorem implSkips_congr {isStruct isStruct' : String → Bool} {d : Declaration}
    (hsame : ∀ block, d = .impl block → block.isTraitImpl = false →
      isStruct (Signature.canonical block.target) = isStruct' (Signature.canonical block.target)) :
    implSkips isStruct d = implSkips isStruct' d := by
  cases d with
  | impl d =>
    have hskip : implSkip? isStruct d = implSkip? isStruct' d := by
      rw [implSkip?, implSkip?]
      cases htrait : d.isTraitImpl with
      | true => rfl
      | false => simp only [hsame d rfl htrait]
    rw [implSkips, implSkips, hskip]
  | struct d => rfl
  | enum d => rfl
  | other kind => rfl

/-- Each unit skips of its impl blocks what it skips alone: the targets of a unit are looked up among its own
structs with the same result as among all. -/
theorem flatMap_implSkips_append (hapart : Independent includeEnums ds more) :
    (ds ++ more).flatMap (implSkips (isStructName includeEnums (ds ++ more))) =
      ds.flatMap (implSkips (isStructName includeEnums ds)) ++
        more.flatMap (implSkips (isStructName includeEnums more)) := by
  rw [List.flatMap_append]
  congr 1
  · refine List.flatMap_congr fun d hd => implSkips_congr fun block hblock htrait => ?_
    have hother := isStructName_target hapart.first (mem_implsOf.mpr (hblock ▸ hd)) htrait
    rw [isStructName_append hapart.names, hother, Bool.or_false]
  · refine List.flatMap_congr fun d hd => implSkips_congr fun block hblock htrait => ?_
    have hother := isStructName_target hapart.second (mem_implsOf.mpr (hblock ▸ hd)) htrait
    rw [isStructName_append hapart.names, hother, Bool.false_or]

end Merge

variable {includeEnums : Bool} {ds more : List Declaration}

/-- Built together, independent units give the entities that they give one by one, those of the first in front.
Nothing of a unit shows in the entities of the other. -/
theorem build_append_entities (hapart : Independent includeEnums ds more) :
    (build includeEnums (ds ++ more)).entities =
      (build includeEnums ds).entities ++ (build includeEnums more).entities := by
  simp only [build_entities, Merge.described_append hapart]

/-- The skips of types of both units come first, then those of the impl blocks of both. In a build of each unit
alone they alternate, so the skips agree up to their order. -/
theorem build_append_skipped (hapart : Independent includeEnums ds more) :
    (build includeEnums (ds ++ more)).skipped.Perm
      ((build includeEnums ds).skipped ++ (build includeEnums more).skipped) := by
  simp only [build_skipped, Merge.typeSkips_append hapart.names, Merge.flatMap_implSkips_append hapart,
    List.append_assoc]
  exact (List.perm_append_comm_assoc _ _ _).append_left _

end ClassDiagram
