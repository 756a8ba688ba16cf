import ClassDiagram.Proofs.Build.Members
import ClassDiagram.Proofs.Build.Skips
import Mathlib.Data.List.Perm.Basic

namespace ClassDiagram

/-- Does a declaration declare a type? -/
def Declaration.isType : Declaration → Bool
  | .struct _ => true
  | .enum _ => true
  | _ => false

/-- Is a declaration of a kind that no more than the kind is kept of? -/
def Declaration.isOther : Declaration → Bool
  | .other _ => true
  | _ => false

/-- Is the reason one to leave out a type? -/
def SkipReason.isOfType : SkipReason → Bool
  | .tupleStruct | .enum | .duplicateTypeName => true
  | _ => false

/-- Is the reason one to leave out an impl block? -/
def SkipReason.isOfImpl : SkipReason → Bool
  | .traitImpl | .qualifiedTarget | .undeclaredTarget => true
  | _ => false

/-- Do the methods of an impl block go to one of the entities? It implements no trait, and its target is the plain
name of a struct. -/
def attachesTo (entities : List Entity) (d : ImplDeclaration) : Bool :=
  !d.isTraitImpl && Build.isPlainName (Signature.canonical d.target) &&
    entities.any fun e => e.kind = .struct && e.displayName == Signature.canonical d.target

/-- The methods among the members of entities. -/
def methodsOf (entities : List Entity) : List Entity :=
  (entities.flatMap (·.members)).filter fun e => e.kind = .method

namespace Merge

variable {includeEnums : Bool}

/-- A declaration at the end is a new type, or a skip, or declares no type. This is the step by which the
account of types is kept while declarations come in one after the other. -/
theorem length_typeNames_concat (includeEnums : Bool) (ds : List Declaration) (d : Declaration) :
    (typeNames includeEnums (ds ++ [d])).length +
        (typeSkip? includeEnums (typeNames includeEnums ds) d).toList.length =
      (typeNames includeEnums ds).length + if d.isType then 1 else 0 := by
  cases htype : typeName? includeEnums d with
  | none =>
    rw [typeNames_concat_of_none ds htype]
    cases d <;> simp_all [typeName?, typeSkip?, Declaration.isType]
  | some name =>
    rw [typeNames_concat_of_some ds htype]
    cases d with
    | struct s =>
      have hshape : s.shape ≠ .tuple ∧ s.name = name := by
        rw [typeName?] at htype
        split at htype <;> simp_all
      by_cases htaken : name ∈ typeNames includeEnums ds <;> simp [typeSkip?, hshape, htaken, Declaration.isType]
    | enum s =>
      have henums : includeEnums = true ∧ s.name = name := by
        rw [typeName?] at htype
        split at htype <;> simp_all
      obtain ⟨rfl, rfl⟩ := henums
      by_cases htaken : s.name ∈ typeNames true ds <;> simp [typeSkip?, htaken, Declaration.isType]
    | impl s => cases htype
    | other kind => cases htype

/-- The names in the table and the skips of types together count the declarations of types. Declarations are
taken from the right, since whether a name is new is told by those in front of it. -/
theorem length_typeNames (includeEnums : Bool) (ds : List Declaration) :
    (typeNames includeEnums ds).length + (typeSkips includeEnums ds).length = ds.countP (·.isType) := by
  induction ds using List.reverseRecOn with
  | nil => rfl
  | append_singleton ds d ih =>
    have hstep := length_typeNames_concat includeEnums ds d
    rw [typeSkips_concat, List.length_append, List.countP_append, List.countP_singleton]
    omega

/-- The first pass records skips for types only: an unsupported shape, an enum that was not asked for, or a name
that is taken. No other reason ever gets among them. -/
theorem isOfType_of_mem_typeSkips {ds : List Declaration} {s : Skip} (hs : s ∈ typeSkips includeEnums ds) :
    s.reason.isOfType = true := by
  induction ds using List.reverseRecOn with
  | nil => cases hs
  | append_singleton ds d ih =>
    rw [typeSkips_concat, List.mem_append, Option.mem_toList] at hs
    rcases hs with hs | hs
    · exact ih hs
    · cases d with
      | struct d =>
        rw [typeSkip?] at hs
        split at hs
        · cases hs
          rfl
        · split at hs <;> cases hs
          rfl
      | enum d =>
        rw [typeSkip?] at hs
        split at hs
        · cases hs
          rfl
        · split at hs <;> cases hs
          rfl
      | impl d => cases hs
      | other kind => cases hs

/-- A block is taken in under three conditions at once: it implements no trait, its target is a plain name, and
a struct of that name is known. The conditions are tested in this order. -/
theorem implSkip?_eq_none_iff {isStruct : String → Bool} {d : ImplDeclaration} :
    implSkip? isStruct d = none ↔
      d.isTraitImpl = false ∧ Build.isPlainName (Signature.canonical d.target) = true ∧
      isStruct (Signature.canonical d.target) = true := by
  rw [implSkip?]
  by_cases htrait : d.isTraitImpl = true
  · simp [htrait]
  · by_cases hplain : Build.isPlainName (Signature.canonical d.target) = true <;> simp [htrait, hplain]

/-- Whatever keeps a block out, the skip carries one of the reasons for impl blocks, so that it can be told from
a skip of a type and from one of a parameter. -/
theorem isOfImpl_of_implSkip? {isStruct : String → Bool} {d : ImplDeclaration} {s : Skip}
    (hs : implSkip? isStruct d = some s) : s.reason.isOfImpl = true := by
  rw [implSkip?] at hs
  split at hs
  · cases hs
    rfl
  · split at hs
    · cases hs
      rfl
    · split at hs <;> cases hs
      rfl

/-- There is one reason only to leave out a parameter: its pattern binds no plain name. Receivers are left out
as well, but they are not recorded. -/
theorem reason_of_parameterSkip? {d : ParameterDeclaration} {s : Skip} (hs : parameterSkip? d = some s) :
    s.reason = .nonIdentifierBinding := by
  rw [parameterSkip?] at hs
  split at hs <;> cases hs
  rfl

/-- The methods of an impl block go to a described entity unless the block is skipped. The test on entities and
the test on the table of names agree, although entities are known only in the end. -/
theorem attachesTo_describedWith (ds impls : List Declaration) (d : ImplDeclaration) :
    attachesTo (describedWith includeEnums ds impls) d = (implSkip? (isStructName includeEnums ds) d).isNone := by
  rw [attachesTo, any_struct_describedWith, Bool.eq_iff_iff, Option.isNone_iff_eq_none, implSkip?_eq_none_iff]
  simp [and_assoc]

end Merge

section Impls

open Merge

variable {isStruct : String → Bool}

@[simp] theorem implsOf_cons_impl (d : ImplDeclaration) (ds : List Declaration) :
    implsOf (.impl d :: ds) = d :: implsOf ds := rfl

/-- What the declarations of a unit add with their impl blocks alone. Passes that look at impl blocks and at
nothing else may be counted over the list of these blocks. -/
theorem flatMap_eq_flatMap_implsOf {α : Type} {f : Declaration → List α}
    (hother : ∀ d, (∀ block, d ≠ .impl block) → f d = []) (ds : List Declaration) :
    ds.flatMap f = (implsOf ds).flatMap fun d => f (.impl d) := by
  induction ds with
  | nil => rfl
  | cons d ds ih =>
    rw [List.flatMap_cons, ih]
    cases d with
    | impl d => rw [implsOf_cons_impl, List.flatMap_cons]
    | struct s => exact congrArg (· ++ _) (hother _ (by simp))
    | enum s => exact congrArg (· ++ _) (hother _ (by simp))
    | other kind => exact congrArg (· ++ _) (hother _ (by simp))

theorem flatMap_implSkips (ds : List Declaration) :
    ds.flatMap (implSkips isStruct) = (implsOf ds).flatMap fun d => implSkips isStruct (.impl d) :=
  flatMap_eq_flatMap_implsOf (fun d hd => by cases d <;> simp_all [implSkips]) ds

/-- A block is skipped as a whole, or it is not and the skips are those of its parameters. No block adds skips
of both kinds, which is what lets them be counted apart. -/
theorem implSkips_cases (isStruct : String → Bool) (d : ImplDeclaration) :
    (∃ s, implSkip? isStruct d = some s ∧ implSkips isStruct (.impl d) = [s] ∧ s.reason.isOfImpl = true) ∨
      implSkip? isStruct d = none ∧
        implSkips isStruct (.impl d) = (d.methods.flatMap (·.parameters)).filterMap parameterSkip? := by
  cases hskip : implSkip? isStruct d with
  | some s => exact .inl ⟨s, rfl, by simp [implSkips, hskip], isOfImpl_of_implSkip? hskip⟩
  | none => exact .inr ⟨rfl, by simp [implSkips, hskip]⟩

theorem countP_isOfImpl_parameterSkips (ds : List ParameterDeclaration) :
    (ds.filterMap parameterSkip?).countP (·.reason.isOfImpl) = 0 := by
  rw [List.countP_eq_zero]
  intro s hs
  obtain ⟨d, _, hskip⟩ := List.mem_filterMap.mp hs
  simp [reason_of_parameterSkip? hskip, SkipReason.isOfImpl]

/-- All skips of parameters carry the one reason that parameters can be skipped for, so counting this reason
counts every one of them. -/
theorem countP_nonIdentifier_parameterSkips (ds : List ParameterDeclaration) :
    (ds.filterMap parameterSkip?).countP (·.reason = .nonIdentifierBinding) =
      (ds.filterMap parameterSkip?).length := by
  rw [List.countP_eq_length]
  intro s hs
  obtain ⟨d, _, hskip⟩ := List.mem_filterMap.mp hs
  simp [reason_of_parameterSkip? hskip]

/-- Every impl block is one whose methods are attached or one that is skipped as a whole, and the parameters
that are skipped are those of the former. Both counts go through the blocks in step. -/
theorem implSkips_account (isStruct : String → Bool) (blocks : List ImplDeclaration) :
    (blocks.filter fun d => (implSkip? isStruct d).isNone).length +
        (blocks.flatMap fun d => implSkips isStruct (.impl d)).countP (·.reason.isOfImpl) = blocks.length ∧
      (blocks.flatMap fun d => implSkips isStruct (.impl d)).countP (·.reason = .nonIdentifierBinding) =
        ((((blocks.filter fun d => (implSkip? isStruct d).isNone).flatMap (·.methods)).flatMap
          (·.parameters)).filterMap parameterSkip?).length := by
  induction blocks with
  | nil => exact ⟨rfl, rfl⟩
  | cons d blocks ih =>
    obtain ⟨hblocks, hparameters⟩ := ih
    rw [List.flatMap_cons, List.countP_append, List.countP_append, hparameters]
    rcases implSkips_cases isStruct d with ⟨s, hskip, hskips, hreason⟩ | ⟨hnone, hskips⟩
    · have hother : s.reason ≠ .nonIdentifierBinding := by
        intro hsame
        simp [hsame, SkipReason.isOfImpl] at hreason
      simp only [hskips, hskip, hreason, hother, List.countP_singleton, List.filter_cons, Option.isNone_some,
        Bool.false_eq_true, if_false, if_true, decide_false, List.length_cons]
      omega
    · simp only [hskips, hnone, countP_isOfImpl_parameterSkips, countP_nonIdentifier_parameterSkips,
        List.filter_cons, Option.isNone_none, if_true, List.flatMap_cons, List.flatMap_append,
        List.filterMap_append, List.length_append, List.length_cons]
      exact ⟨by omega, trivial⟩

end Impls

namespace Build

/-- Every parameter is kept, skipped or the receiver. The three cases exclude each other, so the counts add up
to the length of the list that was declared. -/
theorem parameters_account (ds : List ParameterDeclaration) :
    (parameters ds).1.length + (ds.filterMap Merge.parameterSkip?).length + ds.countP (·.isReceiver) =
      ds.length := by
  induction ds with
  | nil => rfl
  | cons d ds ih =>
    rw [parameters, parameter, List.filterMap_cons, Merge.parameterSkip?, List.countP_cons]
    by_cases hreceiver : d.isReceiver = true
    · simp [hreceiver]
      omega
    · by_cases hplain : isPlainName (String.ofList (dropMut (Text.stripChars d.pattern.toList))) = true
      · simp [hreceiver, hplain]
        omega
      · simp [hreceiver, hplain]
        omega

/-- The members of methods and the skips of their parameters, with the receivers, are all parameters. The
account of one method is added up over the methods of a block. -/
theorem methods_account (ms : List MethodDeclaration) :
    (((ms.map fun m => (method m).1).flatMap (·.members)).countP fun e => e.kind = .parameter) +
        ((ms.flatMap (·.parameters)).filterMap Merge.parameterSkip?).length +
        (ms.flatMap (·.parameters)).countP (·.isReceiver) =
      (ms.flatMap (·.parameters)).length := by
  induction ms with
  | nil => rfl
  | cons m ms ih =>
    have hkind : ((method m).1.members.countP fun e => e.kind = .parameter) = (parameters m.parameters).1.length := by
      refine List.countP_eq_length.mpr fun e he => ?_
      obtain ⟨_, _, name, _, rfl⟩ := mem_parameters he
      rfl
    have hone := parameters_account m.parameters
    simp only [List.map_cons, List.flatMap_cons, List.countP_append, List.filterMap_append, List.length_append, hkind]
    omega

end Build

section Methods

open Merge

variable {es : List Entity}

/-- Impl blocks give methods to a struct and nothing else, so the members that a struct has beyond its fields
can be counted by their kind. -/
theorem isMethod_of_mem_methodsFor {name : String} {d : Declaration} {e : Entity} (he : e ∈ methodsFor name d) :
    e.kind = .method := by
  cases d with
  | impl d =>
    rw [methodsFor] at he
    split at he
    · obtain ⟨m, _, rfl⟩ := List.mem_map.mp he
      rfl
    · cases he
  | struct d => cases he
  | enum d => cases he
  | other kind => cases he

/-- The methods that a declaration gives to entities. -/
def givenTo (es : List Entity) : Declaration → List Entity
  | .impl d => if attachesTo es d then d.methods.map fun m => (Build.method m).1 else []
  | _ => []

/-- Where names are not shared, what goes to the struct of a name goes to one entity. With two structs of the
name it would be counted twice, which the table of names rules out. -/
theorem flatMap_named (hnames : (es.map (·.displayName)).Nodup) (name : String) (given : List Entity) :
    (es.flatMap fun e => if e.kind = .struct ∧ e.displayName = name then given else []) =
      if es.any (fun e => e.kind = .struct && e.displayName == name) then given else [] := by
  induction es with
  | nil => rfl
  | cons e es ih =>
    rw [List.map_cons, List.nodup_cons] at hnames
    obtain ⟨hfresh, hnames⟩ := hnames
    rw [List.flatMap_cons, ih hnames, List.any_cons]
    by_cases hname : e.displayName = name
    · have hno : es.any (fun e => e.kind = .struct && e.displayName == name) = false := by
        rw [List.any_eq_false]
        intro other hother
        have hne : other.displayName ≠ name := by
          intro hsame
          exact hfresh (List.mem_map.mpr ⟨other, hother, hsame.trans hname.symm⟩)
        simp [hne]
      by_cases hstruct : e.kind = .struct <;> simp [hno, hname, hstruct]
    · simp [hname]

/-- Collected over all entities, the methods of a block are found once if it is attached to one of them, and not
at all otherwise. -/
theorem flatMap_methodsFor_eq_givenTo (hnames : (es.map (·.displayName)).Nodup) (d : Declaration) :
    (es.flatMap fun e => if e.kind = .struct then methodsFor e.displayName d else []) = givenTo es d := by
  have hnone {d : Declaration} (hd : ∀ name, methodsFor name d = []) :
      (es.flatMap fun e => if e.kind = .struct then methodsFor e.displayName d else []) = [] := by
    simp [hd]
  cases d with
  | struct d => exact hnone fun _ => rfl
  | enum d => exact hnone fun _ => rfl
  | other kind => exact hnone fun _ => rfl
  | impl d =>
    rw [givenTo, attachesTo]
    by_cases hplain : d.isTraitImpl = false ∧ Build.isPlainName (Signature.canonical d.target) = true
    · obtain ⟨htrait, hname⟩ := hplain
      rw [htrait, hname, Bool.not_false, Bool.and_self, Bool.true_and, ← flatMap_named hnames]
      congr 1
      funext e
      by_cases hsame : e.displayName = Signature.canonical d.target
      · simp [methodsFor, htrait, hsame, hname]
      · simp [methodsFor, hsame, Ne.symm hsame]
    · have hno (name : String) : methodsFor name (.impl d) = [] := by
        rw [methodsFor, if_neg]
        rintro ⟨htrait, rfl, hname⟩
        exact hplain ⟨htrait, hname⟩
      have hkept : (!d.isTraitImpl && Build.isPlainName (Signature.canonical d.target)) = false := by
        simpa [Bool.and_eq_false_iff, imp_iff_not_or] using hplain
      rw [hnone hno, hkept, Bool.false_and, if_neg Bool.false_ne_true]

/-- One step: the methods of entities after an impl block are those before it, and those of the block if it is
attached. The order changes, as they join their own struct, so this is a permutation. -/
theorem methodsOf_map_attach (hnames : (es.map (·.displayName)).Nodup) (d : Declaration) :
    (methodsOf (es.map (attach [d]))).Perm (methodsOf es ++ givenTo es d) := by
  have hmembers (e : Entity) : (attach [d] e).members =
      e.members ++ if e.kind = .struct then methodsFor e.displayName d else [] := by
    rw [attach]
    split <;> simp
  have hgiven := flatMap_methodsFor_eq_givenTo hnames d
  have hall : (givenTo es d).filter (fun e => e.kind = .method) = givenTo es d := by
    rw [List.filter_eq_self, ← hgiven]
    intro e he
    obtain ⟨owner, _, he⟩ := List.mem_flatMap.mp he
    split at he
    · simp [isMethod_of_mem_methodsFor he]
    · cases he
  rw [methodsOf, methodsOf, List.flatMap_map]
  simp only [hmembers]
  have hperm := List.flatMap_append_perm es (·.members)
    fun e => if e.kind = .struct then methodsFor e.displayName d else []
  rw [hgiven] at hperm
  refine (hperm.symm.filter _).trans ?_
  rw [List.filter_append, hall]

/-- Attaching methods to entities leaves their names and their order alone. What was said of names before the
second pass therefore still holds after it. -/
theorem map_displayName_attach (es : List Entity) (impls : List Declaration) :
    (es.map (attach impls)).map (·.displayName) = es.map (·.displayName) := by
  rw [List.map_map]
  refine List.map_congr_left fun e _ => ?_
  rw [Function.comp, attach]
  split <;> rfl

/-- Methods that are attached change nothing about which blocks are: that is decided by the kinds and names of
the entities, which stay as they were. -/
theorem givenTo_map_attach (es : List Entity) (impls : List Declaration) :
    givenTo (es.map (attach impls)) = givenTo es := by
  have hattaches : attachesTo (es.map (attach impls)) = attachesTo es := by
    funext block
    rw [attachesTo, attachesTo, List.any_map]
    congr 2
    funext e
    rw [Function.comp, attach]
    split <;> rfl
  funext d
  cases d with
  | impl d => rw [givenTo, givenTo, hattaches]
  | struct d => rfl
  | enum d => rfl
  | other kind => rfl

/-- A whole pass: the methods of entities in the end are those at the start, and those of the attached blocks.
The single steps are put together by induction on the declarations. -/
theorem methodsOf_map_attach_all (hnames : (es.map (·.displayName)).Nodup) (ds : List Declaration) :
    (methodsOf (es.map (attach ds))).Perm (methodsOf es ++ ds.flatMap (givenTo es)) := by
  induction ds using List.reverseRecOn with
  | nil =>
    have hself : es.map (attach []) = es := Model.map_attach_eq_self (m := { entities := es }) (by simp)
    rw [hself, List.flatMap_nil, List.append_nil]
  | append_singleton ds d ih =>
    have hpass : es.map (attach (ds ++ [d])) = (es.map (attach ds)).map (attach [d]) := by
      rw [List.map_map]
      exact List.map_congr_left fun e _ => attach_append ds [d] e
    have hattached : ((es.map (attach ds)).map (·.displayName)).Nodup := by rwa [map_displayName_attach]
    have hstep := methodsOf_map_attach hattached d
    rw [hpass, List.flatMap_append, List.flatMap_singleton, ← List.append_assoc]
    rw [givenTo_map_attach] at hstep
    exact hstep.trans (ih.append_right _)

/-- Before the second pass no entity has a method: structs are described with their fields and enums with
nothing. -/
theorem methodsOf_describedWith_nil (includeEnums : Bool) (ds : List Declaration) :
    methodsOf (describedWith includeEnums ds []) = [] := by
  rw [methodsOf, List.filter_eq_nil_iff]
  intro e he
  obtain ⟨owner, howner, he⟩ := List.mem_flatMap.mp he
  obtain ⟨name, _, hentity⟩ := List.mem_filterMap.mp howner
  obtain ⟨d, _, hentity⟩ := Option.bind_eq_some_iff.mp hentity
  cases d with
  | struct d =>
    cases hentity
    rw [Entity.ofStruct, List.flatMap_nil, List.append_nil] at he
    obtain ⟨f, _, rfl⟩ := List.mem_map.mp he
    simp [Build.field, Entity.ofField]
  | enum d =>
    cases hentity
    cases he
  | impl d => cases hentity
  | other kind => cases hentity

theorem flatMap_givenTo (es : List Entity) (ds : List Declaration) :
    ds.flatMap (givenTo es) =
      (((implsOf ds).filter (attachesTo es)).flatMap (·.methods)).map fun m => (Build.method m).1 := by
  rw [flatMap_eq_flatMap_implsOf (fun d hd => by cases d <;> simp_all [givenTo])]
  induction implsOf ds with
  | nil => rfl
  | cons d blocks ih =>
    rw [List.flatMap_cons, ih, givenTo, List.filter_cons]
    split <;> simp

/-- The methods of the described entities are those of the attached impl blocks, each block with all its methods
and each attached block once. -/
theorem methodsOf_described (includeEnums : Bool) (ds : List Declaration) :
    (methodsOf (described includeEnums ds)).Perm
      ((((implsOf ds).filter (attachesTo (described includeEnums ds))).flatMap (·.methods)).map
        fun m => (Build.method m).1) := by
  have hnames : ((describedWith includeEnums ds []).map (·.displayName)).Nodup := by
    rw [map_displayName_describedWith]
    exact typeNames_nodup _ _
  have hpass := methodsOf_map_attach_all hnames ds
  rwa [methodsOf_describedWith_nil, List.nil_append, ← givenTo_map_attach _ ds, map_attach_describedWith,
    flatMap_givenTo] at hpass

end Methods

/-- Declarations of other kinds change nothing: neither pass has a use for them, so they may be dropped before a
unit is built or kept in it. -/
theorem build_filter_isOther (includeEnums : Bool) (ds : List Declaration) :
    build includeEnums (ds.filter fun d => !d.isOther) = build includeEnums ds := by
  have hskips {step : Model → Declaration → Model} (hother : ∀ m kind, step m (.other kind) = m) (m : Model) :
      (ds.filter fun d => !d.isOther).foldl step m = ds.foldl step m := by
    rw [List.foldl_filter]
    congr 1
    funext m d
    cases d <;> simp [Declaration.isOther, hother]
  rw [build, hskips (fun _ _ => rfl), hskips (fun _ _ => rfl), build]

section Skips

open Merge

variable {includeEnums : Bool} {isStruct : String → Bool}

theorem isOfImpl_of_isOfType {reason : SkipReason} (htype : reason.isOfType = true) : reason.isOfImpl = false := by
  cases reason <;> simp_all [SkipReason.isOfType, SkipReason.isOfImpl]

theorem ne_nonIdentifierBinding_of_isOfType {reason : SkipReason} (htype : reason.isOfType = true) :
    reason ≠ .nonIdentifierBinding := by
  rintro rfl
  cases htype

/-- No impl block skips a type. The skips of the second pass can so be left out of the count for the first. -/
theorem countP_isOfType_implSkips (blocks : List ImplDeclaration) :
    (blocks.flatMap fun d => implSkips isStruct (.impl d)).countP (·.reason.isOfType) = 0 := by
  rw [List.countP_eq_zero]
  intro s hs htype
  obtain ⟨d, _, hs⟩ := List.mem_flatMap.mp hs
  rcases implSkips_cases isStruct d with ⟨s', _, hskips, hreason⟩ | ⟨_, hskips⟩
  · rw [hskips] at hs
    obtain rfl := List.mem_singleton.mp hs
    rw [isOfImpl_of_isOfType htype] at hreason
    cases hreason
  · rw [hskips] at hs
    obtain ⟨d, _, hskip⟩ := List.mem_filterMap.mp hs
    exact ne_nonIdentifierBinding_of_isOfType htype (reason_of_parameterSkip? hskip)

/-- Skips of another kind than types' are not among those of types, whichever kind is asked for, so a count of
such a kind may start at the second pass. -/
theorem countP_typeSkips {p : SkipReason → Bool} (hp : ∀ reason, reason.isOfType = true → p reason = false)
    (ds : List Declaration) : (typeSkips includeEnums ds).countP (fun s => p s.reason) = 0 := by
  rw [List.countP_eq_zero]
  intro s hs
  simp [hp _ (isOfType_of_mem_typeSkips hs)]

end Skips

section Accounts

open Merge

variable (includeEnums : Bool) (ds : List Declaration)

/-- The skips of a unit in their order: those of types first, as the first pass records them, then those of each
impl block as it stands in the unit. -/
theorem build_skipped_blocks :
    (build includeEnums ds).skipped = typeSkips includeEnums ds ++
      (implsOf ds).flatMap fun d => implSkips (isStructName includeEnums ds) (.impl d) := by
  rw [build_skipped, flatMap_implSkips]

/-- Whether a block is attached can be read off the entities that were built: it is if and only if the second
pass did not skip it. -/
theorem attachesTo_build (d : ImplDeclaration) :
    attachesTo (build includeEnums ds).entities d = (implSkip? (isStructName includeEnums ds) d).isNone := by
  rw [build_entities]
  exact attachesTo_describedWith ds ds d

theorem filter_attachesTo_build :
    (implsOf ds).filter (attachesTo (build includeEnums ds).entities) =
      (implsOf ds).filter fun d => (implSkip? (isStructName includeEnums ds) d).isNone := by
  rw [show attachesTo (build includeEnums ds).entities = _ from funext (attachesTo_build includeEnums ds)]

/-- Each declaration of a type is an entity or a skip. Nothing that declares a type is lost without a record,
and none is built and recorded at once. -/
theorem build_types_account :
    (build includeEnums ds).entities.length + (build includeEnums ds).skipped.countP (·.reason.isOfType) =
      ds.countP (·.isType) := by
  have hentities : (build includeEnums ds).entities.length = (typeNames includeEnums ds).length := by
    rw [build_entities, ← List.length_map (·.displayName), described, map_displayName_describedWith]
  have htypes : (typeSkips includeEnums ds).countP (·.reason.isOfType) = (typeSkips includeEnums ds).length :=
    List.countP_eq_length.mpr fun _ => isOfType_of_mem_typeSkips
  rw [build_skipped_blocks, List.countP_append, countP_isOfType_implSkips, htypes, hentities, Nat.add_zero]
  exact length_typeNames _ _

/-- Each impl block is attached to a struct or skipped as a whole. Blocks for one struct are all attached, so
there may be fewer structs than attached blocks. -/
theorem build_impls_account :
    ((implsOf ds).filter (attachesTo (build includeEnums ds).entities)).length +
      (build includeEnums ds).skipped.countP (·.reason.isOfImpl) = (implsOf ds).length := by
  rw [build_skipped_blocks, List.countP_append, countP_typeSkips fun _ => isOfImpl_of_isOfType, Nat.zero_add,
    filter_attachesTo_build]
  exact (implSkips_account _ _).1

/-- The methods of the entities are those of the attached impl blocks. A block that was skipped leaves no trace
among the members of any entity. -/
theorem methodsOf_build :
    (methodsOf (build includeEnums ds).entities).Perm
      ((((implsOf ds).filter (attachesTo (build includeEnums ds).entities)).flatMap (·.methods)).map
        fun m => (Build.method m).1) := by
  rw [build_entities]
  exact methodsOf_described includeEnums ds

/-- Each parameter of an attached impl block is a member, a skip or a receiver. Parameters of blocks that were
skipped are counted nowhere, as the blocks stand for them. -/
theorem build_parameters_account :
    (((methodsOf (build includeEnums ds).entities).flatMap (·.members)).countP fun e => e.kind = .parameter) +
        (build includeEnums ds).skipped.countP (·.reason = .nonIdentifierBinding) +
        ((((implsOf ds).filter (attachesTo (build includeEnums ds).entities)).flatMap (·.methods)).flatMap
          (·.parameters)).countP (·.isReceiver) =
      ((((implsOf ds).filter (attachesTo (build includeEnums ds).entities)).flatMap (·.methods)).flatMap
        (·.parameters)).length := by
  have hmembers := ((methodsOf_build includeEnums ds).flatMap fun e _ => List.Perm.refl e.members).countP_eq
    fun e => e.kind = .parameter
  have hskipped : (build includeEnums ds).skipped.countP (·.reason = .nonIdentifierBinding) =
      ((((implsOf ds).filter (attachesTo (build includeEnums ds).entities)).flatMap (·.methods)).flatMap
        (·.parameters) |>.filterMap parameterSkip?).length := by
    rw [build_skipped_blocks, List.countP_append, (implSkips_account _ _).2, filter_attachesTo_build,
      countP_typeSkips fun _ htype => decide_eq_false (ne_nonIdentifierBinding_of_isOfType htype), Nat.zero_add]
  rw [hmembers, hskipped]
  exact Build.methods_account _

/-- An attached impl block skips parameters alone, and any other is skipped as a whole. So the skips that belong
to a block tell whether it was attached. -/
theorem implSkips_of_build (d : ImplDeclaration) :
    if attachesTo (build includeEnums ds).entities d then
      implSkips (isStructName includeEnums ds) (.impl d) =
          (d.methods.flatMap (·.parameters)).filterMap parameterSkip? ∧
        ∀ s ∈ implSkips (isStructName includeEnums ds) (.impl d), s.reason = .nonIdentifierBinding
    else ∃ s, implSkips (isStructName includeEnums ds) (.impl d) = [s] ∧ s.reason.isOfImpl = true := by
  rw [attachesTo_build]
  rcases implSkips_cases (isStructName includeEnums ds) d with ⟨s, hskip, hskips, hreason⟩ | ⟨hnone, hskips⟩
  · rw [hskip, Option.isNone_some, if_neg Bool.false_ne_true]
    exact ⟨s, hskips, hreason⟩
  · rw [hnone, Option.isNone_none, if_pos rfl, hskips]
    refine ⟨rfl, fun s hs => ?_⟩
    obtain ⟨_, _, hskip⟩ := List.mem_filterMap.mp hs
    exact reason_of_parameterSkip? hskip

end Accounts

namespace Builder

open Merge

/-- Whatever a builder built before, its account of a unit adds up. Types: each declaration of one is an entity or
a skip. Impl blocks: each is attached to a struct of the model or skipped as a whole. Methods: those of the
entities are those of the attached blocks. Parameters of these methods: each is a member, a skip or a receiver.
The skips stand in the order of the declarations, first those of types and then those of impl blocks; a block that
is skipped as a whole skips no parameters, and there are no other skips. Declarations of other kinds change
nothing. -/
theorem build_accounts (b : Builder) (before : List SourceUnit) (unit : SourceUnit) :
    let built := (b.buildAll before).2.build unit
    let skipped := built.2.skipped
    let ds := unit.declarations
    let ofBlock := fun d => implSkips (isStructName b.includeEnums ds) (.impl d)
    let attached := (implsOf ds).filter (attachesTo built.1)
    let parameters := (attached.flatMap (·.methods)).flatMap (·.parameters)
    built.1.length + skipped.countP (·.reason.isOfType) = ds.countP (·.isType) ∧
      attached.length + skipped.countP (·.reason.isOfImpl) = (implsOf ds).length ∧
      (methodsOf built.1).Perm ((attached.flatMap (·.methods)).map fun m => (Build.method m).1) ∧
      (methodsOf built.1).length = (attached.flatMap (·.methods)).length ∧
      (((methodsOf built.1).flatMap (·.members)).countP fun e => e.kind = .parameter) +
          skipped.countP (·.reason = .nonIdentifierBinding) + parameters.countP (·.isReceiver) =
        parameters.length ∧
      skipped = typeSkips b.includeEnums ds ++ (implsOf ds).flatMap ofBlock ∧
      (∀ s ∈ typeSkips b.includeEnums ds, s.reason.isOfType = true) ∧
      (∀ d, if attachesTo built.1 d then
          ofBlock d = (d.methods.flatMap (·.parameters)).filterMap parameterSkip? ∧
            ∀ s ∈ ofBlock d, s.reason = .nonIdentifierBinding
        else ∃ s, ofBlock d = [s] ∧ s.reason.isOfImpl = true) ∧
      (b.buildAll before).2.build { unit with declarations := ds.filter fun d => !d.isOther } = built := by
  rw [← buildAll_includeEnums b before]
  generalize (b.buildAll before).2 = last
  obtain ⟨includeEnums, skipped⟩ := last
  have hmethods := methodsOf_build includeEnums unit.declarations
  refine ⟨build_types_account _ _, build_impls_account _ _, hmethods, ?_, build_parameters_account _ _,
    build_skipped_blocks _ _, fun s => isOfType_of_mem_typeSkips, implSkips_of_build _ _, ?_⟩
  · exact hmethods.length_eq.trans (List.length_map _)
  · exact congrArg (fun model => (model.entities, Builder.mk includeEnums model.skipped))
      (build_filter_isOther includeEnums unit.declarations)

end Builder

end ClassDiagram
