import ClassDiagram.Proofs.Build.Merge
import ClassDiagram.Rust.Grammar

namespace ClassDiagram

/-- The parameters of a method are those that bind plain names; the others are skipped one by one. -/
theorem Build.parameters_fst (ds : List ParameterDeclaration) :
    (parameters ds).1 = ds.filterMap fun d => (parameter d).toOption := by
  induction ds with
  | nil => rfl
  | cons d ds ih =>
    rw [parameters, List.filterMap_cons]
    cases hparameter : parameter d with
    | ok e => simp [ih, Except.toOption]
    | error skip =>
      dsimp only [Except.toOption]
      split
      · exact ih
      · exact ih

namespace Rust

/-- The name under which an item is taken in as a struct, if it is. -/
def Item.structName? : Item → Option String
  | .struct s => if s.shape = .tuple then none else some s.name
  | _ => none

/-- The struct that is shown under a name: the first one taken in under it. -/
def shownStruct? (items : List Item) (name : String) : Option Syntax.Struct :=
  items.findSome? fun
    | .struct s => if s.shape ≠ .tuple ∧ s.name = name then some s else none
    | _ => none

/-- The structs that are shown, in the order of their names. -/
def shownStructs (items : List Item) : List Syntax.Struct :=
  (items.filterMap Item.structName?).eraseDups.filterMap (shownStruct? items)

/-- The struct that is shown under a name has this name, has named fields or none, and is one of the items. -/
theorem shownStruct?_name {items : List Item} {name : String} {s : Syntax.Struct}
    (h : shownStruct? items name = some s) : s.name = name ∧ s.shape ≠ .tuple ∧ .struct s ∈ items := by
  obtain ⟨item, hitem, hfound⟩ := List.exists_of_findSome?_eq_some h
  cases item with
  | struct s' =>
    dsimp only at hfound
    split at hfound
    · next hcondition =>
      cases hfound
      exact ⟨hcondition.2, hcondition.1, hitem⟩
    · cases hfound
  | _ => cases hfound

/-- A struct is shown if it is the one shown under its name, so a second of the same name is not. -/
theorem mem_shownStructs {items : List Item} {s : Syntax.Struct} :
    s ∈ shownStructs items ↔ shownStruct? items s.name = some s := by
  rw [shownStructs, List.mem_filterMap]
  constructor
  · rintro ⟨name, _, hshown⟩
    obtain ⟨rfl, _, _⟩ := shownStruct?_name hshown
    exact hshown
  · intro hshown
    obtain ⟨_, hshape, hmem⟩ := shownStruct?_name hshown
    refine ⟨s.name, ?_, hshown⟩
    rw [List.mem_eraseDups, List.mem_filterMap]
    exact ⟨.struct s, hmem, by simp [Item.structName?, hshape]⟩

section

variable (text : Span → String)

/-- The entity of a parameter, if it binds a plain name. -/
def Syntax.Parameter.entity? (p : Parameter) : Option Entity :=
  (p.read? text).bind fun d => (Build.parameter d).toOption

/-- The entity of a method. -/
def Syntax.Method.entity (m : Method) : Entity :=
  .ofMethod m.name (m.parameters.filterMap (Parameter.entity? text)) m.visibility

/-- The name of the struct that an impl block adds functions to. -/
def Syntax.Impl.owner? (block : Impl) : Option String :=
  (Build.target { target := text block.target, isTraitImpl := block.isTraitImpl }).toOption

/-- The methods that an item adds to the struct of a name. -/
def Item.methodsFor (name : String) : Item → List Entity
  | .impl block => if block.owner? text = some name then block.methods.map (Syntax.Method.entity text) else []
  | _ => []

/-- The entity of a struct among some items. -/
def Syntax.Struct.entity (items : List Item) (s : Struct) : Entity :=
  .ofStruct s.name
    (s.fields.map (fun f => Build.field (f.read text)) ++ items.flatMap (Item.methodsFor text s.name)) s.visibility

/-- The builder makes of a method that was read the entity that is told here by the item. -/
theorem Syntax.Method.entity_eq (m : Method) : (Build.method (m.read text)).1 = m.entity text := by
  have hparameters : (Build.parameters (m.read text).parameters).1 =
      m.parameters.filterMap (Parameter.entity? text) := by
    rw [Build.parameters_fst, Method.read, List.filterMap_filterMap]
    rfl
  rw [entity, ← hparameters]
  rfl

/-- An item that is read adds the same methods to a struct as the item itself is said to. -/
theorem Item.methodsFor_eq (name : String) (item : Item) :
    (item.read? text).toList.flatMap (Merge.methodsFor name) = item.methodsFor text name := by
  cases item with
  | impl block =>
    have hread : (Item.impl block).read? text = some (.impl (block.read text)) := rfl
    have howner : block.owner? text = (Build.target (block.read text)).toOption := rfl
    rw [hread, Option.toList_some, List.flatMap_singleton, methodsFor, howner]
    cases htarget : Build.target (block.read text) with
    | error skip => simp [Merge.methodsFor_of_target_error htarget, Except.toOption]
    | ok target =>
      rw [Merge.methodsFor_of_target_ok htarget, Merge.methods_fst]
      simp [Except.toOption, eq_comm, Syntax.Impl.read, Function.comp_def, Syntax.Method.entity_eq]
  | _ => rfl

theorem flatMap_methodsFor_read (name : String) (items : List Item) :
    (items.filterMap (Item.read? text)).flatMap (Merge.methodsFor name) =
      items.flatMap (Item.methodsFor text name) := by
  induction items with
  | nil => rfl
  | cons item items ih =>
    rw [List.flatMap_cons, ← ih, ← Item.methodsFor_eq, List.filterMap_cons]
    cases item.read? text <;> simp

/-- The names that the builder knows after its first pass are those of the structs among the items, in the order
of the items and without repetitions. -/
theorem typeNames_read (items : List Item) :
    Merge.typeNames false (items.filterMap (Item.read? text)) = (items.filterMap Item.structName?).eraseDups := by
  rw [Merge.typeNames, List.filterMap_filterMap]
  congr 1
  refine List.filterMap_congr fun item _ => ?_
  cases item <;> rfl

/-- The declaration that describes a name is that of the struct shown under it; an item that is not read as a
declaration describes none. -/
theorem firstOf?_read (items : List Item) (name : String) :
    Merge.firstOf? false (items.filterMap (Item.read? text)) name =
      (shownStruct? items name).map fun s => .struct (s.read text) := by
  induction items with
  | nil => rfl
  | cons item items ih =>
    cases item with
    | struct s =>
      have hread : (Item.struct s).read? text = some (.struct (s.read text)) := rfl
      have htype : Merge.typeName? false (.struct (s.read text)) = some name ↔ s.shape ≠ .tuple ∧ s.name = name := by
        by_cases htuple : s.shape = .tuple <;> simp [Merge.typeName?, Syntax.Struct.read, htuple]
      rw [List.filterMap_cons_some hread, Merge.firstOf?, List.find?_cons, shownStruct?, List.findSome?_cons]
      by_cases hfirst : s.shape ≠ .tuple ∧ s.name = name
      · simp [htype.mpr hfirst, hfirst]
      · have hlater : decide (Merge.typeName? false (.struct (s.read text)) = some name) = false :=
          decide_eq_false (mt htype.mp hfirst)
        dsimp only
        rw [if_neg hfirst, hlater]
        exact ih
    | _ => exact ih

/-- The entities of a source are those of the structs that it shows. The items say which these are and under
which names; the texts at their places enter in types, in patterns and in the targets of impl blocks alone. -/
theorem described_read (items : List Item) :
    Merge.described false (items.filterMap (Item.read? text)) =
      (shownStructs items).map (Syntax.Struct.entity text items) := by
  rw [Merge.described, Merge.describedWith, typeNames_read, shownStructs, List.map_filterMap]
  refine List.filterMap_congr fun name _ => ?_
  rw [firstOf?_read, Option.bind_map]
  cases shownStruct? items name with
  | none => rfl
  | some s =>
    simp [Merge.entity?, Syntax.Struct.entity, Syntax.Struct.read, Function.comp_def, flatMap_methodsFor_read]

end

end Rust

end ClassDiagram
