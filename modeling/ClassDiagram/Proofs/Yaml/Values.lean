import ClassDiagram.Proofs.Yaml.Nodes
import ClassDiagram.Yaml.Load

namespace ClassDiagram.Yaml

namespace FailsAs

variable {α β : Type} {allowed : Fault → Prop}

/-- A fold fails as its steps do. The step is taken from any state, since nothing is known of the states that
the earlier steps lead to. -/
theorem foldlM {step : β → α → Except Fault β} (hstep : ∀ b a, FailsAs allowed (step b a)) (init : β)
    (items : List α) : FailsAs allowed (items.foldlM step init) := by
  induction items generalizing init with
  | nil => exact .pure _
  | cons a items ih =>
    rw [List.foldlM_cons]
    apply FailsAs.bind (hstep init a)
    intro next
    exact ih next

/-- Going over a list fails as the step for a single item does, whichever item is the first to fail. -/
theorem mapM {step : α → Except Fault β} (hstep : ∀ a, FailsAs allowed (step a)) (items : List α) :
    FailsAs allowed (items.mapM step) := by
  induction items with
  | nil => exact .pure _
  | cons a items ih =>
    rw [List.mapM_cons]
    apply FailsAs.bind (hstep a)
    intro b
    apply FailsAs.bind ih
    intro rest
    exact .pure _

end FailsAs

/-- The text of a scalar does not spell the truth value, the number or the date that its kind promises. -/
def Fault.IsOfScalar (fault : Fault) : Prop :=
  ∃ tag ∈ [Tag.bool, .int, .float, .timestamp], ∃ text, readScalar tag text = .error fault

/-- A plain malformation, or the fault of a scalar. -/
def Fault.IsOfValue (fault : Fault) : Prop :=
  fault = .malformed ∨ fault.IsOfScalar

/-- Whatever goes wrong here is a fault of values. -/
abbrev ValueSafe {α : Type} (result : Except Fault α) : Prop :=
  FailsAs Fault.IsOfValue result

theorem valueSafe_malformed {α : Type} : ValueSafe (.error .malformed : Except Fault α) :=
  .error (.inl rfl)

/-- A scalar is read by its tag, and each tag has a fault of its own for texts that do not spell its values. -/
theorem valueSafe_readScalar (tag : Tag) (text : String) : ValueSafe (readScalar tag text) := by
  by_cases htag : tag ∈ [Tag.bool, .int, .float, .timestamp]
  · exact fun fault hfault => .inr ⟨tag, htag, text, hfault⟩
  · cases tag with
    | bool => simp at htag
    | int => simp at htag
    | float => simp at htag
    | timestamp => simp at htag
    | null => exact .ok _
    | text => exact .ok _
    | binary =>
      refine .map ?_ _
      rw [readBinary]
      refine .ite ?_ valueSafe_malformed
      split
      · exact .ok _
      · exact valueSafe_malformed
    | _ => exact valueSafe_malformed

namespace Loader

/-- The text of a mapping is the one under its value key, where another mapping may stand; a bound on the steps
ends the search, with a malformation. -/
theorem valueSafe_scalarText (g : Graph) (n : Nat) (id : NodeId) : ValueSafe (scalarText g n id) := by
  induction n generalizing id with
  | zero => exact valueSafe_malformed
  | succ n ih =>
    rw [scalarText]
    split
    · exact .ok _
    · exact valueSafe_malformed
    · split
      · exact valueSafe_malformed
      · exact ih _

theorem valueSafe_visit (s : Loader) (id : NodeId) : ValueSafe (s.visit id) := by
  unfold visit
  apply FailsAs.ite
  · exact .pure _
  · apply FailsAs.ite
    · exact .pure _
    · apply FailsAs.ite
      · exact valueSafe_malformed
      · -- A scalar that was not met before: its text is found, and then read as its kind.
        have htext := valueSafe_scalarText s.graph (s.graph.nodes.size + 1) id
        apply FailsAs.bind htext
        intro text
        apply FailsAs.bind (valueSafe_readScalar _ text)
        intro value
        exact .pure _

theorem valueSafe_visitPair (s : Loader) (pair : NodeId × NodeId) : ValueSafe (s.visitPair pair) := by
  unfold visitPair
  apply FailsAs.bind (valueSafe_visit s pair.1)
  intro visited
  apply FailsAs.ite
  · exact valueSafe_malformed
  · exact valueSafe_visit visited pair.2

/-- Only a mapping has pairs, and asking for those of anything else is a malformation. -/
theorem valueSafe_pairsOf (g : Graph) (id : NodeId) : ValueSafe (pairsOf g id) := by
  rw [pairsOf]
  split
  · exact .ok _
  · exact valueSafe_malformed

theorem valueSafe_mergeSources (g : Graph) (id : NodeId) : ValueSafe (mergeSources g id) := by
  rw [mergeSources]
  split
  · exact .ok _
  · exact .ok _
  · exact valueSafe_malformed

/-- Merging mappings into another one fails where something else is to be merged. By induction on the steps, as
a merged mapping may merge others. -/
theorem valueSafe_flatten (n : Nat) (g : Graph) (id : NodeId) (merged : List (NodeId × NodeId)) :
    ValueSafe (flatten n g id merged) := by
  induction n generalizing g id merged with
  | zero => exact .ok _
  | succ n ih =>
    unfold flatten
    apply FailsAs.bind (valueSafe_pairsOf g id)
    intro pairs
    split
    · exact .pure _
    · next before pair after _ =>
      -- The induction hypothesis serves twice, for the sources of the merge and for the keys behind it.
      apply FailsAs.bind (valueSafe_mergeSources _ pair.2)
      intro sources
      apply FailsAs.bind
      · apply FailsAs.foldlM
        intro g source
        exact ih g source []
      · intro g
        apply FailsAs.bind
        · exact FailsAs.mapM (valueSafe_pairsOf g) sources
        · intro found
          exact ih g id (merged ++ found.flatten)

theorem valueSafe_visitSinglePair (s : Loader) (id : NodeId) : ValueSafe (s.visitSinglePair id) := by
  unfold visitSinglePair
  apply FailsAs.bind (valueSafe_pairsOf s.graph id)
  intro pairs
  split
  · next key value =>
    apply FailsAs.bind (valueSafe_visit s key)
    intro visited
    exact valueSafe_visit visited value
  · exact valueSafe_malformed

theorem valueSafe_visitMapping (s : Loader) (id : NodeId) : ValueSafe (s.visitMapping id) := by
  unfold visitMapping
  apply FailsAs.bind (valueSafe_flatten _ _ _ _)
  intro graph
  apply FailsAs.bind (valueSafe_pairsOf graph id)
  intro pairs
  exact .foldlM valueSafe_visitPair _ pairs

theorem valueSafe_visitCollection (s : Loader) (id : NodeId) : ValueSafe (s.visitCollection id) := by
  rw [visitCollection]
  split
  · exact valueSafe_visitMapping s id
  · exact valueSafe_visitMapping s id
  · exact .foldlM valueSafe_visit s _
  · exact .foldlM valueSafe_visitSinglePair s _
  · exact .foldlM valueSafe_visitSinglePair s _
  · exact valueSafe_malformed

/-- Working off the collections that are left fails with a fault of values only, however many there are: the
count of steps bounds the work and is never itself a reason to fail. -/
theorem valueSafe_drain (n : Nat) (s : Loader) : ValueSafe (drain n s) := by
  induction n generalizing s with
  | zero => exact .ok _
  | succ n ih =>
    unfold drain
    split
    · exact .ok _
    · next id queue _ =>
      apply FailsAs.bind (valueSafe_visitCollection _ id)
      intro next
      exact ih next

end Loader

/-- Loading a document that could be read as nodes fails with a fault of values: what can still go wrong then is
the nesting of kinds, a malformation, or a scalar that does not spell what its tag promises. -/
theorem valueSafe_load (doc : Document) : ValueSafe doc.load := by
  unfold Document.load
  apply FailsAs.bind (Loader.valueSafe_visit _ doc.root)
  intro visited
  apply FailsAs.bind (Loader.valueSafe_drain _ visited)
  intro drained
  apply FailsAs.ite
  · apply FailsAs.bind (Loader.valueSafe_pairsOf drained.graph doc.root)
    intro pairs
    exact .pure _
  · exact .pure _

/-- A text that cannot be loaded is malformed, or one scalar in it is at fault: a truth value, a number or a
date that its text does not spell, or an escape that names no character. -/
theorem load_fault {text : String} {fault : Fault} (hfault : load text = .error fault) :
    fault = .malformed ∨ fault = .codePoint ∨ fault = .codePointOverflow ∨ fault.IsOfScalar := by
  have hload : FailsAs (fun fault => fault.IsOfToken ∨ fault.IsOfScalar) (load text) := by
    refine .bind ((failsAs_parse _).mono ?_) fun doc? => ?_
    · rintro fault (rfl | hended)
      · exact .inl (.inl rfl)
      · exact .inl (ofText_fault hended)
    · cases doc? with
      | none => exact .pure _
      | some doc => exact (valueSafe_load doc).mono fun fault hvalue => hvalue.imp_left .inl
  obtain (hmalformed | hcode | hcode) | hscalar := hload fault hfault
  · exact .inl hmalformed
  · exact .inr (.inl hcode)
  · exact .inr (.inr (.inl hcode))
  · exact .inr (.inr (.inr hscalar))

/-- What may stand at the root of a document: a mapping, null, another value that says nothing (no, zero, an empty
text or an empty collection), or anything else. -/
inductive RootKind where
  | mapping
  | null
  | empty
  | other
deriving Repr, DecidableEq

/-- What stands at the root of a document that was loaded. -/
def Document.rootKind (doc : Document) : Loaded → RootKind
  | .fields _ => .mapping
  | .nothing => if (doc.graph.get doc.root).tag = .null then .null else .empty
  | .other => .other

/-- What stands at the root of a text; a text without a document counts as null. -/
def rootKind (text : String) : Except Fault RootKind := do
  match ← Document.parse (TokenStream.ofText text.toList) with
  | none => return .null
  | some doc => return doc.rootKind (← doc.load)

/-- A document with null at its root says nothing, like one that is empty. -/
theorem Document.load_of_null {doc : Document} (hnull : (doc.graph.get doc.root).tag = .null) {loaded : Loaded}
    (hload : doc.load = .ok loaded) : loaded = .nothing := by
  have hvisit (text : String) (htext : Loader.scalarText doc.graph (doc.graph.nodes.size + 1) doc.root = .ok text) :
      ({ graph := doc.graph } : Loader).visit doc.root =
        .ok { graph := doc.graph, values := [(doc.root, .null)] } := by
    simp [Loader.visit, hnull, Tag.isCollection, htext, readScalar, bind, Except.bind, pure, Except.pure]
  cases htext : Loader.scalarText doc.graph (doc.graph.nodes.size + 1) doc.root with
  | error fault =>
    simp [Document.load, Loader.visit, hnull, Tag.isCollection, htext, bind, Except.bind] at hload
  | ok text =>
    have hvalue : ({ graph := doc.graph, values := [(doc.root, .null)] } : Loader).valueOf doc.root = .null := by
      simp [Loader.valueOf, hnull]
    simp [Document.load, hvisit text htext, Loader.drain, hnull, hvalue, Tag.isCollection, Value.isNothing, bind,
      Except.bind, pure, Except.pure] at hload
    exact hload.symm

/-- The kind at the root tells what loading gives, so settings can be told by it without looking at how
documents are loaded. -/
theorem load_of_rootKind (text : String) :
    match rootKind text with
    | .error fault => load text = .error fault
    | .ok .mapping => ∃ entries, load text = .ok (.fields entries)
    | .ok .null => load text = .ok .nothing
    | .ok .empty => load text = .ok .nothing
    | .ok .other => load text = .ok .other := by
  rw [rootKind, load]
  cases Document.parse (TokenStream.ofText text.toList) with
  | error fault => rfl
  | ok doc? =>
    cases doc? with
    | none => rfl
    | some doc =>
      cases hload : doc.load with
      | error fault => simp [hload, bind, Except.bind]
      | ok loaded =>
        cases loaded with
        | fields entries => simp [hload, bind, Except.bind, pure, Except.pure, Document.rootKind]
        | other => simp [hload, bind, Except.bind, pure, Except.pure, Document.rootKind]
        | nothing =>
          by_cases hnull : (doc.graph.get doc.root).tag = .null <;>
            simp [hload, bind, Except.bind, pure, Except.pure, Document.rootKind, hnull]

/-- Null stands at the root where there is no document, or where the root has the kind of null. Other values
that say nothing are told apart from it here. -/
theorem rootKind_eq_null_iff (text : String) :
    rootKind text = .ok .null ↔ Document.parse (TokenStream.ofText text.toList) = .ok none ∨
      ∃ doc loaded, Document.parse (TokenStream.ofText text.toList) = .ok (some doc) ∧ doc.load = .ok loaded ∧
        (doc.graph.get doc.root).tag = .null := by
  rw [rootKind]
  cases Document.parse (TokenStream.ofText text.toList) with
  | error fault => simp [bind, Except.bind]
  | ok doc? =>
    cases doc? with
    | none => simp [bind, Except.bind, pure, Except.pure]
    | some doc =>
      cases hload : doc.load with
      | error fault => simp [hload, bind, Except.bind]
      | ok loaded =>
        by_cases hnull : (doc.graph.get doc.root).tag = .null
        · rw [Document.load_of_null hnull hload] at hload
          simp [hload, hnull, bind, Except.bind, pure, Except.pure, Document.rootKind]
        · cases loaded <;> simp [hload, hnull, bind, Except.bind, pure, Except.pure, Document.rootKind]

end ClassDiagram.Yaml
