import ClassDiagram.Proofs.Diagram.Edges

namespace ClassDiagram.PlantUml

variable {known more : List String}

/-- An edge from an owner stays if more names are known; it may come if it was not there. -/
theorem ownEdge_sublist (hmore : known ⊆ more) (owner displayName : String) :
    (ownEdge known owner displayName).Sublist (ownEdge more owner displayName) := by
  by_cases hmentioned : ∃ token ∈ Signature.tokens displayName, token ∈ known
  · obtain ⟨token, htoken, hknown⟩ := hmentioned
    have hstill : ∃ token ∈ Signature.tokens displayName, token ∈ more := ⟨token, htoken, hmore hknown⟩
    rw [ownEdge, ownEdge, if_pos hstill]
    split
    · exact List.Sublist.refl _
    · exact List.nil_sublist _
  · rw [ownEdge, if_neg hmentioned]
    exact List.nil_sublist _

-- The recursion is that of the renderer: from a type to its members, to the structs nested in a member, and
-- back to the members of these.
mutual

/-- Names that join the diagram take no edge away and leave the order of the edges as it was, however deep the
members of the type are nested. The three statements follow the recursion of the renderer. -/
theorem edges_sublist (hmore : known ⊆ more) : (e : Entity) → (edges known e).Sublist (edges more e)
  | ⟨_, owner, _, _, members⟩ => by
    rw [edges, edges]
    exact edgesOfMembers_sublist hmore owner members

theorem edgesOfMembers_sublist (hmore : known ⊆ more) (owner : String) :
    (members : List Entity) → (edgesOfMembers known owner members).Sublist (edgesOfMembers more owner members)
  | [] => by
    rw [edgesOfMembers]
    exact List.nil_sublist _
  | ⟨kind, displayName, _, _, nested⟩ :: rest => by
    simp only [edgesOfMembers, ← ownEdge_eq_ite_mentions]
    refine List.Sublist.append ?_ (edgesOfMembers_sublist hmore owner rest)
    split
    · exact (edgesOfNested_sublist hmore nested).append (ownEdge_sublist hmore owner displayName)
    · exact List.Sublist.refl _

theorem edgesOfNested_sublist (hmore : known ⊆ more) :
    (nested : List Entity) → (edgesOfNested known nested).Sublist (edgesOfNested more nested)
  | [] => by
    rw [edgesOfNested]
    exact List.nil_sublist _
  | ⟨kind, displayName, _, _, members⟩ :: rest => by
    simp only [edgesOfNested]
    refine List.Sublist.append ?_ (edgesOfNested_sublist hmore rest)
    split
    · exact edgesOfMembers_sublist hmore displayName members
    · exact List.Sublist.refl _

end

/-- Fewer entities have fewer names to know. This is what puts the edges of a part of a diagram into those of
the whole. -/
theorem knownNames_subset {few all : List Entity} (hsub : few.Sublist all) : knownNames few ⊆ knownNames all :=
  (hsub.map _).subset

end ClassDiagram.PlantUml
