import ClassDiagram.Diagram.PlantUml
import ClassDiagram.Proofs.Build.Members
import ClassDiagram.Proofs.Signature.Tokens

namespace ClassDiagram.PlantUml

open Signature (tokens isCompound)

/-- The edges that hang off the full text of a compound type: one for each token that is a known name. -/
def nestedEdges (known : List String) (type : String) : List Edge :=
  if isCompound type then ((tokens type).filter (· ∈ known)).map fun token => ⟨type, token⟩ else []

/-- The edge from an owner to a display name, if one of its tokens is a known name. -/
def ownEdge (known : List String) (owner displayName : String) : List Edge :=
  if ∃ token ∈ tokens displayName, token ∈ known then [⟨owner, displayName⟩] else []

/-- The edges for a member: for a field those of its type and then its own, for a method its own. -/
def memberEdges (known : List String) (owner : String) (m : Entity) : List Edge :=
  match m.kind with
  | .field => nestedEdges known m.displayName ++ ownEdge known owner m.displayName
  | .method => ownEdge known owner m.name
  | _ => []

/-- A type is worth an edge if one of its tokens is a known name; which of them it is does not matter for the
edge of the owner. -/
theorem mentions_iff {known : List String} {type : String} :
    mentions known type = true ↔ ∃ token ∈ tokens type, token ∈ known := by
  simp [mentions, List.any_eq_true]

theorem ownEdge_eq_ite_mentions (known : List String) (owner displayName : String) :
    ownEdge known owner displayName = if mentions known displayName then [⟨owner, displayName⟩] else [] := by
  by_cases hmentions : mentions known displayName
  · rw [ownEdge, if_pos (mentions_iff.mp hmentions), if_pos hmentions]
  · rw [ownEdge, if_neg (mt mentions_iff.mpr hmentions), if_neg hmentions]

theorem edgesOfNested_eq_flatMap (known : List String) (nested : List Entity) :
    edgesOfNested known nested = nested.flatMap fun e => if e.kind = .struct then edges known e else [] := by
  induction nested with
  | nil => simp [edgesOfNested]
  | cons e rest ih =>
    obtain ⟨kind, displayName, name, visibility, members⟩ := e
    simp [edgesOfNested, edges, ih]

/-- The members are gone through one by one, and each adds its nested edges and then its own. Members of other
kinds add nothing. -/
theorem edgesOfMembers_eq_flatMap (known : List String) (owner : String) (members : List Entity) :
    edgesOfMembers known owner members = members.flatMap fun m =>
      if m.isMember then edgesOfNested known m.members ++ ownEdge known owner m.displayName else [] := by
  induction members with
  | nil => simp [edgesOfMembers]
  | cons m rest ih =>
    obtain ⟨kind, displayName, name, visibility, members⟩ := m
    simp [edgesOfMembers, Entity.isMember, ownEdge_eq_ite_mentions, ih]

/-- The edges of an entity without the mutual recursion that finds them: those of its members, in the order of
the members. -/
theorem edges_eq_flatMap (known : List String) (e : Entity) :
    edges known e = e.members.flatMap fun m =>
      if m.isMember then edgesOfNested known m.members ++ ownEdge known e.displayName m.displayName
      else [] := by
  cases e
  exact edgesOfMembers_eq_flatMap known _ _

/-- The token of a type that is known gets an edge of its own, and no other token does. A token has no delimiter
in it, so it is its own only token. -/
theorem ownEdge_of_mem_tokens {known : List String} {token type : String} (htoken : token ∈ tokens type)
    (owner : String) : ownEdge known owner token = if token ∈ known then [⟨owner, token⟩] else [] := by
  simp [ownEdge, Signature.tokens_of_mem_tokens htoken]

/-- The struct that lists the tokens of a type has one edge for each known one, repetitions included. They hang
off the full text of the type. -/
theorem edges_dependencies (known : List String) (type : String) :
    edges known (Build.dependencies type) =
      ((tokens type).filter (· ∈ known)).map fun token => ⟨type, token⟩ := by
  rw [edges_eq_flatMap]
  simp only [Build.dependencies, Entity.ofStruct, List.flatMap_map]
  calc (tokens type).flatMap _
      = (tokens type).flatMap fun token => if token ∈ known then [(⟨type, token⟩ : Edge)] else [] := by
        refine List.flatMap_congr fun token htoken => ?_
        simp [Entity.ofField, Entity.isMember, edgesOfNested, ownEdge_of_mem_tokens htoken]
    _ = ((tokens type).filter (· ∈ known)).map fun token => ⟨type, token⟩ := by
        induction tokens type with
        | nil => rfl
        | cons token rest ih =>
          by_cases hknown : token ∈ known
          · simp [hknown, ih]
          · simp [hknown, ih]

/-- The references that are listed below a field lead to the same edges as the tokens of its type. A simple type
has no listing and no nested edge. -/
theorem edgesOfNested_field (known : List String) (d : FieldDeclaration) :
    edgesOfNested known (Build.field d).members = nestedEdges known (Build.field d).displayName := by
  by_cases hcompound : isCompound (Signature.canonical d.type)
  · simp [edgesOfNested_eq_flatMap, Build.field, Entity.ofField, nestedEdges, hcompound, ← edges_dependencies,
      Build.dependencies, Entity.ofStruct]
  · simp [edgesOfNested_eq_flatMap, Build.field, Entity.ofField, nestedEdges, hcompound]

/-- Parameters are no structs, so nothing hangs off the parameters of a method, whatever their types are. -/
theorem edgesOfNested_parameters (known : List String) (ds : List ParameterDeclaration) :
    edgesOfNested known (Build.parameters ds).1 = [] := by
  rw [edgesOfNested_eq_flatMap, List.flatMap_eq_nil_iff]
  intro e he
  obtain ⟨_, _, name, _, rfl⟩ := Build.mem_parameters he
  simp [Entity.ofParameter]

/-- What the renderer finds for the members of a built struct is what their types and names say, without the
listings that it goes through. -/
theorem edges_of_madeFrom {ds : List Declaration} {e : Entity} (hmade : e.MadeFrom ds) (known : List String) :
    edges known e = e.members.flatMap (memberEdges known e.displayName) := by
  rw [edges_eq_flatMap]
  cases hmade with
  | enum d henum => rfl
  | struct d methods hstruct hmethods =>
    refine List.flatMap_congr fun m hm => ?_
    rcases List.mem_append.mp hm with hm | hm
    · obtain ⟨f, _, rfl⟩ := List.mem_map.mp hm
      rw [edgesOfNested_field]
      rfl
    · obtain ⟨f, _, rfl⟩ := List.mem_map.mp hm
      have hnested : edgesOfNested known (Build.method f).1.members = [] :=
        edgesOfNested_parameters known f.parameters
      rw [hnested]
      rfl

/-- The members of a built entity are fields, whose types are in canonical form, and methods, whose display
names are their names. Their edges differ for this reason: a method is known by its name only. -/
theorem member_of_madeFrom {ds : List Declaration} {e m : Entity} (hmade : e.MadeFrom ds)
    (hm : m ∈ e.members) :
    (m.kind = .field ∧ Signature.canonical m.displayName = m.displayName) ∨
      (m.kind = .method ∧ m.displayName = m.name) := by
  cases hmade with
  | enum d henum => cases hm
  | struct d methods hstruct hmethods =>
    rcases List.mem_append.mp hm with hm | hm
    · obtain ⟨f, _, rfl⟩ := List.mem_map.mp hm
      exact .inl ⟨rfl, Signature.canonical_canonical f.type⟩
    · obtain ⟨f, _, rfl⟩ := List.mem_map.mp hm
      exact .inr ⟨rfl, rfl⟩

/-- A compound type gets the edge of its owner exactly when one of its tokens gets an edge. Both ask whether a
token is known. -/
theorem ownEdge_ne_nil_iff {type : String} (hcompound : isCompound type = true) (known : List String)
    (owner : String) : ownEdge known owner type ≠ [] ↔ nestedEdges known type ≠ [] := by
  simp [ownEdge, nestedEdges, hcompound]

/-- The edge lines of a built entity are those of its members in order, and the names that count are those of
all units of the diagram. A compound type has the edge of its owner exactly when it has an edge of a token,
which stands before it. The tokens that a field lists and the tokens of its type are found apart from each
other; since a token is its own only token, they lead to the same edges. -/
theorem edgeText_eq_memberEdges (b : Builder) (units : List SourceUnit) (e : Entity)
    (he : e ∈ (b.buildAll units).1) :
    edgeText (knownNames (b.buildAll units).1) e =
        String.join ((e.members.flatMap (memberEdges (knownNames (b.buildAll units).1) e.displayName)).map
          Edge.line) ∧
      (∀ m ∈ e.members, (m.kind = .field ∧ Signature.canonical m.displayName = m.displayName) ∨
        (m.kind = .method ∧ m.displayName = m.name)) ∧
      ∀ m ∈ e.members, m.kind = .field → isCompound m.displayName = true →
        (ownEdge (knownNames (b.buildAll units).1) e.displayName m.displayName ≠ [] ↔
          nestedEdges (knownNames (b.buildAll units).1) m.displayName ≠ []) := by
  obtain ⟨unit, _, hmade⟩ := Builder.madeFrom_of_mem_buildAll he
  refine ⟨?_, fun m hm => member_of_madeFrom hmade hm, fun m _ _ hcompound => ?_⟩
  · rw [edgeText, edges_of_madeFrom hmade]
  · exact ownEdge_ne_nil_iff hcompound _ _

/-- Two units, the first of which refers to the type of the second. -/
def shelfUnits : List SourceUnit :=
  [{ declarations :=
      [.impl { target := "Shelf", methods := [
          { name := "Book", parameters := [{ pattern := "mut b", type := "Book" }] }] },
        .struct { name := "Shelf", fields := [{ name := "rows", type := "Map<Book, Vec<Book>>" }] }] },
    { declarations := [.struct { name := "Book" }] }]

/-- The struct of the first unit. -/
def shelf : Entity :=
  .ofStruct "Shelf" [Build.field { name := "rows", type := "Map<Book, Vec<Book>>" },
    .ofMethod "Book" [.ofParameter "b" "Book"] .hidden] .hidden

/-- A type that names the struct of the other unit twice has two edges of its own before the edge of its owner. -/
theorem edgeText_shelf :
    shelf ∈ (({} : Builder).buildAll shelfUnits).1 ∧
      edgeText (knownNames (({} : Builder).buildAll shelfUnits).1) shelf =
        "\"Map<Book,Vec<Book>>\" <-- \"Book\"\n\"Map<Book,Vec<Book>>\" <-- \"Book\"\n" ++
          "\"Shelf\" <-- \"Map<Book,Vec<Book>>\"\n\"Shelf\" <-- \"Book\"\n" ∧
      (ownEdge (knownNames (({} : Builder).buildAll shelfUnits).1) "Shelf" "Map<Book,Vec<Book>>" ≠ [] ↔
        nestedEdges (knownNames (({} : Builder).buildAll shelfUnits).1) "Map<Book,Vec<Book>>" ≠ []) := by
  have hbuilt : (({} : Builder).buildAll shelfUnits).1 = [shelf, .ofStruct "Book" [] .hidden] := by rfl
  have hshelf : shelf ∈ (({} : Builder).buildAll shelfUnits).1 := by simp [hbuilt]
  obtain ⟨htext, _, hcompound⟩ := edgeText_eq_memberEdges {} shelfUnits shelf hshelf
  refine ⟨hshelf, htext.trans (by decide +kernel), ?_⟩
  exact hcompound (Build.field { name := "rows", type := "Map<Book, Vec<Book>>" })
    (by simp [shelf, Entity.ofStruct]) rfl (by decide)

end ClassDiagram.PlantUml
