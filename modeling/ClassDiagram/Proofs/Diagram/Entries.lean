import ClassDiagram.Proofs.Diagram.Known
import Mathlib.Data.List.Forall2

namespace ClassDiagram.PlantUml

/-- What a diagram shows of an entity. -/
structure Entry where
  block : String
  edges : List Edge
deriving DecidableEq

/-- What a diagram with the names `known` shows of an entity. -/
def entryOf (showVisibility : Bool) (known : List String) (e : Entity) : Entry where
  block := block showVisibility e
  edges := edges known e

/-- What the diagram of entities shows of each of them. -/
def entries (showVisibility : Bool) (es : List Entity) : List Entry :=
  es.map (entryOf showVisibility (knownNames es))

/-- The blocks of all entries, one below the other, then the edges of all. -/
def page (shown : List Entry) : String :=
  "@startuml\n\n" ++ String.intercalate "\n\n" (shown.map (·.block)) ++ "\n" ++
    String.intercalate "\n\n" (shown.map fun entry => String.join (entry.edges.map Edge.line)) ++ "\n@enduml"

/-- Entries with the same block, the second of which has the edges of the first in their order, and perhaps
more between them. -/
structure Entry.Grows (entry grown : Entry) : Prop where
  block : entry.block = grown.block
  edges : entry.edges.Sublist grown.edges

/-- The blocks of the entries are the blocks of the entities; no other entity and no known name has a say in
them. -/
theorem map_block_entries (showVisibility : Bool) (es : List Entity) :
    (entries showVisibility es).map (·.block) = es.map (block showVisibility) := by
  rw [entries, List.map_map]
  rfl

/-- The edges of the entries are those of the entities, with the names of all of them known. -/
theorem map_edges_entries (showVisibility : Bool) (es : List Entity) :
    (entries showVisibility es).map (·.edges) = es.map (edges (knownNames es)) := by
  rw [entries, List.map_map]
  rfl

/-- A diagram is nothing but its entries. What can be said of the entries of two diagrams is therefore all that
can be said of their texts. -/
theorem render_eq_page (showVisibility : Bool) (es : List Entity) :
    render showVisibility es = page (entries showVisibility es) := by
  have htexts : (entries showVisibility es).map (fun entry => String.join (entry.edges.map Edge.line)) =
      es.map (edgeText (knownNames es)) := by
    rw [entries, List.map_map]
    rfl
  change _ = "@startuml\n\n" ++ String.intercalate "\n\n" ((entries showVisibility es).map (·.block)) ++ "\n" ++
    String.intercalate "\n\n"
      ((entries showVisibility es).map fun entry => String.join (entry.edges.map Edge.line)) ++ "\n@enduml"
  rw [map_block_entries, htexts]
  rfl

/-- With more names known an entry grows: its block is the same text, and its edges are still there in their
order. -/
theorem entryOf_grows {known more : List String} (hmore : known ⊆ more) (showVisibility : Bool) (e : Entity) :
    (entryOf showVisibility known e).Grows (entryOf showVisibility more e) :=
  ⟨rfl, edges_sublist hmore e⟩

/-- Each entry grows at its place, and those of the entities that joined stand between them. The names of the
former entities are all known in the larger diagram. -/
theorem entries_grow (showVisibility : Bool) {few all : List Entity} (hsub : few.Sublist all) :
    List.SublistForall₂ Entry.Grows (entries showVisibility few) (entries showVisibility all) := by
  rw [List.sublistForall₂_iff]
  refine ⟨few.map (entryOf showVisibility (knownNames all)), ?_, hsub.map _⟩
  rw [entries, List.forall₂_map_left_iff, List.forall₂_map_right_iff, List.forall₂_same]
  intro e _
  exact entryOf_grows (knownNames_subset hsub) showVisibility e

/-- Which names are known decides on the edges, and not how often or where they are listed. Two lists of the
same names are a special case of more names, in both directions. -/
theorem edges_congr {known known' : List String} (hsame : ∀ name, name ∈ known ↔ name ∈ known') (e : Entity) :
    edges known e = edges known' e := by
  have hmore : known ⊆ known' := fun name => (hsame name).mp
  have hless : known' ⊆ known := fun name => (hsame name).mpr
  exact (edges_sublist hmore e).antisymm (edges_sublist hless e)

/-- Entities in another order have the same names, and so each has the entry that it had; the entries change
places with them. -/
theorem entries_perm (showVisibility : Bool) {es es' : List Entity} (hperm : es.Perm es') :
    (entries showVisibility es).Perm (entries showVisibility es') := by
  have hnames : (knownNames es).Perm (knownNames es') := hperm.map _
  have hentry : entryOf showVisibility (knownNames es) = entryOf showVisibility (knownNames es') := by
    funext e
    rw [entryOf, entryOf, edges_congr (fun _ => hnames.mem_iff)]
  rw [entries, entries, hentry]
  exact hperm.map _

/-- More known names never take an edge from an entity nor change the order of its edges, whatever is nested in
it. A diagram is made of one entry for each entity, block and edges; in a diagram of more entities the entries
of the former ones stand in the same order, each with its block unchanged and its edges among those it has
there; and entities in another order have the same entries in that order. -/
theorem edges_mono_entries (showVisibility : Bool) :
    (∀ (e : Entity) (known more : List String), known ⊆ more → (edges known e).Sublist (edges more e)) ∧
      (∀ es, render showVisibility es = page (entries showVisibility es) ∧
        (entries showVisibility es).map (·.block) = es.map (block showVisibility) ∧
        (entries showVisibility es).map (·.edges) = es.map (edges (knownNames es))) ∧
      (∀ few all : List Entity, few.Sublist all →
        List.SublistForall₂ Entry.Grows (entries showVisibility few) (entries showVisibility all)) ∧
      ∀ es es' : List Entity, es.Perm es' → (entries showVisibility es).Perm (entries showVisibility es') := by
  refine ⟨?_, ?_, ?_, ?_⟩
  · intro e known more hmore
    exact edges_sublist hmore e
  · intro es
    exact ⟨render_eq_page showVisibility es, map_block_entries showVisibility es,
      map_edges_entries showVisibility es⟩
  · intro few all hsub
    exact entries_grow showVisibility hsub
  · intro es es' hperm
    exact entries_perm showVisibility hperm

/-- A struct whose field has a type of three names, listed below it. -/
def stall : Entity :=
  .ofStruct "Stall" [.ofField "goods" "Map<Book,Pen>" [.ofStruct "Map<Book,Pen>"
    [.ofField "" "Map" [] .hidden, .ofField "" "Book" [] .hidden, .ofField "" "Pen" [] .hidden] .hidden] .hidden]
    .hidden

/-- With the pen in the diagram the stall has an edge more, between the two that it had. -/
theorem entries_stall :
    (["Book"] ⊆ ["Pen", "Book"] ∧ (edges ["Book"] stall).Sublist (edges ["Pen", "Book"] stall) ∧
        edges ["Book"] stall = [⟨"Map<Book,Pen>", "Book"⟩, ⟨"Stall", "Map<Book,Pen>"⟩] ∧
        edges ["Pen", "Book"] stall =
          [⟨"Map<Book,Pen>", "Book"⟩, ⟨"Map<Book,Pen>", "Pen"⟩, ⟨"Stall", "Map<Book,Pen>"⟩]) ∧
      ([stall, .ofStruct "Book" [] .hidden].Sublist
          [.ofEnum "Pen" .hidden, stall, .ofStruct "Book" [] .hidden] ∧
        List.SublistForall₂ Entry.Grows (entries true [stall, .ofStruct "Book" [] .hidden])
          (entries true [.ofEnum "Pen" .hidden, stall, .ofStruct "Book" [] .hidden])) ∧
      ([stall, .ofStruct "Book" [] .hidden].Perm [.ofStruct "Book" [] .hidden, stall] ∧
        (entries true [stall, .ofStruct "Book" [] .hidden]).Perm
          (entries true [.ofStruct "Book" [] .hidden, stall])) := by
  obtain ⟨hmono, _, hgrow, hperm⟩ := edges_mono_entries true
  have hnames : ["Book"] ⊆ ["Pen", "Book"] := by decide
  have hsub : [stall, .ofStruct "Book" [] .hidden].Sublist
      [.ofEnum "Pen" .hidden, stall, .ofStruct "Book" [] .hidden] := List.sublist_cons_self _ _
  have hswap : [stall, .ofStruct "Book" [] .hidden].Perm [.ofStruct "Book" [] .hidden, stall] := .swap _ _ _
  exact ⟨⟨hnames, hmono stall _ _ hnames, by decide +kernel, by decide +kernel⟩, ⟨hsub, hgrow _ _ hsub⟩,
    ⟨hswap, hperm _ _ hswap⟩⟩

end ClassDiagram.PlantUml
