import ClassDiagram.Proofs.Diagram.Determined

namespace ClassDiagram

namespace Entity

-- Over the members and what is in them, as `withVisibility` itself goes.
mutual

/-- Of two visibilities given to the whole entity the later one stays, since both reach the same places,
whatever the depth. -/
theorem withVisibility_withVisibility (v u : Visibility) :
    (e : Entity) → (e.withVisibility u).withVisibility v = e.withVisibility v
  | ⟨_, _, _, _, members⟩ => by
    rw [withVisibility, withVisibility, withVisibility, withVisibilityAll_withVisibilityAll v u members]

theorem withVisibilityAll_withVisibilityAll (v u : Visibility) :
    (es : List Entity) → withVisibilityAll v (withVisibilityAll u es) = withVisibilityAll v es
  | [] => rfl
  | e :: rest => by
    rw [withVisibilityAll, withVisibilityAll, withVisibilityAll, withVisibility_withVisibility v u e,
      withVisibilityAll_withVisibilityAll v u rest]

end

/-- The visibility that an entity had of its own is forgotten, so entities that differ in it alone become equal. -/
theorem withVisibility_congr (v u : Visibility) (e : Entity) :
    ({ e with visibility := u } : Entity).withVisibility v = e.withVisibility v := by
  cases e
  rfl

/-- A member of a type of the given kind, with its own visibility if it is a field or method of a struct. All
else in it is taken to be hidden. -/
def withMarkedVisibility (owner : EntityKind) (m : Entity) : Entity :=
  { m.withVisibility .hidden with
    visibility := if owner = .struct ∧ m.isMember = true then m.visibility else .hidden }

/-- The entity with those visibilities alone that a diagram can show: those of the fields and methods of a
struct. Its own and all others, at any depth, are taken to be hidden. -/
def withShownVisibility (e : Entity) : Entity :=
  { e with visibility := .hidden, members := e.members.map (withMarkedVisibility e.kind) }

/-- Forgetting the visibilities that no diagram shows and then giving everything one visibility is the same as
giving it at once. -/
theorem withVisibility_withMarkedVisibility (v : Visibility) (owner : EntityKind) (m : Entity) :
    (m.withMarkedVisibility owner).withVisibility v = m.withVisibility v := by
  rw [withMarkedVisibility, withVisibility_congr, withVisibility_withVisibility]

/-- What is left open by `withShownVisibility` is only visibilities. Entities that agree on what can be shown
therefore agree in all but visibilities, which is what their names and edges depend on. -/
theorem withVisibility_withShownVisibility (v : Visibility) (e : Entity) :
    e.withShownVisibility.withVisibility v = e.withVisibility v := by
  cases e with
  | mk kind displayName name visibility members =>
    rw [withShownVisibility, withVisibility, withVisibility, withVisibilityAll_eq_map, withVisibilityAll_eq_map,
      List.map_map]
    congr 1
    exact List.map_congr_left fun m _ => withVisibility_withMarkedVisibility v kind m

theorem kind_withVisibility (v : Visibility) (e : Entity) : (e.withVisibility v).kind = e.kind := by
  cases e
  rfl

theorem displayName_withVisibility (v : Visibility) (e : Entity) :
    (e.withVisibility v).displayName = e.displayName := by
  cases e
  rfl

theorem isMember_withVisibility (v : Visibility) (e : Entity) : (e.withVisibility v).isMember = e.isMember := by
  cases e
  rfl

theorem isMember_withMarkedVisibility (owner : EntityKind) (m : Entity) :
    (m.withMarkedVisibility owner).isMember = m.isMember :=
  isMember_withVisibility .hidden m

end Entity

namespace PlantUml

open Entity

/-- The line of a member behind its marker. -/
def lineEnd (m : Entity) : String :=
  " " ++ m.name ++
    if m.kind = .method then
      "(" ++ String.intercalate ", " ((m.members.filter (·.kind = .parameter)).map parameter) ++ ")\n"
    else ": " ++ m.displayName ++ "\n"

/-- The line of a member is a blank, the marker and a rest that no visibility has a say in. This is where the
marker is told from the text behind it. -/
theorem member_eq (showVisibility : Bool) (m : Entity) :
    member showVisibility m = "    " ++ marker showVisibility m.visibility ++ lineEnd m := by
  by_cases hmethod : m.kind = .method
  · simp [member, lineEnd, hmethod, String.append_assoc]
  · simp [member, lineEnd, hmethod, String.append_assoc]

/-- The members that the block of a type lists. -/
def listed (e : Entity) : List Entity :=
  if e.kind = .struct then e.members.filter Entity.isMember else []

/-- The first line of the block of a type. -/
def opening (e : Entity) : String :=
  (if e.kind = .enum then "enum" else "class") ++ " \"" ++ e.displayName ++ "\" \x7b\n"

/-- A block is its first line, the lines of the members that it lists and the closing brace; the switch for
visibility reaches the lines of the members only. -/
theorem block_eq (showVisibility : Bool) (e : Entity) :
    block showVisibility e =
      opening e ++ String.join ((listed e).map (member showVisibility)) ++ "\x7d" := by
  by_cases hstruct : e.kind = .struct
  · simp [block, opening, listed, hstruct]
  · simp [block, opening, listed, hstruct]

/-- Parameters have visibilities of their own, but the line of a method shows only their names and types. -/
theorem lineEnd_withVisibility (v : Visibility) (m : Entity) : lineEnd (m.withVisibility v) = lineEnd m := by
  cases m with
  | mk kind displayName name visibility members =>
    have hparameter : ∀ p : Entity, parameter (p.withVisibility v) = parameter p := by
      intro p
      cases p
      rfl
    simp [lineEnd, withVisibility, withVisibilityAll_eq_map, List.filter_map, Function.comp_def, hparameter,
      kind_withVisibility]

-- The recursion is that of the edges, which take the kinds, display names and members of what they meet.
mutual

/-- No visibility counts for the edges, neither of the entity nor of anything below it: they come from names,
kinds and types alone. -/
theorem edges_withVisibility (v : Visibility) (known : List String) :
    (e : Entity) → edges known (e.withVisibility v) = edges known e
  | ⟨_, owner, _, _, members⟩ => by
    rw [withVisibility, edges, edges, edgesOfMembers_withVisibilityAll v known owner members]

theorem edgesOfMembers_withVisibilityAll (v : Visibility) (known : List String) (owner : String) :
    (members : List Entity) →
      edgesOfMembers known owner (withVisibilityAll v members) = edgesOfMembers known owner members
  | [] => rfl
  | ⟨_, _, _, _, nested⟩ :: rest => by
    rw [withVisibilityAll, withVisibility, edgesOfMembers, edgesOfMembers,
      edgesOfNested_withVisibilityAll v known nested, edgesOfMembers_withVisibilityAll v known owner rest]

theorem edgesOfNested_withVisibilityAll (v : Visibility) (known : List String) :
    (nested : List Entity) → edgesOfNested known (withVisibilityAll v nested) = edgesOfNested known nested
  | [] => rfl
  | ⟨_, displayName, _, _, members⟩ :: rest => by
    rw [withVisibilityAll, withVisibility, edgesOfNested, edgesOfNested,
      edgesOfMembers_withVisibilityAll v known displayName members, edgesOfNested_withVisibilityAll v known rest]

end

/-- Entities that are equal once everything in them is hidden have the same edges. The two need not be related
in any other way. -/
theorem edges_congr_visibility {known : List String} {e f : Entity}
    (hsame : e.withVisibility .hidden = f.withVisibility .hidden) : edges known e = edges known f := by
  rw [← edges_withVisibility .hidden known e, hsame, edges_withVisibility]

/-- A field or method of a struct keeps its visibility when those that no diagram shows are forgotten, so its
line is the same under both settings. -/
theorem member_withMarkedVisibility (showVisibility : Bool) {m : Entity} (hmember : m.isMember = true) :
    member showVisibility (m.withMarkedVisibility .struct) = member showVisibility m := by
  have hline : lineEnd (m.withMarkedVisibility .struct) = lineEnd m := lineEnd_withVisibility .hidden m
  have hvisibility : (m.withMarkedVisibility .struct).visibility = m.visibility := if_pos ⟨rfl, hmember⟩
  rw [member_eq, member_eq, hline, hvisibility]

/-- The members that a block lists are fields and methods, and only a struct lists any. These are the members
whose visibility is kept, so the listed lines are the same. -/
theorem map_member_listed_withShownVisibility (showVisibility : Bool) (e : Entity) :
    (listed e.withShownVisibility).map (member showVisibility) = (listed e).map (member showVisibility) := by
  rw [listed, listed, withShownVisibility]
  by_cases hstruct : e.kind = .struct
  · rw [if_pos hstruct, if_pos hstruct, hstruct, List.filter_map, List.map_map]
    simp only [Function.comp_def, isMember_withMarkedVisibility]
    exact List.map_congr_left fun m hm =>
      member_withMarkedVisibility showVisibility (List.mem_filter.mp hm).2
  · rw [if_neg hstruct, if_neg hstruct]

/-- A block can be drawn from what a diagram can show of its entity. -/
theorem block_withShownVisibility (showVisibility : Bool) (e : Entity) :
    block showVisibility e.withShownVisibility = block showVisibility e := by
  rw [block_eq, block_eq, map_member_listed_withShownVisibility]
  rfl

/-- A block without markers is one with markers in which everything is exposed: the plus that stands for an
exposed member is also the character written when visibility is not shown. -/
theorem block_withVisibility_exposed (e : Entity) : block true (e.withVisibility .exposed) = block false e := by
  have hmember : ∀ m : Entity, member true (m.withVisibility .exposed) = member false m := by
    intro m
    rw [member_eq, member_eq, lineEnd_withVisibility]
    cases m
    rfl
  have hlisted : listed (e.withVisibility .exposed) = (listed e).map (Entity.withVisibility .exposed) := by
    cases e with
    | mk kind displayName name visibility members =>
      simp only [listed, withVisibility, withVisibilityAll_eq_map, List.filter_map, Function.comp_def,
        isMember_withVisibility]
      split
      · rfl
      · rfl
  have hopening : opening (e.withVisibility .exposed) = opening e := by
    cases e
    rfl
  rw [block_eq, block_eq, hopening, hlisted, List.map_map]
  simp only [Function.comp_def, hmember]

/-- Entities that agree one by one on their blocks, their names and their edges are drawn alike. The names count
as well, because the names of all entities are what an edge may lead to. -/
theorem render_map_eq (change : Entity → Entity) {showVisibility showVisibility' : Bool}
    (hblock : ∀ e, block showVisibility' (change e) = block showVisibility e)
    (hname : ∀ e, (change e).displayName = e.displayName)
    (hedges : ∀ known e, edges known (change e) = edges known e) (es : List Entity) :
    render showVisibility' (es.map change) = render showVisibility es := by
  have hnames : knownNames (es.map change) = knownNames es := by
    simp only [knownNames, List.map_map, Function.comp_def, hname]
  have htext : ∀ known, edgeText known ∘ change = edgeText known := by
    intro known
    funext e
    simp only [Function.comp_apply, edgeText, hedges]
  simp only [render, hnames, List.map_map, htext]
  simp only [Function.comp_def, hblock]

/-- A character of a diagram, or the place for the marker of a member. -/
inductive Glyph where
  | char (c : Char)
  | marker (v : Visibility)
deriving DecidableEq

/-- The character that is drawn. -/
def Glyph.drawn (showVisibility : Bool) : Glyph → Char
  | .char c => c
  | .marker v => markChar showVisibility v

/-- A text without places for markers. -/
def glyphs (text : List Char) : List Glyph :=
  text.map .char

/-- A text without open places is drawn as it is, with the markers shown or not. -/
theorem map_drawn_glyphs (showVisibility : Bool) (text : List Char) :
    (glyphs text).map (Glyph.drawn showVisibility) = text := by
  rw [glyphs, List.map_map]
  exact List.map_id _

/-- The line of a member with the marker left open. -/
def memberGlyphs (m : Entity) : List Glyph :=
  glyphs "    ".toList ++ [.marker m.visibility] ++ glyphs (lineEnd m).toList

/-- A block, and the blank line in front of it, with the markers left open. -/
def blockGlyphs (e : Entity) : List Glyph :=
  glyphs ("\n\n" ++ opening e).toList ++ (listed e).flatMap memberGlyphs ++ glyphs "\x7d".toList

/-- A diagram with the markers left open. -/
def diagramGlyphs (es : List Entity) : List Glyph :=
  glyphs "@startuml".toList ++ es.flatMap blockGlyphs ++ glyphs ('\n' :: edgesText es)

/-- Filling in the one open place of a member gives its line. The marker is a single character under both
settings, which is why the places do not move. -/
theorem toList_member (showVisibility : Bool) (m : Entity) :
    (member showVisibility m).toList = (memberGlyphs m).map (Glyph.drawn showVisibility) := by
  simp only [member_eq, memberGlyphs, String.toList_append, List.map_append, map_drawn_glyphs, toList_marker,
    List.map_cons, List.map_nil, Glyph.drawn]

/-- The same of a block: its open places are those of the listed members, one for each. -/
theorem toList_block (showVisibility : Bool) (e : Entity) :
    '\n' :: '\n' :: (block showVisibility e).toList = (blockGlyphs e).map (Glyph.drawn showVisibility) := by
  have hmembers : (String.join ((listed e).map (member showVisibility))).toList =
      ((listed e).flatMap memberGlyphs).map (Glyph.drawn showVisibility) := by
    simp only [String.toList_join, List.flatMap_map, List.map_flatMap, toList_member]
  simp only [block_eq, blockGlyphs, String.toList_append, List.map_append, map_drawn_glyphs, hmembers]
  rfl

/-- Both diagrams fill in the same open places of one list of glyphs. All that is told below of the two texts is
read off this list, place by place. -/
theorem toList_render_eq_map (showVisibility : Bool) (es : List Entity) :
    (render showVisibility es).toList = (diagramGlyphs es).map (Glyph.drawn showVisibility) := by
  have hblocks : blocksText showVisibility es = (es.flatMap blockGlyphs).map (Glyph.drawn showVisibility) := by
    simp only [blocksText, toList_block, List.map_flatMap]
  rw [toList_render, hblocks, diagramGlyphs, List.map_append, List.map_append, map_drawn_glyphs, map_drawn_glyphs,
    List.append_assoc]

theorem getElem?_glyphs (text : List Char) (i : Nat) : (glyphs text)[i]? = text[i]?.map .char :=
  List.getElem?_map

/-- A text in front moves the open places by its length, and a text behind leaves them where they are; neither
has an open place of its own. -/
theorem getElem?_between (before after : List Char) (gs : List Glyph) (i : Nat) (v : Visibility) :
    (glyphs before ++ gs ++ glyphs after)[i]? = some (.marker v) ↔
      ∃ j, gs[j]? = some (.marker v) ∧ i = before.length + j := by
  have hlength : (glyphs before).length = before.length := List.length_map _
  -- A text has no open places of its own, so that one is found in `gs` or not at all.
  have hnone : ∀ (text : List Char) (k : Nat), (glyphs text)[k]? ≠ some (.marker v) := by
    intro text k
    rw [getElem?_glyphs]
    cases text[k]? <;> simp
  constructor
  · intro hmarker
    rw [List.append_assoc, List.getElem?_append] at hmarker
    split at hmarker
    · exact absurd hmarker (hnone before i)
    · next hbefore =>
      rw [List.getElem?_append] at hmarker
      split at hmarker
      · exact ⟨_, hmarker, by omega⟩
      · exact absurd hmarker (hnone after _)
  · rintro ⟨j, hj, rfl⟩
    have hinside : j < gs.length := (List.getElem?_eq_some_iff.mp hj).1
    rw [List.append_assoc, List.getElem?_append_right (by omega), hlength, Nat.add_sub_cancel_left,
      List.getElem?_append_left hinside, hj]

/-- What stands at a place of items in a row stands at a place of one of them, and the lengths of the items in
front make up the difference. -/
theorem getElem?_flatMap_iff {α β : Type} {items : List α} {f : α → List β} {i : Nat} {x : β} :
    (items.flatMap f)[i]? = some x ↔
      ∃ before a after j, items = before ++ a :: after ∧ (f a)[j]? = some x ∧
        i = (before.flatMap f).length + j := by
  constructor
  · intro hx
    induction items generalizing i with
    | nil => cases hx
    | cons a items ih =>
      rw [List.flatMap_cons, List.getElem?_append] at hx
      split at hx
      · exact ⟨[], a, items, i, rfl, hx, by simp⟩
      · next hout =>
        obtain ⟨before, b, after, j, rfl, hj, hplace⟩ := ih hx
        refine ⟨a :: before, b, after, j, rfl, hj, ?_⟩
        rw [List.flatMap_cons, List.length_append]
        omega
  · rintro ⟨before, a, after, j, rfl, hj, rfl⟩
    have hinside : j < (f a).length := (List.getElem?_eq_some_iff.mp hj).1
    rw [List.flatMap_append, List.flatMap_cons, List.getElem?_append_right (by omega), Nat.add_sub_cancel_left,
      List.getElem?_append_left hinside, hj]

/-- The line of a member has one open place, behind the blank that it starts with. -/
theorem getElem?_memberGlyphs {m : Entity} {i : Nat} {v : Visibility} :
    (memberGlyphs m)[i]? = some (.marker v) ↔ m.visibility = v ∧ i = "    ".toList.length := by
  rw [memberGlyphs, getElem?_between]
  constructor
  · rintro ⟨j, hj, rfl⟩
    obtain ⟨hone, hmarker⟩ := List.getElem?_eq_some_iff.mp hj
    obtain rfl : j = 0 := by simpa using hone
    exact ⟨by simpa using hmarker, rfl⟩
  · rintro ⟨rfl, rfl⟩
    exact ⟨0, rfl, rfl⟩

/-- The open places of a block are those of the members that it lists, each behind the first line and the lines
of the members above. -/
theorem getElem?_blockGlyphs {e : Entity} {i : Nat} {v : Visibility} :
    (blockGlyphs e)[i]? = some (.marker v) ↔
      ∃ above m below, listed e = above ++ m :: below ∧ m.visibility = v ∧
        i = ("\n\n" ++ opening e).toList.length +
          ((above.flatMap memberGlyphs).length + "    ".toList.length) := by
  rw [blockGlyphs, getElem?_between]
  constructor
  · rintro ⟨j, hj, rfl⟩
    obtain ⟨above, m, below, k, hlisted, hk, rfl⟩ := getElem?_flatMap_iff.mp hj
    obtain ⟨hvisibility, rfl⟩ := getElem?_memberGlyphs.mp hk
    exact ⟨above, m, below, hlisted, hvisibility, rfl⟩
  · rintro ⟨above, m, below, hlisted, hvisibility, rfl⟩
    exact ⟨_, getElem?_flatMap_iff.mpr
      ⟨above, m, below, _, hlisted, getElem?_memberGlyphs.mpr ⟨hvisibility, rfl⟩, rfl⟩, rfl⟩

/-- The text of a diagram up to the marker of a member. In front of it stand the blocks of `before`, and the
members `above` in the block of `e`. -/
def textBefore (before : List Entity) (e : Entity) (above : List Entity) : String :=
  "@startuml" ++ String.join (before.map fun b => "\n\n" ++ block false b) ++ "\n\n" ++ opening e ++
    String.join (above.map (member false)) ++ "    "

/-- The place of the marker of a hidden field or method, listed by a struct of the diagram. -/
inductive IsHiddenMarker (es : List Entity) (place : Nat) : Prop
  | intro (before : List Entity) (e : Entity) (after above : List Entity) (m : Entity) (below : List Entity)
      (hentities : es = before ++ e :: after) (hstruct : e.kind = .struct)
      (hmembers : e.members.filter Entity.isMember = above ++ m :: below) (hhidden : m.visibility = .hidden)
      (hplace : place = (textBefore before e above).length)

/-- The length of the text up to a marker, as the sum that the places of the glyphs are counted with. -/
theorem length_textBefore (before : List Entity) (e : Entity) (above : List Entity) :
    (textBefore before e above).length =
      "@startuml".toList.length + ((before.flatMap blockGlyphs).length +
        (("\n\n" ++ opening e).toList.length + ((above.flatMap memberGlyphs).length + "    ".toList.length))) := by
  have hbefore : (String.join (before.map fun b => "\n\n" ++ block false b)).length =
      (before.flatMap blockGlyphs).length := by
    have hblock : ∀ b, ("\n\n" ++ block false b).toList = (blockGlyphs b).map (Glyph.drawn false) := by
      intro b
      rw [← toList_block, String.toList_append]
      rfl
    rw [← String.length_toList, ← List.length_map (Glyph.drawn false), List.map_flatMap]
    simp only [String.toList_join, List.flatMap_map, hblock]
  have habove : (String.join (above.map (member false))).length = (above.flatMap memberGlyphs).length := by
    rw [← String.length_toList, ← List.length_map (Glyph.drawn false), List.map_flatMap]
    simp only [String.toList_join, List.flatMap_map, toList_member]
  change ("@startuml" ++ String.join (before.map fun b => "\n\n" ++ block false b) ++ "\n\n" ++ opening e ++
    String.join (above.map (member false)) ++ "    ").length = _
  simp only [String.length_append, hbefore, habove, String.length_toList]
  omega

/-- The places left open to hidden members are the places of hidden fields and methods that a struct lists. A
name or type that looks like such a line is text and holds no open place. -/
theorem getElem?_diagramGlyphs_iff {es : List Entity} {place : Nat} :
    (diagramGlyphs es)[place]? = some (.marker .hidden) ↔ IsHiddenMarker es place := by
  rw [diagramGlyphs, getElem?_between]
  constructor
  · rintro ⟨j, hj, rfl⟩
    obtain ⟨before, e, after, k, hentities, hk, rfl⟩ := getElem?_flatMap_iff.mp hj
    obtain ⟨above, m, below, hlisted, hhidden, rfl⟩ := getElem?_blockGlyphs.mp hk
    rw [listed] at hlisted
    split at hlisted
    · next hstruct =>
      exact .intro before e after above m below hentities hstruct hlisted hhidden
        (length_textBefore before e above).symm
    · cases above <;> cases hlisted
  · rintro ⟨before, e, after, above, m, below, hentities, hstruct, hmembers, hhidden, rfl⟩
    have hlisted : listed e = above ++ m :: below := by rw [listed, if_pos hstruct, hmembers]
    exact ⟨_, getElem?_flatMap_iff.mpr
      ⟨before, e, after, _, hentities, getElem?_blockGlyphs.mpr ⟨above, m, below, hlisted, hhidden, rfl⟩, rfl⟩,
      length_textBefore before e above⟩

/-- At the marker of a hidden member the diagram that shows visibility has a minus and the other one a plus. -/
theorem getElem?_render_of_hidden {es : List Entity} {place : Nat} (hmarker : IsHiddenMarker es place) :
    (render false es).toList[place]? = some '+' ∧ (render true es).toList[place]? = some '-' := by
  rw [toList_render_eq_map, toList_render_eq_map, List.getElem?_map, List.getElem?_map,
    getElem?_diagramGlyphs_iff.mpr hmarker]
  exact ⟨rfl, rfl⟩

/-- At every other place the two diagrams have the same character. A place behind the end of the one is behind
the end of the other, too. -/
theorem getElem?_render_of_not_hidden {es : List Entity} {place : Nat} (hother : ¬ IsHiddenMarker es place) :
    (render false es).toList[place]? = (render true es).toList[place]? := by
  rw [toList_render_eq_map, toList_render_eq_map, List.getElem?_map, List.getElem?_map]
  cases hglyph : (diagramGlyphs es)[place]? with
  | none => rfl
  | some glyph =>
    cases glyph with
    | char c => rfl
    | marker v =>
      cases v with
      | exposed => rfl
      | hidden => exact absurd (getElem?_diagramGlyphs_iff.mp hglyph) hother

/-- Showing visibility changes the markers of hidden members and nothing else. A diagram that does not show it
is the one that does of the same entities with everything in them exposed; the two are equally long and differ
exactly where a struct lists a hidden field or method, by a minus for a plus; and entities that differ only in
the visibility of something else, at any depth, are drawn alike in both ways. Both texts fill in the places of
one list of glyphs, and so what is told of one place holds of the same place in both. -/
theorem render_differs_in_markers (es : List Entity) :
    render false es = render true (es.map (Entity.withVisibility .exposed)) ∧
      (render false es).length = (render true es).length ∧
      (∀ place,
        (IsHiddenMarker es place →
          (render false es).toList[place]? = some '+' ∧ (render true es).toList[place]? = some '-') ∧
        (¬ IsHiddenMarker es place →
          (render false es).toList[place]? = (render true es).toList[place]?)) ∧
      ∀ es' showVisibility, es.map withShownVisibility = es'.map withShownVisibility →
        render showVisibility es = render showVisibility es' := by
  refine ⟨?_, ?_, fun place => ⟨getElem?_render_of_hidden, getElem?_render_of_not_hidden⟩, ?_⟩
  · exact (render_map_eq _ block_withVisibility_exposed (displayName_withVisibility .exposed)
      (fun known => edges_withVisibility .exposed known) es).symm
  · rw [← String.length_toList, ← String.length_toList, toList_render_eq_map, toList_render_eq_map,
      List.length_map, List.length_map]
  · intro es' showVisibility hsame
    have hdrawn : ∀ fs : List Entity,
        render showVisibility (fs.map withShownVisibility) = render showVisibility fs := by
      intro fs
      refine render_map_eq _ (block_withShownVisibility showVisibility) (fun _ => rfl) (fun known e => ?_) fs
      exact edges_congr_visibility (withVisibility_withShownVisibility .hidden e)
    rw [← hdrawn es, hsame, hdrawn es']

/-- Two structs, one of them with a name that looks like the line of a member. The method of the second is
hidden; `door` is the visibility of the first struct and of the parameter. -/
def vault (door : Visibility) : List Entity :=
  [.ofStruct "Door" [.ofField "key" "u8" [] .exposed] door,
    .ofStruct "Va\n    + ult" [.ofField "+" "-" [] .exposed,
      .ofMethod "open" [{ Entity.ofParameter "door" "Door" with visibility := door }] .hidden] .exposed]

theorem render_vault :
    (IsHiddenMarker (vault .hidden) 81 ∧ (render false (vault .hidden)).toList[81]? = some '+' ∧
        (render true (vault .hidden)).toList[81]? = some '-') ∧
      (¬ IsHiddenMarker (vault .hidden) 70 ∧
        (render false (vault .hidden)).toList[70]? = (render true (vault .hidden)).toList[70]?) ∧
      (vault .hidden).map withShownVisibility = (vault .exposed).map withShownVisibility ∧
        render true (vault .hidden) = render true (vault .exposed) := by
  obtain ⟨_, _, hplaces, hunshown⟩ := render_differs_in_markers (vault .hidden)
  have hmethod : IsHiddenMarker (vault .hidden) 81 :=
    .intro [_] _ [] [_] _ [] rfl rfl rfl rfl (by decide +kernel)
  have hfield : ¬ IsHiddenMarker (vault .hidden) 70 := by
    rw [← getElem?_diagramGlyphs_iff]
    decide +kernel
  exact ⟨⟨hmethod, (hplaces 81).1 hmethod⟩, ⟨hfield, (hplaces 70).2 hfield⟩, rfl, hunshown _ true rfl⟩

end PlantUml

end ClassDiagram
