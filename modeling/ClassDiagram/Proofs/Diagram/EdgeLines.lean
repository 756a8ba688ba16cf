import ClassDiagram.Proofs.Diagram.Edges
import ClassDiagram.Proofs.Rust.Names
import ClassDiagram.Text.Line

namespace ClassDiagram

namespace Text

/-- Whatever ends a line is a blank, so a text without blanks lies on one line. -/
theorem isBlank_of_isLineBoundary {c : Char} (hc : isLineBoundary c = true) : isBlank c = true := by
  simp only [isLineBoundary, isBlank, Bool.or_eq_true, Bool.and_eq_true, decide_eq_true_eq, beq_iff_eq] at hc ⊢
  omega

theorem BlankFree.isLineBoundary_eq_false {s : String} (hs : BlankFree s) {c : Char} (hc : c ∈ s.toList) :
    isLineBoundary c = false := by
  by_contra hend
  have hblank := isBlank_of_isLineBoundary (by simpa using hend)
  simp [hs c hc] at hblank

theorem splitLines_newline (rest : List Char) : splitLines ('\n' :: rest) = [] :: splitLines rest := by
  rw [splitLines]
  · rfl
  · rintro _ ⟨⟩

/-- A text without line boundaries is one line up to the line end after it, and what follows is cut as it would
be alone. -/
theorem splitLines_line {line : List Char} (hline : ∀ c ∈ line, isLineBoundary c = false) (rest : List Char) :
    splitLines (line ++ '\n' :: rest) = line :: splitLines rest := by
  induction line with
  | nil => exact splitLines_newline rest
  | cons c line ih =>
    have hc : isLineBoundary c = false := hline c List.mem_cons_self
    have hreturn : c ≠ '\r' := by
      rintro rfl
      exact absurd hc (by decide)
    rw [List.cons_append, splitLines, if_neg (by simp [hc]), ih fun d hd => hline d (List.mem_cons_of_mem c hd)]
    · rfl
    · intro _ h
      exact absurd h hreturn

end Text

namespace PlantUml

/-- The line of an edge without its end. -/
def Edge.text (edge : Edge) : String :=
  "\"" ++ edge.owner ++ "\" <-- \"" ++ edge.dependency ++ "\""

/-- The part of a diagram after its blocks. -/
def edgeSection (es : List Entity) : String :=
  String.intercalate "\n\n" (es.map (edgeText (knownNames es)))

/-- A name that can stand between quotes: it holds no quote and ends no line. -/
def IsQuotable (name : String) : Prop :=
  ∀ c ∈ name.toList, c ≠ '"' ∧ Text.isLineBoundary c = false

/-- A line that reads back as exactly one pair of names. -/
def ReadsBack (line : String) : Prop :=
  ∃! edge : Edge, line = edge.text ∧ IsQuotable edge.owner ∧ IsQuotable edge.dependency

theorem toList_text (edge : Edge) :
    edge.text.toList =
      '"' :: (edge.owner.toList ++ '"' :: (" <-- \"".toList ++ (edge.dependency.toList ++ ['"']))) := by
  simp [Edge.text]

/-- The line of an edge determines the edge if its owner holds no quote: the first quote after the one at the
start ends the owner. -/
theorem text_inj {edge edge' : Edge} (howner : IsQuotable edge.owner) (howner' : IsQuotable edge'.owner)
    (htext : edge.text = edge'.text) : edge = edge' := by
  have hlist := congrArg String.toList htext
  rw [toList_text, toList_text] at hlist
  obtain ⟨hsame, _, hrest⟩ := eq_of_append_cons_eq (P := fun c => c ≠ '"') (fun c hc => (howner c hc).1)
    (fun c hc => (howner' c hc).1) (by simp) (by simp) (List.cons.inj hlist).2
  have hdependency := List.append_cancel_right (List.append_cancel_left hrest)
  cases edge
  cases edge'
  simp_all [String.toList_inj]

/-- An edge line has four quotes of its own, and those of its names. Counting them tells whether a name holds
one. -/
theorem count_quote_text (edge : Edge) :
    edge.text.toList.count '"' = edge.owner.toList.count '"' + edge.dependency.toList.count '"' + 4 := by
  rw [toList_text]
  simp [List.count_append]
  omega

/-- A name without blanks ends no line anyway, so it can stand between quotes unless it holds one itself. -/
theorem isQuotable_iff {name : String} (hname : Text.BlankFree name) : IsQuotable name ↔ '"' ∉ name.toList := by
  constructor
  · intro hquotable hquote
    exact (hquotable '"' hquote).1 rfl
  · intro hnone c hc
    exact ⟨fun hquote => hnone (hquote ▸ hc), hname.isLineBoundary_eq_false hc⟩

theorem IsQuotable.count_quote {name : String} (hname : IsQuotable name) : name.toList.count '"' = 0 :=
  List.count_eq_zero.mpr fun hquote => (hname '"' hquote).1 rfl

/-- The line of an edge without blanks in its names reads back exactly if they hold no quote. A quote in a name
makes more than four on the line, and no pair of quotable names gives such a line. -/
theorem readsBack_text_iff {edge : Edge} (howner : Text.BlankFree edge.owner)
    (hdependency : Text.BlankFree edge.dependency) :
    ReadsBack edge.text ↔ '"' ∉ edge.owner.toList ∧ '"' ∉ edge.dependency.toList := by
  constructor
  · rintro ⟨other, ⟨htext, hother, hfar⟩, _⟩
    -- A line that reads back holds four quotes, those around the names.
    have hcount := count_quote_text edge
    rw [htext, count_quote_text other, hother.count_quote, hfar.count_quote] at hcount
    exact ⟨List.count_eq_zero.mp (by omega), List.count_eq_zero.mp (by omega)⟩
  · rintro ⟨hquote, hquote'⟩
    have hquotable := (isQuotable_iff howner).mpr hquote
    refine ⟨edge, ⟨rfl, hquotable, (isQuotable_iff hdependency).mpr hquote'⟩, ?_⟩
    rintro other ⟨htext, hother, _⟩
    exact (text_inj hquotable hother htext).symm

theorem line_eq_text (edge : Edge) : edge.line.toList = edge.text.toList ++ ['\n'] := by
  simp [Edge.line, Edge.text]

theorem text_ne_empty (edge : Edge) : edge.text.toList ≠ [] := by
  simp [toList_text]

/-- The line of an edge has no line boundary inside if its names have no blanks; the blanks around the arrow are
spaces. -/
theorem text_noBoundary {edge : Edge} (howner : Text.BlankFree edge.owner)
    (hdependency : Text.BlankFree edge.dependency) :
    ∀ c ∈ edge.text.toList, Text.isLineBoundary c = false := by
  intro c hc
  rw [toList_text] at hc
  simp only [List.mem_cons, List.mem_append, List.not_mem_nil, or_false] at hc
  rcases hc with rfl | hc | rfl | hc | hc | rfl
  · decide
  · exact howner.isLineBoundary_eq_false hc
  · decide
  · refine Text.forall_of_all (P := (Text.isLineBoundary · = false)) ?_ c hc
    decide
  · exact hdependency.isLineBoundary_eq_false hc
  · decide

/-- The lines of some edges stand before those of what follows, one for each edge and in the order of the edges. -/
theorem splitLines_edges {edges : List Edge}
    (hedges : ∀ edge ∈ edges, Text.BlankFree edge.owner ∧ Text.BlankFree edge.dependency) (rest : List Char) :
    Text.splitLines (edges.flatMap (·.line.toList) ++ rest) =
      edges.map (·.text.toList) ++ Text.splitLines rest := by
  induction edges with
  | nil => rfl
  | cons edge edges ih =>
    obtain ⟨howner, hdependency⟩ := hedges edge List.mem_cons_self
    rw [List.flatMap_cons, line_eq_text, List.append_assoc, List.append_assoc, List.singleton_append,
      Text.splitLines_line (text_noBoundary howner hdependency), ih fun e he => hedges e (List.mem_cons_of_mem _ he)]
    rfl

theorem toList_edgeText (known : List String) (e : Entity) :
    (edgeText known e).toList = (edges known e).flatMap (·.line.toList) := by
  simp [edgeText, String.toList_join, List.flatMap_map]

theorem filter_map_text (edges : List Edge) :
    (edges.map (·.text.toList)).filter (· ≠ []) = edges.map (·.text.toList) := by
  rw [List.filter_eq_self]
  intro line hline
  obtain ⟨edge, _, rfl⟩ := List.mem_map.mp hline
  simpa using text_ne_empty edge

/-- Behind the blank lines that separate the types, the lines that hold anything are the edges, type by type. -/
theorem filter_splitLines_blocks {known : List String} {es : List Entity}
    (hes : ∀ e ∈ es, ∀ edge ∈ edges known e, Text.BlankFree edge.owner ∧ Text.BlankFree edge.dependency) :
    (Text.splitLines (es.flatMap fun e => '\n' :: '\n' :: (edgeText known e).toList)).filter (· ≠ []) =
      (es.flatMap (edges known)).map (·.text.toList) := by
  induction es with
  | nil => rfl
  | cons e es ih =>
    have hrest := ih fun e he => hes e (List.mem_cons_of_mem _ he)
    simp only [List.flatMap_cons, List.cons_append, Text.splitLines_newline, toList_edgeText]
    rw [splitLines_edges (hes e List.mem_cons_self)]
    simp only [toList_edgeText] at hrest
    simp only [List.filter_cons, List.filter_append, filter_map_text, hrest, List.map_append]
    simp

/-- The lines of the edge section that hold anything are the edges of the types, one by one. Types without edges
leave blank lines only. -/
theorem filter_lines_edgeSection {es : List Entity}
    (hes : ∀ e ∈ es, ∀ edge ∈ edges (knownNames es) e,
      Text.BlankFree edge.owner ∧ Text.BlankFree edge.dependency) :
    (Text.lines (edgeSection es)).filter (· ≠ "") = (es.flatMap (edges (knownNames es))).map Edge.text := by
  have hlines : (Text.splitLines (edgeSection es).toList).filter (· ≠ []) =
      (es.flatMap (edges (knownNames es))).map (·.text.toList) := by
    cases es with
    | nil => rfl
    | cons e es =>
      rw [edgeSection, List.map_cons, toList_intercalate_cons, List.flatMap_map, toList_edgeText,
        splitLines_edges (hes e List.mem_cons_self), List.filter_append, filter_map_text]
      have hrest := filter_splitLines_blocks fun e he => hes e (List.mem_cons_of_mem _ he)
      rw [List.flatMap_cons, List.map_append, ← hrest]
      rfl
  have hfilter : (Text.lines (edgeSection es)).filter (· ≠ "") =
      ((Text.splitLines (edgeSection es).toList).filter (· ≠ [])).map String.ofList := by
    rw [Text.lines, List.filter_map]
    congr 1
    refine List.filter_congr fun line _ => ?_
    simp
  rw [hfilter, hlines, List.map_map]
  refine List.map_congr_left fun edge _ => ?_
  exact String.ofList_toList

/-- The names on an edge of a built type: the name of a type or member, or the type of a field. -/
inductive IsEnd (ds : List Declaration) (name : String) : Prop
  | name (hname : IsLegible name)
  | type (s : StructDeclaration) (f : FieldDeclaration) (hs : .struct s ∈ ds) (hf : f ∈ s.fields)
      (hname : name = Signature.canonical f.type)

/-- Names and tokens are made of characters that are no blanks, and types are in canonical form, so no end of an
edge holds a blank. -/
theorem IsEnd.blankFree {ds : List Declaration} {name : String} (hend : IsEnd ds name) : Text.BlankFree name := by
  cases hend with
  | name hname => exact fun c hc => (hname c hc).1
  | type s f _ _ hname => exact hname ▸ Signature.canonical_blankFree f.type

/-- A quote in a name on an edge stands in the type of a field as it is written. Names hold none, and so do
tokens of a type that has none. -/
theorem IsEnd.of_quote {ds : List Declaration} {name : String} (hend : IsEnd ds name) (hquote : '"' ∈ name.toList) :
    ∃ s f, .struct s ∈ ds ∧ f ∈ s.fields ∧ '"' ∈ f.type.toList ∧ name = Signature.canonical f.type := by
  cases hend with
  | name hname => exact absurd rfl (hname '"' hquote).2.1
  | type s f hs hf hname =>
    refine ⟨s, f, hs, hf, ?_, hname⟩
    subst hname
    have hkept : '"' ∈ f.type.toList.filter fun c => !Text.isBlank c := by
      simpa [Signature.canonical, Text.dropBlanks] using hquote
    exact (List.mem_filter.mp hkept).1

/-- The ends of an edge are of three kinds: the name of a type or member, a token that is the name of a type, or
the type of a field. -/
theorem isEnd_of_mem_edges {unit : SourceUnit} (hnames : unit.LegiblyNamed) {known : List String}
    (hknown : ∀ name ∈ known, IsLegible name) {e : Entity} (hmade : e.MadeFrom unit.declarations) {edge : Edge}
    (hedge : edge ∈ edges known e) :
    IsEnd unit.declarations edge.owner ∧ IsEnd unit.declarations edge.dependency := by
  rw [edges_of_madeFrom hmade] at hedge
  obtain ⟨m, hm, hedge⟩ := List.mem_flatMap.mp hedge
  cases hmade with
  | enum d henum => cases hm
  | struct d methods hstruct hmethods =>
    have howner : IsEnd unit.declarations d.name :=
      .name (hnames _ hstruct d.name List.mem_cons_self)
    rcases List.mem_append.mp hm with hm | hm
    · obtain ⟨f, hf, rfl⟩ := List.mem_map.mp hm
      have htype : IsEnd unit.declarations (Signature.canonical f.type) := .type d f hstruct hf rfl
      rcases List.mem_append.mp hedge with hnested | hown
      · rw [nestedEdges] at hnested
        split at hnested
        · obtain ⟨token, htoken, rfl⟩ := List.mem_map.mp hnested
          exact ⟨htype, .name (hknown token (by simpa using (List.mem_filter.mp htoken).2))⟩
        · cases hnested
      · rw [ownEdge] at hown
        split at hown
        · rw [List.mem_singleton.mp hown]
          exact ⟨howner, htype⟩
        · cases hown
    · obtain ⟨f, hf, rfl⟩ := List.mem_map.mp hm
      obtain ⟨block, hblock, hf⟩ := hmethods f hf
      have hmethod : IsEnd unit.declarations f.name :=
        .name (hnames _ hblock f.name (List.mem_map_of_mem hf))
      change edge ∈ ownEdge known d.name f.name at hedge
      rw [ownEdge] at hedge
      split at hedge
      · rw [List.mem_singleton.mp hedge]
        exact ⟨howner, hmethod⟩
      · cases hedge

/-- The names that a diagram knows are those of its types, as they are declared, and these are legible. -/
theorem isLegible_of_mem_knownNames {unit : SourceUnit} (hnames : unit.LegiblyNamed) {es : List Entity}
    (hes : ∀ e ∈ es, e.MadeFrom unit.declarations) : ∀ name ∈ knownNames es, IsLegible name := by
  intro name hname
  obtain ⟨e, he, rfl⟩ := List.mem_map.mp hname
  cases hes e he with
  | struct d methods hstruct hmethods => exact hnames _ hstruct d.name List.mem_cons_self
  | enum d henum => exact hnames _ henum d.name List.mem_cons_self

/-- The lines of the edge section of a source that hold anything are its edges, one by one. The line of an edge
reads back as one pair of names unless a name on it holds a quote, and such a name is the type of a field whose
text in the source holds a quote. Nothing is escaped between the quotes of an edge line, and a type may hold a
calling convention, a character, a string or a comment. -/
theorem edgeSection_readsBack_iff {source : String} {ds : List Declaration}
    (hsource : Rust.declarations? source = some ds) (b : Builder) (path : Option String) (showVisibility : Bool) :
    let es := (b.build ⟨path, ds⟩).1
    (∃ blocks, render showVisibility es = blocks ++ "\n" ++ edgeSection es ++ "\n@enduml") ∧
      (Text.lines (edgeSection es)).filter (· ≠ "") = (es.flatMap (edges (knownNames es))).map Edge.text ∧
      ∀ edge ∈ es.flatMap (edges (knownNames es)),
        (ReadsBack edge.text ↔ '"' ∉ edge.owner.toList ∧ '"' ∉ edge.dependency.toList) ∧
          (¬ ReadsBack edge.text → ∃ s f, .struct s ∈ ds ∧ f ∈ s.fields ∧ '"' ∈ f.type.toList ∧
            (edge.owner = Signature.canonical f.type ∨ edge.dependency = Signature.canonical f.type)) := by
  intro es
  obtain ⟨parsed, hparsed, rfl⟩ := Option.map_eq_some_iff.mp hsource
  have hnames := Rust.parse?_legiblyNamed hparsed path
  have hmade : ∀ e ∈ es, e.MadeFrom parsed.declarations := by
    intro e he
    rw [show es = Merge.described b.includeEnums parsed.declarations from Builder.build_fst b _] at he
    exact Merge.madeFrom_of_mem_described he
  have hknown := isLegible_of_mem_knownNames hnames hmade
  have hends : ∀ e ∈ es, ∀ edge ∈ edges (knownNames es) e,
      IsEnd parsed.declarations edge.owner ∧ IsEnd parsed.declarations edge.dependency :=
    fun e he edge hedge => isEnd_of_mem_edges hnames hknown (hmade e he) hedge
  refine ⟨⟨_, rfl⟩, ?_, ?_⟩
  · refine filter_lines_edgeSection fun e he edge hedge => ?_
    obtain ⟨howner, hdependency⟩ := hends e he edge hedge
    exact ⟨howner.blankFree, hdependency.blankFree⟩
  · intro edge hedge
    obtain ⟨e, he, hedge⟩ := List.mem_flatMap.mp hedge
    obtain ⟨howner, hdependency⟩ := hends e he edge hedge
    have hiff := readsBack_text_iff howner.blankFree hdependency.blankFree
    refine ⟨hiff, fun hbroken => ?_⟩
    rw [hiff, not_and_or, not_not, not_not] at hbroken
    rcases hbroken with hquote | hquote
    · obtain ⟨s, f, hs, hf, hwritten, hname⟩ := howner.of_quote hquote
      exact ⟨s, f, hs, hf, hwritten, .inl hname⟩
    · obtain ⟨s, f, hs, hf, hwritten, hname⟩ := hdependency.of_quote hquote
      exact ⟨s, f, hs, hf, hwritten, .inr hname⟩

/-- A source with two fields whose types refer to a struct; one of them names a calling convention. -/
def hookSource : String :=
  "struct A;\nstruct B \x7b f: Vec<A>, g: Pair<A, extern \"C\" fn()> \x7d\n"

/-- The declarations of the source. -/
def hookDeclarations : List Declaration :=
  [.struct { name := "A", shape := .unit },
    .struct { name := "B", fields := [
      { name := "f", type := "Vec<A>" }, { name := "g", type := "Pair<A, extern \"C\" fn()>" }] }]

theorem declarations?_hookSource : Rust.declarations? hookSource = some hookDeclarations := by decide +kernel

/-- The lines of the plain field read back, those of the other one do not: its type holds the quotes of a
calling convention. -/
theorem edgeSection_hookSource :
    Rust.declarations? hookSource = some hookDeclarations ∧
      (Text.lines (edgeSection (({} : Builder).build ⟨none, hookDeclarations⟩).1)).filter (· ≠ "") =
        [Edge.text ⟨"Vec<A>", "A"⟩, Edge.text ⟨"B", "Vec<A>"⟩, Edge.text ⟨"Pair<A,extern\"C\"fn()>", "A"⟩,
          Edge.text ⟨"B", "Pair<A,extern\"C\"fn()>"⟩] ∧
      ReadsBack (Edge.text ⟨"B", "Vec<A>"⟩) ∧ ¬ ReadsBack (Edge.text ⟨"B", "Pair<A,extern\"C\"fn()>"⟩) := by
  obtain ⟨_, hlines, hedges⟩ := edgeSection_readsBack_iff declarations?_hookSource {} none true
  refine ⟨declarations?_hookSource, hlines.trans (by decide +kernel), ?_, ?_⟩
  · exact (hedges ⟨"B", "Vec<A>"⟩ (by decide +kernel)).1.mpr (by decide)
  · intro hreads
    have hquote := (hedges ⟨"B", "Pair<A,extern\"C\"fn()>"⟩ (by decide +kernel)).1.mp hreads
    exact absurd hquote.2 (by decide)

/-- Not every line of an edge section reads back as one pair of names, though every source here can be parsed
and every type be shown. -/
theorem not_readsBack_hookSource :
    ¬ ∀ source ds, Rust.declarations? source = some ds →
      ∀ line ∈ Text.lines (edgeSection (({} : Builder).build ⟨none, ds⟩).1), line ≠ "" → ReadsBack line := by
  intro hall
  have hreads := hall hookSource hookDeclarations declarations?_hookSource
    (Edge.text ⟨"B", "Pair<A,extern\"C\"fn()>"⟩) (by decide +kernel) (by decide)
  obtain ⟨edge, ⟨htext, howner, hdependency⟩, _⟩ := hreads
  have hcount := count_quote_text edge
  rw [← htext, howner.count_quote, hdependency.count_quote] at hcount
  exact absurd hcount (by decide)

end PlantUml

end ClassDiagram
