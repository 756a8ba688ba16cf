import ClassDiagram.Proofs.Rust.Insertion
import ClassDiagram.Proofs.Rust.Names
import ClassDiagram.Proofs.Rust.Shown

namespace ClassDiagram.Rust

/-- Whether tokens are adjacent is told by whether there is anything between them. So one gap may take the place
of another if neither is empty. -/
theorem Token.reduceFrom_regap {g h : List Char} (hg : g ≠ []) (hh : h ≠ []) (t : Token) (pre post : List Token)
    (before : Option Token) :
    reduceFrom before (pre ++ { t with gap := g } :: post) = reduceFrom before (pre ++ { t with gap := h } :: post) := by
  induction pre generalizing before with
  | nil =>
    have hgap : reducedGap before { t with gap := g } = reducedGap before { t with gap := h } := by
      simp [reducedGap, isAdjacent, hg, hh]
    have hpost : reduceFrom (some { t with gap := g }) post = reduceFrom (some { t with gap := h }) post := by
      cases post with
      | nil => rfl
      | cons u post => rfl
    rw [List.nil_append, List.nil_append, reduceFrom, reduceFrom, hgap, hpost]
  | cons u pre ih => rw [List.cons_append, List.cons_append, reduceFrom, reduceFrom, ih]

/-- The grammar does not see what a gap holds, as long as there is one. Items refer to their parts by places
among the tokens, so they are the same items. -/
theorem parse?_regap {source source' : String} {g h : List Char} (hg : g ≠ []) (hh : h ≠ []) {t : Token}
    {pre post : List Token} {items : List Item}
    (hparsed : parse? source = some ⟨pre ++ { t with gap := g } :: post, items⟩)
    (htokens : Lexer.tokens? source' = some (pre ++ { t with gap := h } :: post)) :
    parse? source' = some ⟨pre ++ { t with gap := h } :: post, items⟩ := by
  obtain ⟨_, rest, hfile⟩ := parse?_eq_some_iff.mp hparsed
  refine parse?_eq_some_iff.mpr ⟨htokens, rest, ?_⟩
  have hlength : (pre ++ { t with gap := h } :: post).length = (pre ++ { t with gap := g } :: post).length := by simp
  have hreduce : Token.reduce (pre ++ { t with gap := h } :: post) = Token.reduce (pre ++ { t with gap := g } :: post) :=
    Token.reduceFrom_regap hh hg t pre post none
  dsimp only at hfile ⊢
  rw [hlength, hreduce]
  exact hfile

section Place

variable {source : String} {parsed : Parsed} (hparsed : parse? source = some parsed) {pre post : List Token} {t : Token}
  (htokens : parsed.tokens = pre ++ t :: post) {place : Span} (htype : .type place ∈ parsed.items.flatMap Item.parts)
  (hsplits : place.Splits (post.length + 1))

include hparsed htokens

/-- The places of parts lie inside the source. This keeps a place on one side of the gap or lets it span the
gap, and excludes everything else. -/
theorem bounds_of_mem_parts {part : Part} (hpart : part ∈ parsed.items.flatMap Item.parts) {span : Span}
    (hspan : part.place? = some span) : span.stop ≤ span.start ∧ span.start ≤ pre.length + post.length + 1 := by
  obtain ⟨rest, hparts⟩ := parse?_inOrder hparsed
  have hlength : (Token.reduce parsed.tokens).length = pre.length + post.length + 1 := by
    rw [(Token.reduce_sameWord parsed.tokens).length_eq, htokens, length_append_cons]
  exact hlength ▸ hparts.bounds hpart hspan

include htype hsplits

/-- A gap inside a type stands in the text of no other part, because the parts of a source follow one another
and none reaches into the next. -/
theorem agreeBut_of_splits (gap : List Char) :
    AgreeBut parsed.items place (Span.text parsed.tokens) (Span.text (pre ++ { t with gap } :: post)) := by
  obtain ⟨rest, hparts⟩ := parse?_inOrder hparsed
  refine ⟨fun part hpart hne span hspan => ?_⟩
  obtain ⟨hstop, hstart⟩ := bounds_of_mem_parts hparsed htokens hpart hspan
  rw [htokens]
  refine Span.text_of_not_splits hstop hstart (fun hinside => hne ?_) t gap
  exact hparts.eq_of_splits hpart htype hspan rfl hinside hsplits

/-- More than blanks in the gap makes the type another one: the canonical form drops blanks only, and then the
texts differ in length. -/
theorem canonical_ne_of_splits (ahead behind filling : List Char) (hgap : t.gap = ahead ++ behind)
    (hfilling : ∃ c ∈ filling, Text.isBlank c = false) :
    Signature.canonical (place.text (pre ++ { t with gap := ahead ++ (filling ++ behind) } :: post)) ≠
      Signature.canonical (place.text parsed.tokens) := by
  obtain ⟨hstop, hstart⟩ := bounds_of_mem_parts hparsed htokens htype rfl
  obtain ⟨first, last, htext⟩ := Span.text_of_splits hstop hstart hsplits t
  have hold : place.text parsed.tokens = String.ofList (first ++ (ahead ++ behind ++ last)) := by
    rw [htokens, ← hgap, ← htext]
  rw [htext, hold]
  intro hsame
  have hkept := congrArg (fun text => text.toList.length) hsame
  simp only [Signature.canonical, Text.dropBlanks, String.toList_ofList, List.filter_append, List.length_append] at hkept
  obtain ⟨c, hc, hblank⟩ := hfilling
  have hpos : 0 < (filling.filter fun c => !Text.isBlank c).length :=
    List.length_pos_of_mem (List.mem_filter.mpr ⟨hc, by simp [hblank]⟩)
  omega

end Place

/-- A comment with blanks around it that stands between two tokens of a type leaves the items of the source as
they are, but it stays in the text of the type. So the diagram is the same as without the comment exactly if it
does not show the type. Two tokens are apart if a line end between them makes no difference. -/
theorem render_comment_iff (s : Lexer.Seam) {items : List Item} {place : Span} {comment : List Char}
    (hsource : parse? (s.source []) = some ⟨s.tokens [], items⟩)
    (hapart : parse? (s.source ['\n']) = some ⟨s.tokens ['\n'], items⟩)
    (htype : .type place ∈ items.flatMap Item.parts) (hinside : place.Splits (s.after.length + 1))
    (hcomment : Lexer.IsBlockComment comment) :
    ∃ commented, parse? (s.source (' ' :: (comment ++ [' ']))) = some commented ∧ commented.items = items ∧
      ∀ path showVisibility,
        PlantUml.render showVisibility (({} : Builder).build ⟨path, commented.declarations⟩).1 =
            PlantUml.render showVisibility (({} : Builder).build ⟨path, Parsed.declarations ⟨s.tokens [], items⟩⟩).1 ↔
          ¬ Shows (Span.text (s.tokens [])) items place := by
  have hbefore : s.before ≠ [] := by
    intro hnone
    have hbounds := (bounds_of_mem_parts hsource rfl htype rfl).2
    rw [hnone, List.length_nil] at hbounds
    have hstart := hinside.2
    omega
  have hcommented : parse? (s.source (' ' :: (comment ++ [' ']))) =
      some ⟨s.tokens (' ' :: (comment ++ [' '])), items⟩ := by
    have htokens := s.tokens?_comment hbefore (parse?_tokens hapart) hcomment
    exact parse?_regap (t := ⟨[], s.kind, s.text⟩) (by simp) (by simp) hapart htokens
  have hslash : ∃ c ∈ ' ' :: (comment ++ [' ']), Text.isBlank c = false := by
    obtain ⟨body, rfl, _⟩ := hcomment
    exact ⟨'/', by simp, by decide⟩
  have hagree := agreeBut_of_splits hsource rfl htype hinside (s.ahead ++ (' ' :: (comment ++ [' ']) ++ s.behind))
  have hdiffers := canonical_ne_of_splits hsource rfl htype hinside s.ahead s.behind _ rfl hslash
  refine ⟨_, hcommented, rfl, fun path showVisibility => ?_⟩
  rw [Builder.build_fst, Builder.build_fst]
  exact hagree.render_eq_iff hdiffers (parse?_legiblyNamed hsource none) (parse?_legiblyNamed hcommented none)
    showVisibility

/-- The place in front of the argument of `Vec` in the type of a field. -/
def vecSeam : Lexer.Seam where
  start := "struct A \x7b\x7d\nstruct B \x7b x: Vec<".toList
  before := [
    ⟨[], .word, "struct".toList⟩, ⟨[' '], .word, ['A']⟩, ⟨[' '], .punctuation, ['\x7b']⟩, ⟨[], .punctuation, ['\x7d']⟩,
    ⟨['\n'], .word, "struct".toList⟩, ⟨[' '], .word, ['B']⟩, ⟨[' '], .punctuation, ['\x7b']⟩,
    ⟨[' '], .word, ['x']⟩, ⟨[], .punctuation, [':']⟩, ⟨[' '], .word, "Vec".toList⟩, ⟨[], .punctuation, ['<']⟩]
  start_eq := by decide
  ahead := []
  isGap_ahead := .nil
  behind := []
  kind := .word
  text := ['A']
  after := [⟨[], .punctuation, ['>']⟩, ⟨[' '], .punctuation, ['\x7d']⟩]
  rest := "A> \x7d\n".toList

/-- The struct around the place, with the place of the type of its field. -/
def vecStruct : Syntax.Struct where
  name := "B"
  visibility := .hidden
  shape := .named
  fields := [⟨"x", ⟨5, 1⟩, .hidden⟩]

/-- The items of the source. -/
def vecItems : List Item :=
  [.struct { name := "A", visibility := .hidden, shape := .named }, .struct vecStruct]

theorem parse?_vecSeam : parse? (vecSeam.source []) = some ⟨vecSeam.tokens [], vecItems⟩ := by decide +kernel

theorem parse?_vecSeam_line : parse? (vecSeam.source ['\n']) = some ⟨vecSeam.tokens ['\n'], vecItems⟩ := by
  decide +kernel

/-- A comment in the type of the field changes the diagram: the token of the type argument takes the comment in,
and its edge is gone. -/
theorem render_comment_vecSeam :
    parse? (vecSeam.source []) = some ⟨vecSeam.tokens [], vecItems⟩ ∧
      parse? (vecSeam.source ['\n']) = some ⟨vecSeam.tokens ['\n'], vecItems⟩ ∧
      .type ⟨5, 1⟩ ∈ vecItems.flatMap Item.parts ∧ Span.Splits ⟨5, 1⟩ (vecSeam.after.length + 1) ∧
      Lexer.IsBlockComment "/*c*/".toList ∧
      ∃ commented, parse? (vecSeam.source " /*c*/ ".toList) = some commented ∧
        PlantUml.render true (({} : Builder).build ⟨none, commented.declarations⟩).1 ≠
          PlantUml.render true (({} : Builder).build ⟨none, Parsed.declarations ⟨vecSeam.tokens [], vecItems⟩⟩).1 := by
  have hcomment : Lexer.IsBlockComment "/*c*/".toList := ⟨"c*/".toList, rfl, by decide⟩
  have htype : .type ⟨5, 1⟩ ∈ vecItems.flatMap Item.parts := by decide
  have hinside : Span.Splits ⟨5, 1⟩ (vecSeam.after.length + 1) := ⟨by decide, by decide⟩
  have hshows : Shows (Span.text (vecSeam.tokens [])) vecItems ⟨5, 1⟩ :=
    .field vecStruct ⟨"x", ⟨5, 1⟩, .hidden⟩ (by decide) (by decide) rfl
  obtain ⟨commented, hcommented, _, hdiagram⟩ :=
    render_comment_iff vecSeam parse?_vecSeam parse?_vecSeam_line htype hinside hcomment
  refine ⟨parse?_vecSeam, parse?_vecSeam_line, htype, hinside, hcomment, commented, hcommented, fun hsame => ?_⟩
  exact (hdiagram none true).mp hsame hshows

/-- Comments between the tokens of types are not without effect. The field of the struct shows its type, so the
condition of the general statement fails for it. -/
theorem not_render_comment_eq :
    ¬ ∀ (s : Lexer.Seam) (items : List Item) (place : Span) (comment : List Char) (commented : Parsed),
      parse? (s.source []) = some ⟨s.tokens [], items⟩ → parse? (s.source ['\n']) = some ⟨s.tokens ['\n'], items⟩ →
      .type place ∈ items.flatMap Item.parts → place.Splits (s.after.length + 1) →
      Lexer.IsBlockComment comment → parse? (s.source (' ' :: (comment ++ [' ']))) = some commented →
      PlantUml.render true (({} : Builder).build ⟨none, commented.declarations⟩).1 =
        PlantUml.render true (({} : Builder).build ⟨none, Parsed.declarations ⟨s.tokens [], items⟩⟩).1 := by
  intro hall
  have hsame := hall vecSeam vecItems ⟨5, 1⟩ "/*c*/".toList ⟨vecSeam.tokens " /*c*/ ".toList, vecItems⟩
    parse?_vecSeam parse?_vecSeam_line (by decide) ⟨by decide, by decide⟩ ⟨"c*/".toList, rfl, by decide⟩
    (by decide +kernel)
  exact absurd hsame (by decide +kernel)

end ClassDiagram.Rust
