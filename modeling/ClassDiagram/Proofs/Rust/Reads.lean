import ClassDiagram.Proofs.Rust.Lexeme
import ClassDiagram.Proofs.Rust.Steps
import ClassDiagram.Proofs.Rust.Targets

namespace ClassDiagram.Rust

/-- The tokens are these lexemes, whatever their gaps. -/
def Spells (ls : List Lexeme) (ts : List Token) : Prop :=
  List.Forall₂ (fun l t => ∃ gap, t = l.token gap) ls ts

@[simp]
theorem spells_nil_iff {ts : List Token} : Spells [] ts ↔ ts = [] :=
  List.forall₂_nil_left_iff

theorem spells_cons_iff {l : Lexeme} {ls : List Lexeme} {ts : List Token} :
    Spells (l :: ls) ts ↔ ∃ gap rest, ts = l.token gap :: rest ∧ Spells ls rest := by
  rw [Spells, List.forall₂_cons_left_iff]
  constructor
  · rintro ⟨_, rest, ⟨gap, rfl⟩, hrest, rfl⟩
    exact ⟨gap, rest, rfl, hrest⟩
  · rintro ⟨gap, rest, rfl, hrest⟩
    exact ⟨_, rest, ⟨gap, rfl⟩, hrest, rfl⟩

theorem spells_append_iff {ls ms : List Lexeme} {ts : List Token} :
    Spells (ls ++ ms) ts ↔ ∃ first rest, ts = first ++ rest ∧ Spells ls first ∧ Spells ms rest := by
  induction ls generalizing ts with
  | nil => simp
  | cons l ls ih =>
    simp only [List.cons_append, spells_cons_iff, ih]
    constructor
    · rintro ⟨gap, _, rfl, first, rest, rfl, hfirst, hrest⟩
      exact ⟨_, rest, rfl, ⟨gap, first, rfl, hfirst⟩, hrest⟩
    · rintro ⟨_, rest, rfl, ⟨gap, first, rfl, hfirst⟩, hrest⟩
      exact ⟨gap, _, rfl, first, rest, rfl, hfirst, hrest⟩

/-- Which lexemes tokens are does not depend on their gaps. The grammar sees the tokens with other gaps than the
source has. -/
theorem Spells.of_sameWord {ls : List Lexeme} {ts us : List Token} (hls : Spells ls ts)
    (hsame : List.Forall₂ Token.SameWord ts us) : Spells ls us := by
  induction hls generalizing us with
  | nil =>
    cases hsame
    exact .nil
  | @cons l _ _ _ hl _ ih =>
    obtain ⟨gap, rfl⟩ := hl
    cases hsame with
    | @cons _ u _ _ hfirst hmore =>
      obtain ⟨hkind, htext⟩ := hfirst
      have hu : u = l.token u.gap := by
        rw [Lexeme.token, ← l.kind_token gap, ← l.text_token gap, hkind, htext]
      exact .cons ⟨u.gap, hu⟩ (ih hmore)

/-- Lexemes that are laid out are spelled by their tokens, whatever the layout and whatever stands before them. -/
theorem Layout.spells_tokens (layout : Layout) (before : Option Lexeme) (ls : List Lexeme) :
    Spells ls (layout.tokens before ls) := by
  induction ls generalizing layout before with
  | nil => exact .nil
  | cons l ls ih => exact .cons ⟨_, rfl⟩ (ih layout.next (some l))

/-- The tokens begin with one of these lexemes. -/
def BeginsWith (ls : List Lexeme) (ts : List Token) : Prop :=
  ∃ l ∈ ls, ∃ gap rest, ts = l.token gap :: rest

theorem BeginsWith.singleton (l : Lexeme) (gap : List Char) (ts : List Token) : BeginsWith [l] (l.token gap :: ts) :=
  ⟨l, List.mem_singleton.mpr rfl, gap, ts, rfl⟩

theorem BeginsWith.of_singleton {l : Lexeme} {ts : List Token} (h : BeginsWith [l] ts) :
    ∃ gap rest, ts = l.token gap :: rest := by
  obtain ⟨_, hl, htokens⟩ := h
  rwa [List.mem_singleton.mp hl] at htokens

theorem BeginsWith.of_subset {ls ms : List Lexeme} {ts : List Token} (h : BeginsWith ls ts) (hms : ls ⊆ ms) :
    BeginsWith ms ts := by
  obtain ⟨l, hl, htokens⟩ := h
  exact ⟨l, hms hl, htokens⟩

/-- Tokens that begin with one of some lexemes begin with none of the marks that are not among these. Most
choices of the grammar are made by such a look ahead. -/
theorem BeginsWith.isPunctuation_eq_false {ls : List Lexeme} {ts : List Token} (h : BeginsWith ls ts)
    (cs : List Char) (hcs : ∀ c ∈ cs, ∀ l ∈ ls, l.text ≠ [c]) :
    ∃ t rest, ts = t :: rest ∧ ∀ c ∈ cs, t.isPunctuation c = false := by
  obtain ⟨l, hl, gap, rest, rfl⟩ := h
  exact ⟨_, rest, rfl, fun c hc => by simp [Token.isPunctuation, hcs c hc l hl]⟩

/-- Lexemes written without any blank. -/
def written (ls : List Lexeme) : String :=
  String.ofList (ls.flatMap Lexeme.text)

/-- The place holds these lexemes. -/
def Span.Covers (source : List Token) (place : Span) (ls : List Lexeme) : Prop :=
  Spells ls (place.tokens source)

/-- There are no comments between the tokens. -/
def BlankGaps (ts : List Token) : Prop :=
  ∀ t ∈ ts, ∀ c ∈ t.gap, Text.isBlank c = true

theorem isBlank_of_mem_lexeme {l : Lexeme} {c : Char} (hc : c ∈ l.text) : Text.isBlank c = false := by
  cases l with
  | word w hw =>
    have hname : Build.isNameChar c = true := (PlantUml.isWord_chars hw).2 c hc
    exact Lexer.InWord.isBlank (.inr (.inl (Lexer.isWordChar_of_isNameChar hname)))
  | mark d hd =>
    have hmarks : ∀ d ∈ plainMarks, Text.isBlank d = false := Text.forall_of_all (by decide)
    exact hmarks c (List.mem_singleton.mp hc ▸ hd)

/-- Between lexemes there are only blanks, so without its blanks a text is the lexemes written one behind the
other. -/
theorem Spells.filter_eq {ls : List Lexeme} {ts : List Token} (hts : Spells ls ts) (hgaps : BlankGaps ts) :
    (ts.flatMap fun t => t.gap ++ t.text).filter (fun c => !Text.isBlank c) = ls.flatMap Lexeme.text := by
  induction hts with
  | nil => rfl
  | @cons l t ls ts hl _ ih =>
    obtain ⟨gap, rfl⟩ := hl
    have hgap : gap.filter (fun c => !Text.isBlank c) = [] :=
      Text.filter_eq_nil_of_blank (hgaps _ List.mem_cons_self)
    have htext : l.text.filter (fun c => !Text.isBlank c) = l.text :=
      Text.filter_eq_self_of_not_blank fun _ => isBlank_of_mem_lexeme
    have hmore := ih fun t ht => hgaps t (List.mem_cons_of_mem _ ht)
    simp only [List.flatMap_cons, List.filter_append, Lexeme.gap_token, Lexeme.text_token, hgap, htext, hmore,
      List.nil_append]

/-- A place whose gaps are blank holds the lexemes as they are written, but for blanks. The canonical form of a
type therefore does not depend on the layout. -/
theorem Span.Covers.canonical_text {source : List Token} {place : Span} {ls : List Lexeme}
    (h : place.Covers source ls) (hgaps : BlankGaps source) :
    Signature.canonical (place.text source) = written ls := by
  have hmem : ∀ t ∈ place.tokens source, t ∈ source := fun t ht => List.mem_of_mem_drop (List.mem_of_mem_take ht)
  have hfilter := Spells.filter_eq h fun t ht => hgaps t (hmem t ht)
  rw [written, ← hfilter, Signature.canonical, Text.dropBlanks, Span.text, Token.sourceOf.eq_def]
  cases htokens : place.tokens source with
  | nil => rfl
  | cons t ts =>
    have hgap : t.gap.filter (fun c => !Text.isBlank c) = [] :=
      Text.filter_eq_nil_of_blank (hgaps t (hmem t (htokens ▸ List.mem_cons_self)))
    simp [hgap]

/-- The text of a place with a single word is this word, without the blanks in front of it. -/
theorem Span.Covers.text_eq {source : List Token} {place : Span} {w : String} {hw : Build.isWord w.toList = true}
    (h : place.Covers source [.word w hw]) : place.text source = w := by
  obtain ⟨gap, rest, htokens, hrest⟩ := spells_cons_iff.mp h
  rw [spells_nil_iff.mp hrest] at htokens
  simp [Span.text, htokens, Token.sourceOf]

/-- Lexemes between two others, as in brackets. -/
def enclosed (first last : Lexeme) (ls : List Lexeme) : List Lexeme :=
  first :: (ls ++ [last])

/-- Wherever the lexemes stand in the source before tokens that may follow them, the parser takes them and gives
a value that `Q` holds of. -/
structure Reads {α : Type} (source : List Token) (p : Parse α) (ls : List Lexeme) (follow : List Token → Prop)
    (Q : α → Prop) : Prop where
  run : ∀ {ts rest : List Token}, Spells ls ts → ts ++ rest <:+ Token.reduce source → follow rest →
    ∃ a, p.run (ts ++ rest) = some (a, rest) ∧ Q a

namespace Reads

variable {α β γ : Type} {source : List Token} {p : Parse α} {follow : List Token → Prop}

/-- A parser that reads lexemes also reads them under a stronger condition on what follows, and with a weaker
statement about its value. -/
theorem imp {ls : List Lexeme} {follow' : List Token → Prop} {P Q : α → Prop} (h : Reads source p ls follow P)
    (hfollow : ∀ ts, follow' ts → follow ts) (himp : ∀ a, P a → Q a) : Reads source p ls follow' Q := by
  refine ⟨fun hts hsource hrest => ?_⟩
  obtain ⟨a, hrun, ha⟩ := h.run hts hsource (hfollow _ hrest)
  exact ⟨a, hrun, himp a ha⟩

theorem one {l : Lexeme} {Q : α → Prop} (h : Reads source p [l] follow Q) {gap : List Char} {rest : List Token}
    (hsource : l.token gap :: rest <:+ Token.reduce source) (hrest : follow rest) :
    ∃ a, p.run (l.token gap :: rest) = some (a, rest) ∧ Q a := by
  have hl : Spells [l] [l.token gap] := .cons ⟨gap, rfl⟩ .nil
  have hsource : [l.token gap] ++ rest <:+ Token.reduce source := hsource
  exact h.run hl hsource hrest

/-- What stands in front of another lexeme is read up to it. So a rule can be followed from one fixed word or
mark to the next. -/
theorem before {l : Lexeme} {ls more : List Lexeme} {Q : α → Prop} (h : Reads source p ls follow Q)
    (hfollow : ∀ gap ts, follow (l.token gap :: ts)) {ts rest : List Token} (hts : Spells (ls ++ l :: more) ts)
    (hsource : ts ++ rest <:+ Token.reduce source) :
    ∃ a gap us, p.run (ts ++ rest) = some (a, l.token gap :: (us ++ rest)) ∧ Q a ∧ Spells more us ∧
      us ++ rest <:+ Token.reduce source := by
  obtain ⟨first, others, rfl, hfirst, hothers⟩ := spells_append_iff.mp hts
  obtain ⟨gap, us, rfl, hmore⟩ := spells_cons_iff.mp hothers
  rw [List.append_assoc, List.cons_append] at hsource ⊢
  obtain ⟨a, hrun, ha⟩ := h.run hfirst hsource (hfollow gap _)
  exact ⟨a, gap, us, hrun, ha, hmore, ((List.suffix_cons ..).trans (List.suffix_append ..)).trans hsource⟩

theorem ignored {ls : List Lexeme} {Q : α → Prop} (h : Reads source p ls follow Q) :
    Reads source (do let _ ← p) ls follow fun _ => True := by
  refine ⟨fun hts hsource hrest => ?_⟩
  obtain ⟨a, hrun, _⟩ := h.run hts hsource hrest
  exact ⟨(), by simp [hrun], trivial⟩

/-- The place of what a parser reads holds the lexemes that it reads, counted in the tokens of the source. -/
theorem span {p : Parse Unit} {ls : List Lexeme} {Q : Unit → Prop} (h : Reads source p ls follow Q) :
    Reads source (Parse.span p) ls follow fun place => place.Covers source ls := by
  refine ⟨fun {ts rest} hts hsource hrest => ?_⟩
  obtain ⟨_, hrun, _⟩ := h.run hts hsource hrest
  refine ⟨⟨(ts ++ rest).length, rest.length⟩, Parse.run_span hrun, ?_⟩
  have hsame := Span.tokens_sameWord ⟨(ts ++ rest).length, rest.length⟩ source
  rw [Span.tokens_of_isSuffix hsource] at hsame
  exact hts.of_sameWord hsame

/-- What is read in front of a closing mark is read between two marks. -/
theorem bracketed {first last : Char} {hfirst : first ∈ plainMarks} {hlast : last ∈ plainMarks} {ls : List Lexeme}
    {Q : α → Prop} (h : Reads source p ls (BeginsWith [.mark last hlast]) Q) :
    Reads source (do Parse.punct first; let a ← p; Parse.punct last; return a)
      (enclosed (.mark first hfirst) (.mark last hlast) ls) (fun _ => True) Q := by
  refine ⟨fun {ts rest} hts hsource _ => ?_⟩
  obtain ⟨gap, inside, rfl, hinside⟩ := spells_cons_iff.mp hts
  obtain ⟨a, gap', nothing, hrun, ha, hnothing, -⟩ :=
    h.before (.singleton (.mark last hlast)) hinside ((List.suffix_cons ..).trans hsource)
  obtain rfl := spells_nil_iff.mp hnothing
  exact ⟨a, by simp [hrun], ha⟩

variable {view : α → γ} {shown : β → γ} {write : β → List Lexeme}

/-- The rounds of a repetition, by induction on what is still to be read. The bound on the rounds is long enough
because every part has a lexeme. -/
theorem manyAlong {xs : List β} (hreads : ∀ x ∈ xs, Reads source p (write x) follow fun a => view a = shown x)
    (hfollow : ∀ x ∈ xs, ∀ {ts : List Token}, Spells (write x) ts → ts ≠ [] ∧ ∀ rest, follow (ts ++ rest))
    {ts rest : List Token} (hts : Spells (xs.flatMap write) ts) (hsource : ts ++ rest <:+ Token.reduce source)
    (hrest : follow rest) (hstop : p.run rest = none) {bound : List Token} (hbound : ts.length ≤ bound.length) :
    ∃ as, (Parse.manyAlong p bound).run (ts ++ rest) = some (as, rest) ∧ as.map view = xs.map shown := by
  induction xs generalizing ts bound with
  | nil =>
    obtain rfl : ts = [] := spells_nil_iff.mp hts
    refine ⟨[], ?_, rfl⟩
    cases bound with
    | nil => rfl
    | cons _ bound => simp [Parse.manyAlong, hstop]
  | cons x xs ih =>
    rw [List.flatMap_cons, spells_append_iff] at hts
    obtain ⟨first, more, rfl, hfirst, hmore⟩ := hts
    obtain ⟨hne, _⟩ := hfollow x List.mem_cons_self hfirst
    have hpos := List.length_pos_iff.mpr hne
    rw [List.length_append] at hbound
    obtain ⟨_, bound, rfl⟩ := List.exists_cons_of_length_pos (by omega : 0 < bound.length)
    rw [List.append_assoc] at hsource ⊢
    have hnext : follow (more ++ rest) := by
      cases xs with
      | nil =>
        rw [spells_nil_iff.mp hmore]
        exact hrest
      | cons y xs =>
        rw [List.flatMap_cons, spells_append_iff] at hmore
        obtain ⟨second, more, rfl, hsecond, _⟩ := hmore
        rw [List.append_assoc]
        exact (hfollow y (by simp) hsecond).2 _
    obtain ⟨a, ha, hview⟩ := (hreads x List.mem_cons_self).run hfirst hsource hnext
    rw [List.length_cons] at hbound
    have hlength : more.length ≤ bound.length := by omega
    obtain ⟨as, has, hviews⟩ := ih (fun y hy => hreads y (List.mem_cons_of_mem x hy))
      (fun y hy => hfollow y (List.mem_cons_of_mem x hy)) hmore ((List.suffix_append ..).trans hsource) hlength
    exact ⟨a :: as, by simp [Parse.manyAlong, ha, has], by simp [hview, hviews]⟩

/-- A repetition reads what its rounds read, up to tokens on which it stops. Each part has to be one that may
follow another. -/
theorem many {xs : List β} (hreads : ∀ x ∈ xs, Reads source p (write x) follow fun a => view a = shown x)
    (hfollow : ∀ x ∈ xs, ∀ {ts : List Token}, Spells (write x) ts → ts ≠ [] ∧ ∀ rest, follow (ts ++ rest)) :
    Reads source (Parse.many p) (xs.flatMap write) (fun rest => follow rest ∧ p.run rest = none)
      fun as => as.map view = xs.map shown :=
  ⟨fun {ts rest} hts hsource hrest => manyAlong hreads hfollow hts hsource hrest.1 hrest.2 (by simp)⟩

/-- The tokens end a list: they may follow a part, and are not a comma and another part. -/
def EndsList (p : Parse α) (follow : List Token → Prop) (ts : List Token) : Prop :=
  follow ts ∧ (do Parse.punct ','; p).run ts = none

/-- Parts with commas between them are read up to where the list ends. A comma is taken only with a part behind
it. -/
theorem commaSeparated {x : β} {xs : List β}
    (hreads : ∀ y ∈ x :: xs, Reads source p (write y) follow fun a => view a = shown y)
    (hcomma : ∀ gap ts, follow ((Lexeme.mark ',').token gap :: ts)) :
    Reads source (Parse.commaSeparated p) (write x ++ xs.flatMap fun y => .mark ',' :: write y) (EndsList p follow)
      fun as => as.map view = (x :: xs).map shown := by
  have hmore : Reads source (Parse.many (do Parse.punct ','; p)) (xs.flatMap fun y => .mark ',' :: write y)
      (EndsList p follow) fun as => as.map view = xs.map shown := by
    refine many (fun y hy => ⟨fun hts hsource hrest => ?_⟩) fun y hy ts hts => ?_
    · obtain ⟨gap, part, rfl, hpart⟩ := spells_cons_iff.mp hts
      obtain ⟨a, hrun, hview⟩ :=
        (hreads y (List.mem_cons_of_mem x hy)).run hpart ((List.suffix_cons ..).trans hsource) hrest
      exact ⟨a, by simp [hrun], hview⟩
    · obtain ⟨gap, part, rfl, _⟩ := spells_cons_iff.mp hts
      exact ⟨by simp, fun rest => hcomma gap (part ++ rest)⟩
  refine ⟨fun {ts rest} hts hsource hrest => ?_⟩
  obtain ⟨first, more, rfl, hfirst, hothers⟩ := spells_append_iff.mp hts
  rw [List.append_assoc] at hsource ⊢
  have hnext : follow (more ++ rest) := by
    cases xs with
    | nil =>
      rw [spells_nil_iff.mp hothers]
      exact hrest.1
    | cons y xs =>
      obtain ⟨gap, more, rfl, _⟩ := spells_cons_iff.mp hothers
      exact hcomma gap (more ++ rest)
  obtain ⟨a, ha, hview⟩ := (hreads x List.mem_cons_self).run hfirst hsource hnext
  obtain ⟨as, has, hviews⟩ := hmore.run hothers ((List.suffix_append ..).trans hsource) hrest
  exact ⟨a :: as, by simp [Parse.commaSeparated, ha, has], by simp [hview, hviews]⟩

end Reads

/-- Parts with commas between them, and perhaps one after the last. -/
def commaLexemes : List (List Lexeme) → Bool → List Lexeme
  | [], _ => []
  | part :: parts, comma => part ++ (parts.flatMap (.mark ',' :: ·) ++ if comma then [.mark ','] else [])

theorem length_le_commaLexemes {part : List Lexeme} {parts : List (List Lexeme)} (comma : Bool)
    (hpart : part ∈ parts) : part.length ≤ (commaLexemes parts comma).length := by
  cases parts with
  | nil => cases hpart
  | cons first others =>
    rw [commaLexemes, List.length_append, List.length_append]
    rcases List.mem_cons.mp hpart with rfl | hothers
    · omega
    · obtain ⟨early, late, rfl⟩ := List.append_of_mem hothers
      simp only [List.flatMap_append, List.flatMap_cons, List.length_append, List.length_cons]
      omega

namespace Reads

section

variable {α β γ : Type} {source : List Token} {p : Parse α} {view : α → γ} {shown : β → γ}
  {write : β → List Lexeme} {close : Char} {hclose : close ∈ plainMarks} (hne : close ≠ ',') {xs : List β}
  (hreads : ∀ x ∈ xs,
    Reads source p (write x) (BeginsWith [.mark ',', .mark close hclose]) fun a => view a = shown x)
  (hstop : ∀ gap ts, p.run ((Lexeme.mark close hclose).token gap :: ts) = none)

include hne hreads hstop

/-- The parts of a list are read up to the comma after the last, if there is one. This comma is left, and the
closing mark behind it keeps it from being taken for the start of another part. -/
theorem commaParts (hxs : xs ≠ []) {comma : Bool} {ts : List Token}
    (hts : Spells (commaLexemes (xs.map write) comma) ts) {gap : List Char} {rest : List Token}
    (hsource : ts ++ (Lexeme.mark close hclose).token gap :: rest <:+ Token.reduce source) :
    ∃ as mid, (Parse.commaSeparated p).run (ts ++ (Lexeme.mark close hclose).token gap :: rest) = some (as, mid) ∧
      (Parse.maybe (Parse.punct ',')).run mid = some ((), (Lexeme.mark close hclose).token gap :: rest) ∧
      as.map view = xs.map shown := by
  obtain ⟨x, xs, rfl⟩ := List.exists_cons_of_ne_nil hxs
  have hall := commaSeparated hreads fun gap ts => ⟨_, List.mem_cons_self, gap, ts, rfl⟩
  rw [List.map_cons, commaLexemes, ← List.append_assoc, List.flatMap_map] at hts
  obtain ⟨parts, last, rfl, hparts, hlast⟩ := spells_append_iff.mp hts
  cases comma with
  | false =>
    obtain rfl : last = [] := spells_nil_iff.mp hlast
    rw [List.append_nil] at hsource ⊢
    obtain ⟨as, has, hviews⟩ := hall.run hparts hsource ⟨⟨_, by simp, gap, rest, rfl⟩, by simp [hne]⟩
    exact ⟨as, _, has, by simp [hne], hviews⟩
  | true =>
    rw [if_pos rfl] at hlast
    obtain ⟨gap', nothing, rfl, hnothing⟩ := spells_cons_iff.mp hlast
    obtain rfl := spells_nil_iff.mp hnothing
    rw [List.append_assoc] at hsource ⊢
    obtain ⟨as, has, hviews⟩ := hall.run hparts hsource ⟨⟨_, by simp, gap', _, rfl⟩, by simp [hstop]⟩
    exact ⟨as, _, has, by simp, hviews⟩

/-- A list of at least one part is read with or without a comma at its end. -/
theorem commaList1 (hxs : xs ≠ []) (comma : Bool) :
    Reads source (Parse.commaList1 p) (commaLexemes (xs.map write) comma) (BeginsWith [.mark close hclose])
      fun as => as.map view = xs.map shown := by
  refine ⟨fun hts hsource hrest => ?_⟩
  obtain ⟨gap, rest, rfl⟩ := hrest.of_singleton
  obtain ⟨as, mid, hparts, hend, hviews⟩ := commaParts hne hreads hstop hxs hts hsource
  exact ⟨as, by simp only [Parse.commaList1, Parse.run_bind, hparts, Option.bind_some, hend, Parse.run_pure], hviews⟩

/-- The same of a list that may be empty; without parts there is no comma. -/
theorem commaList (comma : Bool) :
    Reads source (Parse.commaList p) (commaLexemes (xs.map write) comma) (BeginsWith [.mark close hclose])
      fun as => as.map view = xs.map shown := by
  refine ⟨fun hts hsource hrest => ?_⟩
  obtain ⟨gap, rest, rfl⟩ := hrest.of_singleton
  by_cases hxs : xs = []
  · subst hxs
    rw [spells_nil_iff.mp hts]
    exact ⟨[], by simp [Parse.commaList, Parse.commaSeparated, hstop, hne], rfl⟩
  · obtain ⟨as, mid, hparts, hend, hviews⟩ := commaParts hne hreads hstop hxs hts hsource
    exact ⟨as, by simp only [Parse.commaList, Parse.run_bind, Parse.run_orElse, hparts, Option.some_or,
      Option.bind_some, hend, Parse.run_pure], hviews⟩

end

end Reads

end ClassDiagram.Rust
