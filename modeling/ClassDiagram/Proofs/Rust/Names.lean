import ClassDiagram.Proofs.Diagram.Determined
import ClassDiagram.Proofs.Rust.Parts
import ClassDiagram.Proofs.Rust.Words
import Mathlib.Data.List.Forall2

namespace ClassDiagram.Rust

namespace Token

/-- Tokens that differ in nothing but their gaps. -/
def SameWord (t u : Token) : Prop :=
  t.kind = u.kind ∧ t.text = u.text

/-- What the grammar sees of the tokens differs from them in nothing but gaps. -/
theorem reduceFrom_sameWord (before : Option Token) (ts : List Token) :
    List.Forall₂ SameWord (reduceFrom before ts) ts := by
  induction ts generalizing before with
  | nil => exact .nil
  | cons t ts ih => exact .cons ⟨rfl, rfl⟩ (ih (some t))

theorem reduce_sameWord (ts : List Token) : List.Forall₂ SameWord (reduce ts) ts :=
  reduceFrom_sameWord none ts

/-- Each token that the grammar sees is one of the source, up to its gap. -/
theorem exists_sameWord_of_mem {ts us : List Token} (hsame : List.Forall₂ SameWord ts us) {t : Token}
    (ht : t ∈ ts) : ∃ u ∈ us, SameWord t u := by
  induction hsame with
  | nil => cases ht
  | cons hfirst _ ih =>
    rcases List.mem_cons.mp ht with rfl | ht
    · exact ⟨_, List.mem_cons_self, hfirst⟩
    · obtain ⟨u, hu, hword⟩ := ih ht
      exact ⟨u, List.mem_cons_of_mem _ hu, hword⟩

end Token

/-- The tokens of a parsed source are those that the source is cut into. -/
theorem parse?_tokens {source : String} {parsed : Parsed} (h : parse? source = some parsed) :
    Lexer.tokens? source = some parsed.tokens :=
  (parse?_eq_some_iff.mp h).1

/-- A word holds no blank, quote, colon or parenthesis, which are the characters that end a name in a diagram. -/
theorem Lexer.InWord.isLegible {name : List Char} (hname : ∀ c ∈ name, InWord c) :
    IsLegible (String.ofList name) := by
  intro c hc
  have hword : InWord c := hname c (by simpa using hc)
  exact ⟨hword.isBlank, hword.ne (by decide), hword.ne (by decide), hword.ne (by decide)⟩

/-- A token that is a word or a variable of a macro is legible, for all its characters are those of words. -/
theorem Lexer.IsRead.isLegible {t : Token} (ht : IsRead t) (hkind : t.kind = .word ∨ t.kind = .metavariable) :
    IsLegible (String.ofList t.text) := by
  rcases hkind with hword | hvariable
  · exact InWord.isLegible (ht.word hword)
  · obtain ⟨name, htext, hname⟩ := ht.metavariable hvariable
    rw [htext]
    refine InWord.isLegible fun c hc => ?_
    rcases List.mem_cons.mp hc with rfl | hc
    · exact .inr (.inr (.inr rfl))
    · exact hname c hc

/-- A name that an item declares is one of its parts, hence a token of the source. -/
theorem Item.name_mem_parts {text : Span → String} {item : Item} {d : Declaration}
    (hread : item.read? text = some d) {name : String} (hname : name ∈ d.names) : .name name ∈ item.parts := by
  cases item with
  | struct s =>
    cases hread
    rcases List.mem_cons.mp hname with rfl | hname
    · exact List.mem_cons_self
    · obtain ⟨f, hf, rfl⟩ := List.mem_map.mp hname
      obtain ⟨g, hg, rfl⟩ := List.mem_map.mp hf
      exact List.mem_cons_of_mem _ (List.mem_flatMap.mpr ⟨g, hg, List.mem_cons_self⟩)
  | impl block =>
    cases hread
    obtain ⟨m, hm, rfl⟩ := List.mem_map.mp hname
    obtain ⟨g, hg, rfl⟩ := List.mem_map.mp hm
    exact List.mem_cons_of_mem _ (List.mem_flatMap.mpr ⟨g, hg, List.mem_cons_self⟩)
  | enum d =>
    cases hread
    rw [List.mem_singleton.mp hname]
    exact List.mem_cons_self
  | method m =>
    cases hread
    cases hname
  | other kind =>
    cases hread
    cases hname
  | _ => cases hread

/-- The names that a parsed source gives to types and members can be told from what stands around them in a
diagram: each of them is a single token. -/
theorem parse?_legiblyNamed {source : String} {parsed : Parsed} (h : parse? source = some parsed)
    (path : Option String) : SourceUnit.LegiblyNamed ⟨path, parsed.declarations⟩ := by
  intro d hd name hname
  obtain ⟨item, hitem, hread⟩ := List.mem_filterMap.mp hd
  obtain ⟨rest, hparts⟩ := parse?_inOrder h
  have hmem : .name name ∈ parsed.items.flatMap Item.parts :=
    List.mem_flatMap.mpr ⟨item, hitem, Item.name_mem_parts hread hname⟩
  obtain ⟨start, mid, hstart, t, rfl, hkind, rfl⟩ := hparts.stands_of_mem hmem
  obtain ⟨u, hu, hsame⟩ := Token.exists_sameWord_of_mem (Token.reduce_sameWord _) (hstart.mem List.mem_cons_self)
  have hread := Lexer.tokens?_isRead (parse?_tokens h) u hu
  rw [hsame.2]
  exact hread.isLegible (hsame.1 ▸ hkind)

end ClassDiagram.Rust
