import ClassDiagram.Proofs.Diagram.Reading
import ClassDiagram.Proofs.Rust.Insertion

namespace ClassDiagram.Rust

/-- The brackets and marks that items of plain structs, enums and impl blocks are written with. -/
def plainMarks : List Char :=
  ['{', '}', '(', ')', '<', '>', ',', ':', ';', '&']

/-- A word of ASCII or a mark, as it is written. -/
inductive Lexeme where
  | word (text : String) (isWord : Build.isWord text.toList = true := by decide)
  | mark (c : Char) (isMark : c ∈ plainMarks := by decide)

namespace Lexeme

def kind : Lexeme → TokenKind
  | word _ _ => .word
  | mark _ _ => .punctuation

def text : Lexeme → List Char
  | word w _ => w.toList
  | mark c _ => [c]

/-- The lexeme with blanks before it. -/
def token (l : Lexeme) (gap : List Char) : Token :=
  ⟨gap, l.kind, l.text⟩

@[simp]
theorem kind_token (l : Lexeme) (gap : List Char) : (l.token gap).kind = l.kind := rfl

@[simp]
theorem text_token (l : Lexeme) (gap : List Char) : (l.token gap).text = l.text := rfl

@[simp]
theorem gap_token (l : Lexeme) (gap : List Char) : (l.token gap).gap = gap := rfl

section

variable {w : String} {hw : Build.isWord w.toList = true} {c : Char} {hc : c ∈ plainMarks} (gap : List Char)

@[simp]
theorem kind_word : (word w hw).kind = .word := rfl

@[simp]
theorem kind_mark : (mark c hc).kind = .punctuation := rfl

@[simp]
theorem text_word : (word w hw).text = w.toList := rfl

/-- A word token is the word that it spells. -/
@[simp]
theorem isWord_word (v : String) : ((word w hw).token gap).isWord v = decide (w = v) := by
  simp [Token.isWord, String.toList_inj]

@[simp]
theorem isWord_mark (v : String) : ((mark c hc).token gap).isWord v = false := by
  simp [Token.isWord]

@[simp]
theorem isPunctuation_word (d : Char) : ((word w hw).token gap).isPunctuation d = false := by
  simp [Token.isPunctuation]

/-- A mark is the one character that it is written with. -/
@[simp]
theorem isPunctuation_mark (d : Char) : ((mark c hc).token gap).isPunctuation d = decide (c = d) := by
  simp [Token.isPunctuation, text]

end

end Lexeme

/-- Blanks between tokens, perhaps none. -/
def Blanks : Type :=
  { text : List Char // ∀ c ∈ text, Lexer.isSpace c = true }

/-- The blanks before each lexeme of a text, and after the last. -/
def Layout : Type :=
  Nat → Blanks

namespace Layout

/-- The layout behind the first lexeme. -/
def next (layout : Layout) : Layout := fun i =>
  layout (i + 1)

/-- The blanks between two lexemes. Where the layout has none, a space keeps two words apart. -/
def gap (layout : Layout) (before : Option Lexeme) (l : Lexeme) : List Char :=
  if (layout 0).1 = [] ∧ l.kind = .word ∧ before.any (·.kind = .word) then [' '] else (layout 0).1

/-- Lexemes with their blanks. -/
def tokens (layout : Layout) (before : Option Lexeme) : List Lexeme → List Token
  | [] => []
  | l :: ls => l.token (layout.gap before l) :: layout.next.tokens (some l) ls

/-- Lexemes as a text, with the blanks after the last. -/
def chars (layout : Layout) (before : Option Lexeme) (ls : List Lexeme) : List Char :=
  Lexer.textOf (layout.tokens before ls) ++ (layout ls.length).1

end Layout

namespace Lexer

theorem toNat_lt_of_isNameChar {c : Char} (hc : Build.isNameChar c = true) : c.toNat < 128 := by
  simp only [Build.isNameChar, Build.isNameStart, Bool.or_eq_true, Bool.and_eq_true, decide_eq_true_eq, beq_iff_eq,
    Char.le_def, UInt32.le_iff_toNat_le] at hc
  rcases hc with ((⟨_, hle⟩ | ⟨_, hle⟩) | rfl) | ⟨_, hle⟩
  · exact Nat.lt_of_le_of_lt hle (by decide)
  · exact Nat.lt_of_le_of_lt hle (by decide)
  · decide
  · exact Nat.lt_of_le_of_lt hle (by decide)

theorem isWordStart_of_isNameStart {c : Char} (hc : Build.isNameStart c = true) : isWordStart c = true := by
  have hascii := toNat_lt_of_isNameChar (by rw [Build.isNameChar, hc, Bool.true_or])
  simp only [Build.isNameStart, isWordStart, if_pos hascii, Bool.or_eq_true] at hc ⊢
  tauto

theorem isWordChar_of_isNameChar {c : Char} (hc : Build.isNameChar c = true) : isWordChar c = true := by
  have hascii := toNat_lt_of_isNameChar hc
  simp only [Build.isNameChar, Build.isNameStart, isWordChar, if_pos hascii, Bool.or_eq_true] at hc ⊢
  tauto

/-- The quotes and the hash sign that literals and raw words begin with, and the mark in front of some texts. -/
def openers : List Char :=
  ['"', '\'', '#', '\ufeff']

/-- A text without any opener. -/
def IsClear (cs : List Char) : Prop :=
  ∀ c ∈ cs, c ∉ openers

theorem IsClear.rawString?_eq_none {cs : List Char} (hclear : IsClear cs) : rawString? cs = none := by
  rw [rawString?]
  split
  · next rest hrest =>
    have hmem : '"' ∈ cs := List.mem_of_mem_drop (hrest ▸ List.mem_cons_self)
    exact absurd (hclear _ hmem) (by decide)
  · rfl

/-- What follows a character of a clear text is clear. -/
theorem IsClear.tail {c : Char} {cs : List Char} (hclear : IsClear (c :: cs)) : IsClear cs := fun d hd =>
  hclear d (List.mem_cons_of_mem c hd)

/-- No string begins in a clear text, as there is no quote in it. -/
theorem IsClear.string?_eq_none {cs : List Char} (hclear : IsClear cs) : string? cs = none := by
  fun_cases string? cs with
  | case1 rest => exact absurd (hclear _ List.mem_cons_self) (by decide)
  | case2 rest => rw [hclear.tail.rawString?_eq_none, Option.map_none]
  | case3 c rest => exact absurd (hclear _ (List.mem_cons_of_mem _ List.mem_cons_self)) (by decide)
  | case4 c rest => rfl
  | case5 c rest => rw [hclear.tail.tail.rawString?_eq_none, Option.map_none]
  | case6 => rfl
  | case7 => rfl

/-- No character literal begins in a clear text, and no lifetime either. -/
theorem IsClear.char?_eq_none {cs : List Char} (hclear : IsClear cs) : char? cs = none := by
  fun_cases char? cs with
  | case1 rest => exact absurd (hclear _ List.mem_cons_self) (by decide)
  | case2 rest => exact absurd (hclear _ (List.mem_cons_of_mem _ List.mem_cons_self)) (by decide)
  | case3 => rfl

/-- A text without a sharp has no interpreter line. -/
theorem IsClear.shebang?_eq_none {cs : List Char} (hclear : IsClear cs) : shebang? cs = none := by
  rw [shebang?.eq_def]
  split
  · exact absurd (hclear _ List.mem_cons_self) (by decide)
  · rfl

theorem IsClear.dropMark_eq {cs : List Char} (hclear : IsClear cs) : dropMark cs = cs := by
  cases cs with
  | nil => rfl
  | cons c rest =>
    have hmark : c.toNat ≠ 0xFEFF := fun h => by
      obtain rfl : c = '\ufeff' := Char.toNat_inj.mp h
      exact absurd (hclear _ List.mem_cons_self) (by decide)
    rw [dropMark, if_neg hmark]

/-- A word is read to its end if no character that could go on with it follows. -/
theorem word?_of_isWord {w rest : List Char} (hw : Build.isWord w = true) (hclear : IsClear (w ++ rest))
    (hrest : ∀ c ∈ rest.head?, isWordChar c = false) : word? (w ++ rest) = some (w, rest) := by
  obtain _ | ⟨c, w⟩ := w
  · cases hw
  obtain ⟨hstart, hmore⟩ := Bool.and_eq_true_iff.mp hw
  have hall : ∀ d ∈ w, isWordChar d = true := fun d hd =>
    isWordChar_of_isNameChar (List.all_eq_true.mp hmore d hd)
  have hraw : ∀ d more, c = 'r' → w ++ rest = '#' :: d :: more → False := by
    intro d more _ hhash
    have hmem : '#' ∈ w ++ rest := by
      rw [hhash]
      exact List.mem_cons_self
    exact absurd (hclear.tail _ hmem) (by decide)
  have hend : rest.takeWhile isWordChar = [] ∧ rest.dropWhile isWordChar = rest := by
    cases rest with
    | nil => exact ⟨rfl, rfl⟩
    | cons d more => simp [hrest d rfl]
  rw [List.cons_append, word?.eq_2 _ _ hraw, if_pos (isWordStart_of_isNameStart hstart),
    List.takeWhile_append_of_pos hall, List.dropWhile_append_of_pos hall, hend.1, hend.2, List.append_nil]

theorem word?_mark {c : Char} (hc : c ∈ plainMarks) (rest : List Char) : word? (c :: rest) = none := by
  have hstart : ∀ d ∈ plainMarks, isWordStart d = false ∧ d ≠ 'r' := Text.forall_of_all (by decide)
  obtain ⟨hstart, hr⟩ := hstart c hc
  rw [word?.eq_2 _ _ fun _ _ h => absurd h hr, if_neg (by simp [hstart])]

/-- Each lexeme at the front of a clear text is read as itself. For a word this needs an end: a blank, a mark,
or nothing. -/
theorem token?_lexeme (l : Lexeme) {rest : List Char} (hclear : IsClear (l.text ++ rest))
    (hrest : l.kind = .word → ∀ c ∈ rest.head?, isWordChar c = false) (afterDot : Bool) :
    token? afterDot (l.text ++ rest) = some (l.kind, l.text, rest) := by
  rw [token?.eq_def, hclear.string?_eq_none]
  dsimp only
  rw [hclear.char?_eq_none]
  dsimp only
  cases l with
  | word w hw =>
    rw [Lexeme.text_word, word?_of_isWord hw hclear (hrest rfl)]
    rfl
  | mark c hc =>
    have hmark : ∀ d ∈ plainMarks, d.isDigit = false ∧ d ≠ '$' ∧ isPunctuation d = true :=
      Text.forall_of_all (by decide)
    obtain ⟨hdigit, hdollar, hmark⟩ := hmark c hc
    simp [Lexeme.text, word?_mark hc, hdigit, hdollar, hmark]

theorem isClear_lexeme (l : Lexeme) : IsClear l.text := by
  intro c hc
  cases l with
  | word w hw =>
    have hname : Build.isNameChar c = true := (PlantUml.isWord_chars hw).2 c hc
    have hnone : ∀ d ∈ openers, Build.isNameChar d = false := Text.forall_of_all (by decide)
    intro hmem
    rw [hnone c hmem] at hname
    cases hname
  | mark d hd =>
    have hmarks : ∀ d ∈ plainMarks, d ∉ openers := Text.forall_of_all (by decide)
    exact hmarks c (List.mem_singleton.mp hc ▸ hd)

theorem isClear_blanks {cs : List Char} (hcs : ∀ c ∈ cs, isSpace c = true) : IsClear cs := fun c hc =>
  Breaks.of_all (P := (· ∉ openers)) (by decide) (.inl (hcs c hc))

theorem IsClear.append {cs ds : List Char} (hcs : IsClear cs) (hds : IsClear ds) : IsClear (cs ++ ds) := by
  intro c hc
  rcases List.mem_append.mp hc with hc | hc
  · exact hcs c hc
  · exact hds c hc

end Lexer

namespace Layout

open Lexer

theorem isSpace_of_mem_gap {layout : Layout} {before : Option Lexeme} {l : Lexeme} {c : Char}
    (hc : c ∈ layout.gap before l) : isSpace c = true := by
  rw [gap] at hc
  split at hc
  · rw [List.mem_singleton.mp hc]
    decide
  · exact (layout 0).2 c hc

/-- Between lexemes there are only blanks, so a text over several tokens is their texts up to blanks. -/
theorem isBlank_of_mem_tokens (layout : Layout) (before : Option Lexeme) (ls : List Lexeme) :
    ∀ t ∈ layout.tokens before ls, ∀ c ∈ t.gap, Text.isBlank c = true := by
  induction ls generalizing layout before with
  | nil => simp [tokens]
  | cons l ls ih =>
    rw [tokens, List.forall_mem_cons]
    exact ⟨fun c hc => isBlank_of_isSpace (isSpace_of_mem_gap hc), ih layout.next (some l)⟩

theorem chars_cons (layout : Layout) (before : Option Lexeme) (l : Lexeme) (ls : List Lexeme) :
    layout.chars before (l :: ls) = layout.gap before l ++ (l.text ++ layout.next.chars (some l) ls) := by
  rw [chars, tokens, textOf_cons]
  rfl

/-- What is laid out has no opener in it, since neither lexemes nor blanks have. -/
theorem isClear_chars (layout : Layout) (before : Option Lexeme) (ls : List Lexeme) :
    IsClear (layout.chars before ls) := by
  induction ls generalizing layout before with
  | nil => exact isClear_blanks (layout 0).2
  | cons l ls ih =>
    rw [chars_cons]
    exact (isClear_blanks fun c => isSpace_of_mem_gap).append ((isClear_lexeme l).append (ih layout.next (some l)))

/-- A word ends where the text goes on: either a mark or a blank comes next, because the layout keeps two words
apart. -/
theorem head?_chars {layout : Layout} {l : Lexeme} (hl : l.kind = .word) (ls : List Lexeme) :
    ∀ c ∈ (layout.chars (some l) ls).head?, isWordChar c = false := by
  have hspace : ∀ c, isSpace c = true → isWordChar c = false := fun c hc => Breaks.isWordChar_eq_false (.inl hc)
  intro c hc
  cases ls with
  | nil => exact hspace c ((layout 0).2 c (List.mem_of_mem_head? hc))
  | cons m ls =>
    rw [chars_cons] at hc
    cases hgap : layout.gap (some l) m with
    | cons d more =>
      obtain rfl : d = c := by simpa [hgap] using hc
      exact hspace d (isSpace_of_mem_gap (hgap ▸ List.mem_cons_self))
    | nil =>
      cases m with
      | word w hw =>
        rw [gap] at hgap
        split at hgap
        · cases hgap
        · next hapart => simp [hgap, hl] at hapart
      | mark d hd =>
        have hmarks : ∀ d ∈ plainMarks, isWordChar d = false := Text.forall_of_all (by decide)
        obtain rfl : d = c := by simpa [hgap, Lexeme.text] using hc
        exact hmarks d hd

theorem isGap_of_isSpace {g : List Char} (hg : ∀ c ∈ g, isSpace c = true) : IsGap g := by
  induction g with
  | nil => exact .nil
  | cons c g ih => exact .space (hg c List.mem_cons_self) (ih fun d hd => hg d (List.mem_cons_of_mem c hd))

/-- The blanks before a lexeme are its gap. No lexeme is a slash, so none begins a comment. -/
theorem leading_lexeme {g : List Char} (hg : ∀ c ∈ g, isSpace c = true) (l : Lexeme) (rest : List Char) :
    leading (g ++ (l.text ++ rest)) = some (g, l.text ++ rest) := by
  have hfirst : leading (l.text ++ rest) = some ([], l.text ++ rest) := by
    cases l with
    | word w hw =>
      obtain ⟨c, more, htext⟩ := List.exists_cons_of_ne_nil (PlantUml.isWord_chars hw).1
      have hword := isWordChar_of_isNameChar ((PlantUml.isWord_chars hw).2 c (htext ▸ List.mem_cons_self))
      have hbreak : ¬ Breaks c := fun h => by simp [h.isWordChar_eq_false] at hword
      rw [Lexeme.text_word, htext]
      exact leading_token (by simpa using fun h => hbreak (.inl h)) fun h => absurd (.inr h) hbreak
    | mark c hc =>
      have hmarks : ∀ d ∈ plainMarks, isSpace d = false ∧ d ≠ '/' := Text.forall_of_all (by decide)
      exact leading_token (hmarks c hc).1 fun h => absurd h (hmarks c hc).2
  rw [(isGap_of_isSpace hg).leading_append, hfirst]
  simp

/-- What is laid out is read lexeme by lexeme, by induction on the lexemes with the layout general, as each
leaves the layout behind it. -/
theorem tokensOf_chars (layout : Layout) (before : Option Lexeme) (ls : List Lexeme) (read : List Token) :
    tokensOf read (layout.chars before ls) = some (read.reverse ++ layout.tokens before ls) := by
  induction ls generalizing layout before read with
  | nil =>
    have hgap : leading (layout 0).1 = some ((layout 0).1, []) := by
      have h := (isGap_of_isSpace (layout 0).2).leading_append []
      rw [List.append_nil] at h
      rw [h]
      simp [show leading [] = some ([], []) from rfl]
    rw [tokens, List.append_nil]
    exact tokensOf_of_gap hgap read
  | cons l ls ih =>
    have htoken := token?_lexeme l ((isClear_lexeme l).append (layout.next.isClear_chars (some l) ls))
      (fun hl => head?_chars hl ls) (endsInDot read)
    rw [chars_cons, tokensOf_of_token (leading_lexeme (fun c => isSpace_of_mem_gap) l _) htoken, ih]
    simp [tokens, Lexeme.token]

/-- Lexemes that are laid out as a text are the tokens of the text, whatever blanks stand between them. -/
theorem tokens?_chars (layout : Layout) (ls : List Lexeme) :
    tokens? (String.ofList (layout.chars none ls)) = some (layout.tokens none ls) := by
  have hclear := layout.isClear_chars none ls
  have hread := layout.tokensOf_chars none ls []
  rw [tokens?_eq, String.toList_ofList, hclear.dropMark_eq]
  cases hgap : leading (layout.chars none ls) with
  | none =>
    rw [tokensOf, tokensFrom, gap_eq_leading (Nat.lt_succ_self _), hgap] at hread
    cases hread
  | some found =>
    obtain ⟨g, rest⟩ := found
    have hrest : IsClear rest := by
      rw [gap_split hgap] at hclear
      exact fun c hc => hclear c (List.mem_append_right g hc)
    rw [Option.bind_some]
    dsimp only
    rw [hrest.shebang?_eq_none, hread]
    rfl

end Layout

end ClassDiagram.Rust
