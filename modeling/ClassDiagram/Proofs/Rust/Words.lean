import ClassDiagram.Rust.Lexer
import ClassDiagram.Text.Blank
import Mathlib.Data.List.TakeWhile

namespace ClassDiagram

/-- All blanks. -/
def Text.blanks : List Char :=
  ['\t', '\n', '\x0b', '\x0c', '\r', '\x1c', '\x1d', '\x1e', '\x1f', ' ', '\u0085', '\u00a0', '\u1680',
    '\u2000', '\u2001', '\u2002', '\u2003', '\u2004', '\u2005', '\u2006', '\u2007', '\u2008', '\u2009',
    '\u200a', '\u2028', '\u2029', '\u202f', '\u205f', '\u3000']

/-- The blanks are given by ranges; this turns them into a list that can be gone through. -/
theorem Text.mem_blanks {c : Char} (hblank : isBlank c = true) : c ∈ blanks := by
  have hcode : c.toNat ∈ blanks.map Char.toNat := by
    simp only [isBlank, Bool.or_eq_true, Bool.and_eq_true, decide_eq_true_eq, beq_iff_eq] at hblank
    generalize c.toNat = n at hblank
    have hsmall : n < 33 ∨ 0x85 ≤ n := by omega
    simp [blanks]
    omega
  obtain ⟨d, hd, hsame⟩ := List.mem_map.mp hcode
  rwa [← Char.ext (UInt32.toNat_inj.mp hsame)]

theorem Text.forall_of_all {P : Char → Prop} [DecidablePred P] {cs : List Char}
    (h : cs.all (fun c => decide (P c)) = true) : ∀ c ∈ cs, P c := fun c hc =>
  of_decide_eq_true (List.all_eq_true.mp h c hc)

theorem Text.filter_eq_nil_of_blank {cs : List Char} (hblank : ∀ c ∈ cs, isBlank c = true) :
    cs.filter (fun c => !isBlank c) = [] :=
  List.filter_eq_nil_iff.mpr fun c hc => by simp [hblank c hc]

theorem Text.filter_eq_self_of_not_blank {cs : List Char} (hblank : ∀ c ∈ cs, isBlank c = false) :
    cs.filter (fun c => !isBlank c) = cs :=
  List.filter_eq_self.mpr fun c hc => by simp [hblank c hc]

namespace Rust.Lexer

/-- What ends a token as a blank is a blank of the diagram as well, so it leaves no trace in a canonical type. -/
theorem isBlank_of_isSpace {c : Char} (hspace : isSpace c = true) : Text.isBlank c = true := by
  simp only [isSpace, Text.isBlank, Bool.or_eq_true, Bool.and_eq_true, decide_eq_true_eq, beq_iff_eq] at hspace ⊢
  omega

/-- A character of a word, of a raw word or of a variable of a macro. -/
def InWord (c : Char) : Prop :=
  isWordStart c = true ∨ isWordChar c = true ∨ c = '#' ∨ c = '$'

/-- No character of a word is a blank. The blanks are gone through one by one, since the letters are too many
for that. -/
theorem InWord.isBlank {c : Char} (hc : InWord c) : Text.isBlank c = false := by
  have hnone : ∀ d ∈ Text.blanks,
      isWordStart d = false ∧ isWordChar d = false ∧ d ≠ '#' ∧ d ≠ '$' :=
    Text.forall_of_all (by decide +kernel)
  by_contra hblank
  obtain ⟨hstart, hchar, hhash, hdollar⟩ := hnone c (Text.mem_blanks (by simpa using hblank))
  simp [InWord, hstart, hchar, hhash, hdollar] at hc

/-- A character that is not of words, such as a mark of the diagram, is none of a word. -/
theorem InWord.ne {c d : Char} (hc : InWord c)
    (hd : isWordStart d = false ∧ isWordChar d = false ∧ d ≠ '#' ∧ d ≠ '$') : c ≠ d := by
  rintro rfl
  simp [InWord, hd] at hc

theorem inWord_of_mem_takeWhile {c : Char} {cs : List Char} (hc : c ∈ cs.takeWhile isWordChar) : InWord c :=
  .inr (.inl (List.mem_takeWhile_imp hc))

/-- A word has only characters of words in it, the sharp of a raw word included. -/
theorem word?_inWord {cs text rest : List Char} (h : word? cs = some (text, rest)) : ∀ c ∈ text, InWord c := by
  rw [word?.eq_def] at h
  split at h
  · next first more =>
    split at h
    · next hstart =>
      cases h
      intro c hc
      simp only [List.mem_cons] at hc
      rcases hc with rfl | rfl | rfl | hc
      · exact .inl (by decide)
      · exact .inr (.inr (.inl rfl))
      · exact .inl hstart
      · exact inWord_of_mem_takeWhile hc
    · cases h
      simp [InWord]
      decide
  · next first more _ =>
    split at h
    · next hstart =>
      cases h
      intro c hc
      rcases List.mem_cons.mp hc with rfl | hc
      · exact .inl hstart
      · exact inWord_of_mem_takeWhile hc
    · cases h
  · cases h

theorem metavariable?_inWord {cs name rest : List Char} (h : metavariable? cs = some (name, rest)) :
    ∀ c ∈ name, InWord c := by
  rw [ metavariable?.eq_def] at h
  split at h
  · next first more =>
    split at h
    · next hstart =>
      cases h
      intro c hc
      rcases List.mem_cons.mp hc with rfl | hc
      · exact .inl (Bool.and_eq_true_iff.mp hstart).2
      · exact inWord_of_mem_takeWhile hc
    · cases h
  · cases h

/-- A gap that holds no comment holds blanks alone: every comment begins with a slash. -/
theorem gap_blank {fuel : Nat} {cs g rest : List Char} (h : gap fuel cs = some (g, rest)) (hnone : '/' ∉ g) :
    ∀ c ∈ g, Text.isBlank c = true := by
  induction fuel generalizing cs g with
  | zero =>
    cases h
    simp
  | succ fuel ih =>
    rw [gap.eq_def] at h
    dsimp only at h
    split at h
    · obtain ⟨⟨more, rest'⟩, _, hg⟩ := Option.map_eq_some_iff.mp h
      cases hg
      simp at hnone
    · obtain ⟨⟨body, rest'⟩, _, h⟩ := Option.bind_eq_some_iff.mp h
      obtain ⟨⟨more, rest''⟩, _, hg⟩ := Option.bind_eq_some_iff.mp h
      cases hg
      simp at hnone
    · split at h
      · next hspace =>
        obtain ⟨⟨more, rest'⟩, hmore, hg⟩ := Option.map_eq_some_iff.mp h
        cases hg
        intro c hc
        rcases List.mem_cons.mp hc with rfl | hc
        · exact isBlank_of_isSpace hspace
        · exact ih hmore (fun hslash => hnone (List.mem_cons_of_mem _ hslash)) c hc
      · cases h
        simp
    · cases h
      simp

/-- A token as it is read: names are made of the characters of words, and the gap before it is blank unless a
comment stands in it. -/
structure IsRead (t : Token) : Prop where
  word : t.kind = .word → ∀ c ∈ t.text, InWord c
  metavariable : t.kind = .metavariable → ∃ name, t.text = '$' :: name ∧ ∀ c ∈ name, InWord c
  gap : '/' ∉ t.gap → ∀ c ∈ t.gap, Text.isBlank c = true

theorem number_kind (afterDot : Bool) (cs : List Char) :
    (number afterDot cs).1 = .float ∨ (number afterDot cs).1 = .integer := by
  rw [number]
  split
  · exact .inl rfl
  · exact .inr rfl

/-- The ways in which a token is read from the front of a text. -/
inductive ReadsToken (afterDot : Bool) : List Char → TokenKind → List Char → List Char → Prop
  | string {cs text rest : List Char} (hstring : string? cs = some (some (text, rest))) :
      ReadsToken afterDot cs .string text rest
  | char {cs text rest : List Char} (hchar : char? cs = some (text, rest)) : ReadsToken afterDot cs .char text rest
  | word {cs text rest : List Char} (hword : word? cs = some (text, rest)) : ReadsToken afterDot cs .word text rest
  | number {c : Char} {more text rest : List Char} {kind : TokenKind} (hdigit : c.isDigit = true)
      (hnumber : Lexer.number afterDot (c :: more) = (kind, text, rest)) :
      ReadsToken afterDot (c :: more) kind text rest
  | metavariable {more name rest : List Char} (hname : metavariable? more = some (name, rest)) :
      ReadsToken afterDot ('$' :: more) .metavariable ('$' :: name) rest
  | punctuation {c : Char} {rest : List Char} (hmark : isPunctuation c = true) :
      ReadsToken afterDot (c :: rest) .punctuation [c] rest

/-- Each token is read in one of these ways, by its kind. Proofs about tokens go by these cases and not through
the order in which the lexer tries them. -/
theorem readsToken {afterDot : Bool} {cs text rest : List Char} {kind : TokenKind}
    (h : token? afterDot cs = some (kind, text, rest)) : ReadsToken afterDot cs kind text rest := by
  rw [token?.eq_def] at h
  split at h
  · next found hstring =>
    obtain ⟨⟨text', rest'⟩, rfl, hsame⟩ := Option.map_eq_some_iff.mp h
    cases hsame
    exact .string hstring
  split at h
  · next hchar =>
    cases h
    exact .char hchar
  split at h
  · next hword =>
    cases h
    exact .word hword
  split at h
  · cases h
  split at h
  · next hdigit => exact .number hdigit (Option.some.inj h)
  split at h
  · next name more hname =>
    cases h
    split at hname
    · next hdollar =>
      subst hdollar
      exact .metavariable hname
    · cases hname
  · split at h
    · next hmark =>
      cases h
      exact .punctuation hmark
    · cases h

/-- A token that is read behind a gap is one as described, by the way in which it is read. -/
theorem token?_isRead {fuel : Nat} {afterDot : Bool} {cs mid g text rest : List Char} {kind : TokenKind}
    (hgap : Lexer.gap fuel cs = some (g, mid)) (htoken : token? afterDot mid = some (kind, text, rest)) :
    IsRead ⟨g, kind, text⟩ := by
  have hblank := gap_blank hgap
  cases readsToken htoken with
  | string | char | punctuation => exact ⟨nofun, nofun, hblank⟩
  | word hword => exact ⟨fun _ => word?_inWord hword, nofun, hblank⟩
  | metavariable hname => exact ⟨nofun, fun _ => ⟨_, rfl, metavariable?_inWord hname⟩, hblank⟩
  | @number c more _ _ _ hdigit hnumber =>
    have hkind := number_kind afterDot (c :: more)
    rw [hnumber] at hkind
    rcases hkind with rfl | rfl
    · exact ⟨nofun, nofun, hblank⟩
    · exact ⟨nofun, nofun, hblank⟩

theorem tokensFrom_isRead {fuel : Nat} {read ts : List Token} {cs : List Char}
    (h : tokensFrom fuel read cs = some ts) (hread : ∀ t ∈ read, IsRead t) : ∀ t ∈ ts, IsRead t := by
  induction fuel generalizing read cs with
  | zero =>
    cases h
    simpa using hread
  | succ fuel ih =>
    rw [tokensFrom] at h
    obtain ⟨⟨g, mid⟩, hgap, h⟩ := Option.bind_eq_some_iff.mp h
    dsimp only at h
    split at h
    · cases h
      simpa using hread
    · obtain ⟨⟨kind, text, rest⟩, htoken, h⟩ := Option.bind_eq_some_iff.mp h
      refine ih h fun t ht => ?_
      rcases List.mem_cons.mp ht with rfl | ht
      · exact token?_isRead hgap htoken
      · exact hread t ht

/-- All tokens of a source are as described. Nothing else of how a source is cut into tokens is needed to tell
its names from what stands around them. -/
theorem tokens?_isRead {source : String} {ts : List Token} (h : tokens? source = some ts) :
    ∀ t ∈ ts, IsRead t := by
  rw [tokens?] at h
  obtain ⟨⟨g, rest⟩, hgap, h⟩ := Option.bind_eq_some_iff.mp h
  dsimp only at h
  split at h
  · refine tokensFrom_isRead h fun t ht => ?_
    rw [List.mem_singleton.mp ht]
    exact ⟨nofun, nofun, gap_blank hgap⟩
  · exact tokensFrom_isRead h nofun

end Rust.Lexer

end ClassDiagram
