import ClassDiagram.Proofs.Rust.Gaps

namespace ClassDiagram.Rust.Lexer

/-- The tokens of a text, behind those that `read` holds. -/
def tokensOf (read : List Token) (cs : List Char) : Option (List Token) :=
  tokensFrom (cs.length + 1) read cs

/-- More fuel than characters is enough, as every token takes one. The fuel is so no part of what the tokens
are. -/
theorem tokensFrom_of_length_lt {cs : List Char} {fuel fuel' : Nat} (hfuel : cs.length < fuel)
    (hfuel' : cs.length < fuel') (read : List Token) : tokensFrom fuel read cs = tokensFrom fuel' read cs := by
  induction fuel generalizing cs fuel' read with
  | zero => omega
  | succ fuel ih =>
    obtain ⟨fuel', rfl⟩ := Nat.exists_eq_add_one_of_ne_zero (Nat.ne_zero_of_lt hfuel')
    rw [tokensFrom, tokensFrom, gap_of_length_lt hfuel hfuel']
    cases hgap : gap (fuel' + 1) cs with
    | none => rfl
    | some found =>
      obtain ⟨g, rest⟩ := found
      dsimp only [Option.bind_eq_bind, Option.bind_some]
      have hrest := congrArg List.length (gap_split hgap)
      rw [List.length_append] at hrest
      split
      · rfl
      · cases htoken : token? (endsInDot read) rest with
        | none => rfl
        | some found =>
          obtain ⟨kind, text, rest'⟩ := found
          obtain ⟨rfl, htext⟩ := token?_split htoken
          have hpos := List.length_pos_iff.mpr htext
          rw [List.length_append] at hrest
          dsimp only [Option.bind_some]
          exact ih (by omega) (by omega) _

theorem tokensOf_of_gap {cs g : List Char} (hgap : leading cs = some (g, [])) (read : List Token) :
    tokensOf read cs = some read.reverse := by
  rw [tokensOf, tokensFrom, gap_eq_leading (Nat.lt_succ_self _), hgap]
  rfl

/-- The step of reading: a gap, a token behind it, and then the rest. Whether the last token was a dot is all
that the next one depends on. -/
theorem tokensOf_of_token {cs g text rest : List Char} {kind : TokenKind} {read : List Token}
    (hgap : leading cs = some (g, text ++ rest))
    (htoken : token? (endsInDot read) (text ++ rest) = some (kind, text, rest)) :
    tokensOf read cs = tokensOf (⟨g, kind, text⟩ :: read) rest := by
  obtain ⟨_, htext⟩ := token?_split htoken
  obtain ⟨c, more, hcons⟩ := List.exists_cons_of_ne_nil (by simp [htext] : text ++ rest ≠ [])
  have hlength : cs.length = g.length + (text ++ rest).length := by
    rw [gap_split hgap, List.length_append]
  have hpos := List.length_pos_iff.mpr htext
  rw [List.length_append] at hlength
  rw [tokensOf, tokensFrom, gap_eq_leading (Nat.lt_succ_self _), hgap, Option.bind_eq_bind, Option.bind_some]
  dsimp only
  rw [hcons] at htoken ⊢
  dsimp only
  rw [htoken]
  dsimp only [Option.bind_eq_bind, Option.bind_some]
  exact tokensFrom_of_length_lt (by omega) (by omega) _

/-- A text is read by reading its first token and then the others. Inductions on tokens go by this step instead
of the fuel. -/
theorem tokensOf_cases {cs : List Char} {read ts : List Token} (h : tokensOf read cs = some ts) :
    (ts = read.reverse) ∨
      ∃ g kind text rest, leading cs = some (g, text ++ rest) ∧
        token? (endsInDot read) (text ++ rest) = some (kind, text, rest) ∧ text ≠ [] ∧
        tokensOf (⟨g, kind, text⟩ :: read) rest = some ts := by
  cases hgap : leading cs with
  | none =>
    rw [tokensOf, tokensFrom, gap_eq_leading (Nat.lt_succ_self _), hgap] at h
    cases h
  | some found =>
    obtain ⟨g, rest⟩ := found
    cases rest with
    | nil =>
      rw [tokensOf_of_gap hgap] at h
      exact .inl (Option.some.inj h).symm
    | cons c more =>
      cases htoken : token? (endsInDot read) (c :: more) with
      | none =>
        rw [tokensOf, tokensFrom, gap_eq_leading (Nat.lt_succ_self _), hgap, Option.bind_eq_bind, Option.bind_some] at h
        dsimp only at h
        rw [htoken] at h
        cases h
      | some found =>
        obtain ⟨kind, text, rest⟩ := found
        obtain ⟨hsplit, htext⟩ := token?_split htoken
        rw [hsplit] at hgap htoken
        rw [tokensOf_of_token hgap htoken] at h
        exact .inr ⟨g, kind, text, rest, congrArg (fun rest => some (g, rest)) hsplit, htoken, htext, h⟩

/-- What was read stays at the front of what is read in the end. -/
theorem tokensFrom_reverse_isPrefix {fuel : Nat} {read ts : List Token} {cs : List Char}
    (h : tokensFrom fuel read cs = some ts) : read.reverse <+: ts := by
  induction fuel generalizing read cs with
  | zero =>
    cases h
    exact List.prefix_rfl
  | succ fuel ih =>
    rw [tokensFrom] at h
    obtain ⟨⟨g, mid⟩, _, h⟩ := Option.bind_eq_some_iff.mp h
    dsimp only at h
    split at h
    · cases h
      exact List.prefix_rfl
    · obtain ⟨⟨kind, text, rest⟩, _, h⟩ := Option.bind_eq_some_iff.mp h
      have hmore := ih h
      rw [List.reverse_cons] at hmore
      exact (List.prefix_append ..).trans hmore

/-- Whether a number comes right behind a dot depends on a gap being there, and not on what it holds. -/
theorem endsInDot_regap {g h : List Char} (hg : g ≠ []) (hh : h ≠ []) (t : Token) (recent read : List Token) :
    endsInDot (recent ++ { t with gap := g } :: read) = endsInDot (recent ++ { t with gap := h } :: read) := by
  have hg' : g.isEmpty = false := by simpa using hg
  have hh' : h.isEmpty = false := by simpa using hh
  match recent with
  | [] => cases read <;> simp [endsInDot, Token.isPunctuation, Token.isAdjacent, hg', hh']
  | [u] => simp [endsInDot, Token.isPunctuation]
  | u :: u' :: recent => rfl

/-- What is read does not depend on what the gaps before hold, as long as neither is empty. An empty gap may
change what a dot and a number make. -/
theorem tokensFrom_regap {g h : List Char} (hg : g ≠ []) (hh : h ≠ []) (t : Token) {fuel : Nat}
    (recent : List Token) {read post : List Token} {cs : List Char}
    (hread : tokensFrom fuel (recent ++ { t with gap := g } :: read) cs =
      some (read.reverse ++ { t with gap := g } :: post)) :
    tokensFrom fuel (recent ++ { t with gap := h } :: read) cs =
      some (read.reverse ++ { t with gap := h } :: post) := by
  induction fuel generalizing recent cs with
  | zero =>
    rw [tokensFrom] at hread ⊢
    simpa using hread
  | succ fuel ih =>
    rw [tokensFrom] at hread ⊢
    obtain ⟨⟨gap, mid⟩, hgap, hread⟩ := Option.bind_eq_some_iff.mp hread
    rw [hgap, Option.bind_eq_bind, Option.bind_some]
    dsimp only at hread ⊢
    split at hread
    · simpa using hread
    · rw [← endsInDot_regap hg hh]
      obtain ⟨⟨kind, text, rest⟩, htoken, hread⟩ := Option.bind_eq_some_iff.mp hread
      rw [htoken, Option.bind_eq_bind, Option.bind_some]
      exact ih (⟨gap, kind, text⟩ :: recent) hread

theorem tokensOf_regap {g h : List Char} (hg : g ≠ []) (hh : h ≠ []) (t : Token) {before post : List Token}
    {cs : List Char} (hread : tokensOf ({ t with gap := g } :: before.reverse) cs =
      some (before ++ { t with gap := g } :: post)) :
    tokensOf ({ t with gap := h } :: before.reverse) cs = some (before ++ { t with gap := h } :: post) := by
  rw [← before.reverse_reverse, List.reverse_reverse before.reverse] at hread ⊢
  exact tokensFrom_regap hg hh t [] hread

/-- The text of tokens with their gaps. -/
def textOf (ts : List Token) : List Char :=
  ts.flatMap fun t => t.gap ++ t.text

theorem textOf_cons (t : Token) (ts : List Token) (cs : List Char) :
    textOf (t :: ts) ++ cs = t.gap ++ (t.text ++ (textOf ts ++ cs)) := by
  simp [textOf]

/-- The next token is the one that follows those read. The tokens of the whole text are known, so each step is
told by its place among them. -/
theorem tokensOf_next {t : Token} {more read ts : List Token} {cs : List Char} (h : tokensOf read cs = some ts)
    (hts : read.reverse ++ t :: more <+: ts) :
    ∃ rest, leading cs = some (t.gap, t.text ++ rest) ∧
      token? (endsInDot read) (t.text ++ rest) = some (t.kind, t.text, rest) ∧
      t.text ≠ [] ∧ tokensOf (t :: read) rest = some ts := by
  obtain rfl | ⟨g, kind, text, rest, hgap, htoken, htext, hrest⟩ := tokensOf_cases h
  · have hlength := hts.length_le
    simp only [List.length_append, List.length_reverse, List.length_cons] at hlength
    omega
  · obtain rfl : t = ⟨g, kind, text⟩ := by
      have hfirst : read.reverse ++ [⟨g, kind, text⟩] <+: ts := by
        simpa using tokensFrom_reverse_isPrefix hrest
      have hsame := List.prefix_of_prefix_length_le hfirst hts (by simp)
      rw [List.prefix_append_right_inj, List.cons_prefix_cons] at hsame
      exact hsame.1.symm
    exact ⟨rest, hgap, htoken, htext, hrest⟩

/-- The first token of a text that begins with tokens in question, with what is left behind it. -/
theorem tokensOf_first {t : Token} {pre read ts : List Token} {cs : List Char}
    (h : tokensOf read (textOf (t :: pre) ++ cs) = some ts) (hts : read.reverse ++ t :: pre <+: ts) :
    leading (textOf (t :: pre) ++ cs) = some (t.gap, t.text ++ (textOf pre ++ cs)) ∧
      token? (endsInDot read) (t.text ++ (textOf pre ++ cs)) = some (t.kind, t.text, textOf pre ++ cs) ∧
      t.text ≠ [] ∧ tokensOf (t :: read) (textOf pre ++ cs) = some ts := by
  obtain ⟨rest, hgap, hmore⟩ := tokensOf_next h hts
  obtain rfl : rest = textOf pre ++ cs := by
    have hall := (gap_split hgap).symm.trans (textOf_cons ..)
    simpa using hall
  exact ⟨hgap, hmore⟩

section Exchange

variable {c c' : Char} {x y : List Char} (hexchange : Exchange c x c' y)

include hexchange

/-- A token in front of the gap is found behind the gap of its own as before. -/
theorem Exchange.leading_textOf {t : Token} {pre : List Token} (ht : t.text ≠ [])
    (h : leading (textOf (t :: pre) ++ c :: x) = some (t.gap, t.text ++ (textOf pre ++ c :: x))) :
    leading (textOf (t :: pre) ++ c' :: y) = some (t.gap, t.text ++ (textOf pre ++ c' :: y)) := by
  rw [textOf_cons, ← List.append_assoc t.text] at h ⊢
  exact hexchange.leading_eq (by simp [ht]) h

/-- Tokens in front of a gap are read alike whatever the gap holds. By induction on these tokens: each ends at
the latest where the gap begins, and a break does not change the token before it. -/
theorem Exchange.tokensOf_eq {pre read ts : List Token} (h : tokensOf read (textOf pre ++ c :: x) = some ts)
    (hts : read.reverse ++ pre <+: ts) :
    tokensOf (pre.reverse ++ read) (c :: x) = some ts ∧
      tokensOf read (textOf pre ++ c' :: y) = tokensOf (pre.reverse ++ read) (c' :: y) := by
  induction pre generalizing read with
  | nil => exact ⟨h, rfl⟩
  | cons t pre ih =>
    obtain ⟨hgap, htoken, htext, hrest⟩ := tokensOf_first h hts
    have hgap' := hexchange.leading_textOf htext hgap
    have htoken' : token? (endsInDot read) (t.text ++ (textOf pre ++ c' :: y)) =
        some (t.kind, t.text, textOf pre ++ c' :: y) := by
      rw [← List.append_assoc] at htoken ⊢
      have halone := hexchange.old.token?_of_append htext htoken
      exact hexchange.new.token?_append (by simp [htext]) hexchange.quote halone
    rw [tokensOf_of_token hgap' htoken']
    have hts' : (t :: read).reverse ++ pre <+: ts := by simpa using hts
    simpa using ih hrest hts'

end Exchange

/-- An interpreter line ends at its line feed and is read alike whatever follows. -/
theorem shebang?_delimited {cs line rest : List Char} (h : shebang? cs = some (line, rest)) :
    cs = line ++ rest ∧ line ≠ [] ∧ ∀ rest', shebang? (line ++ rest') = some (line, rest') := by
  rw [shebang?.eq_def] at h
  split at h
  · next more =>
    split at h
    · cases h
    · next hattribute =>
      split at h
      · next rest' hend =>
        cases h
        have hmore : more.takeWhile (· ≠ '\n') ++ '\n' :: rest = more := by
          rw [← hend, List.takeWhile_append_dropWhile]
        have hstop : decide ('\n' ≠ '\n') = false := by decide
        have hbody : (more.takeWhile (· ≠ '\n')).dropWhile (· ≠ '\n') = [] :=
          List.dropWhile_eq_nil_iff.mpr fun _ => List.mem_takeWhile_imp (p := (· ≠ '\n'))
        refine ⟨by simpa using hmore.symm, by simp, fun rest' => ?_⟩
        have hattribute' : (more.takeWhile (· ≠ '\n') ++ '\n' :: rest').head? ≠ some '[' := by
          rw [← hmore] at hattribute
          cases hline : more.takeWhile (· ≠ '\n') with
          | nil => simp
          | cons d body =>
            rw [hline] at hattribute
            exact hattribute
        have htext : '#' :: '!' :: more.takeWhile (· ≠ '\n') ++ ['\n'] ++ rest' =
            '#' :: '!' :: (more.takeWhile (· ≠ '\n') ++ '\n' :: rest') := by simp
        rw [htext, shebang?, if_neg hattribute', takeWhile_append_cons_of_neg hstop, dropWhile_append_cons_of_neg hstop,
          List.takeWhile_idem, hbody]
        rfl
      · cases h
  · cases h

theorem exists_dropWhile_eq_cons {cs : List Char} (hline : '\n' ∈ cs) :
    ∃ more, cs.dropWhile (· ≠ '\n') = '\n' :: more := by
  have hhead := List.head?_dropWhile_not (· ≠ '\n') cs
  cases hrest : cs.dropWhile (· ≠ '\n') with
  | nil =>
    have hall := List.dropWhile_eq_nil_iff.mp hrest '\n' hline
    exact absurd hall (by decide)
  | cons c more =>
    rw [hrest] at hhead
    have hc : c = '\n' := by simpa using hhead
    exact ⟨more, by rw [hc]⟩

/-- A text without an interpreter line gets none by another gap further on. That a line feed stands in the gap
or behind it ensures that the first line was complete before. -/
theorem Exchange.shebang?_eq_none {c c' : Char} {x y : List Char} (hexchange : Exchange c x c' y) (hline : '\n' ∈ c :: x)
    {w : List Char} (hw : w ≠ []) (h : shebang? (w ++ c :: x) = none) : shebang? (w ++ c' :: y) = none := by
  have hmark : c' ≠ '!' := hexchange.new.ne_of_mem (by decide)
  match w with
  | [] => exact absurd rfl hw
  | [d] => simp [shebang?, hmark]
  | d :: e :: w =>
    by_cases hopening : d = '#' ∧ e = '!'
    · obtain ⟨rfl, rfl⟩ := hopening
      have hattribute : (w ++ c :: x).head? = some '[' := by
        by_contra hnone
        -- There is a line end, so this would be an interpreter line.
        obtain ⟨more, hmore⟩ := exists_dropWhile_eq_cons (List.mem_append_right w hline)
        rw [List.cons_append, List.cons_append, shebang?, if_neg hnone, hmore] at h
        cases h
      have hattribute' : (w ++ c' :: y).head? = some '[' := by
        cases w with
        | nil => exact absurd (Option.some.inj hattribute) (hexchange.old.ne_of_mem (by decide))
        | cons f w => exact hattribute
      rw [List.cons_append, List.cons_append, shebang?, if_pos hattribute']
    · have hother : d = '#' → e ≠ '!' := fun h h' => hopening ⟨h, h'⟩
      exact shebang?.eq_2 _ (by simpa using hother)

theorem Breaks.dropMark_append {c : Char} (hc : Breaks c) (a x : List Char) :
    dropMark (a ++ c :: x) = dropMark a ++ c :: x := by
  cases a with
  | nil =>
    have hmark : c.toNat ≠ 0xFEFF := hc.of_all (P := (·.toNat ≠ 0xFEFF)) (by decide)
    simp [dropMark, hmark]
  | cons d a =>
    rw [List.cons_append, dropMark, dropMark]
    split <;> rfl

/-- A source is a mark, perhaps an interpreter line, and tokens. The line counts as a token of its own. -/
theorem tokens?_eq (source : String) :
    tokens? source = (leading (dropMark source.toList)).bind fun (g, rest) =>
      match shebang? rest with
      | some (line, rest) => tokensOf [⟨g, .shebang, line⟩] rest
      | none => tokensOf [] (dropMark source.toList) := rfl

/-- The tokens of a whole source, up to a gap that is exchanged for another one. At least one token stands
before the gap, so that the start of the source is the same. -/
theorem Exchange.tokens?_eq {c c' : Char} {x y : List Char} (hexchange : Exchange c x c' y) (hline : '\n' ∈ c :: x)
    {a : List Char} {pre ts : List Token} (hpre : pre ≠ []) (ha : dropMark a = textOf pre)
    (h : tokens? (String.ofList (a ++ c :: x)) = some ts) (hts : pre <+: ts) :
    tokensOf pre.reverse (c :: x) = some ts ∧
      tokens? (String.ofList (a ++ c' :: y)) = tokensOf pre.reverse (c' :: y) := by
  rw [Lexer.tokens?_eq, String.toList_ofList, hexchange.old.dropMark_append, ha] at h
  rw [Lexer.tokens?_eq, String.toList_ofList, hexchange.new.dropMark_append, ha]
  obtain ⟨t, pre, rfl⟩ := List.exists_cons_of_ne_nil hpre
  obtain ⟨⟨g, rest⟩, hgap, h⟩ := Option.bind_eq_some_iff.mp h
  dsimp only at h
  cases hfirst : shebang? rest with
  | some found =>
    obtain ⟨line, rest'⟩ := found
    rw [hfirst] at h
    obtain ⟨rfl, hne, hread⟩ := shebang?_delimited hfirst
    obtain rfl : t = ⟨g, .shebang, line⟩ := by
      have hone : [⟨g, .shebang, line⟩] <+: ts := tokensFrom_reverse_isPrefix h
      have hsame := List.prefix_of_prefix_length_le hone hts (by simp)
      rw [List.cons_prefix_cons] at hsame
      exact hsame.1.symm
    obtain rfl : rest' = textOf pre ++ c :: x := by
      have hall := (gap_split hgap).symm.trans (textOf_cons ..)
      simpa using hall
    have hnew := hexchange.tokensOf_eq h (by simpa using hts)
    rw [hexchange.leading_textOf hne hgap, Option.bind_some]
    dsimp only
    rw [hread]
    simpa using hnew
  | none =>
    rw [hfirst] at h
    have hts' : [].reverse ++ t :: pre <+: ts := by simpa using hts
    obtain ⟨hgap', _, htext, _⟩ := tokensOf_first h hts'
    have hsame := hgap.symm.trans hgap'
    cases hsame
    have hnone := hexchange.shebang?_eq_none hline (w := t.text ++ textOf pre) (by simp [htext]) (by simpa using hfirst)
    have hnew := hexchange.tokensOf_eq h hts'
    rw [List.append_assoc] at hnone
    rw [hexchange.leading_textOf htext hgap', Option.bind_some]
    dsimp only
    rw [hnone]
    simpa using hnew

/-- A whole block comment. -/
def IsBlockComment (comment : List Char) : Prop :=
  ∃ body, comment = '/' :: '*' :: body ∧ blockComment 1 .plain body = some (body, [])

/-- A whole comment between blanks is a gap, so it ends the token before it and starts no other. -/
theorem IsBlockComment.isGap {comment : List Char} (hcomment : IsBlockComment comment) :
    IsGap (' ' :: (comment ++ [' '])) := by
  obtain ⟨body, rfl, hbody⟩ := hcomment
  exact .space (by decide) (.block hbody (.space (by decide) .nil))

/-- Behind a token, a comment with blanks around it may stand where a line end stands. What is left of the gap
before it may be empty, and then the blank is the break. -/
theorem exists_exchange {g : List Char} (hg : IsGap g) {comment : List Char} (hcomment : IsBlockComment comment)
    (rest : List Char) :
    ∃ c x c' y, g ++ (['\n'] ++ rest) = c :: x ∧ g ++ (' ' :: (comment ++ [' ']) ++ rest) = c' :: y ∧
      Exchange c x c' y := by
  cases g with
  | nil =>
    obtain ⟨body, rfl, _⟩ := hcomment
    exact ⟨_, _, _, _, rfl, rfl, .inl (by decide), .inl (by decide), by decide, by simp⟩
  | cons c g =>
    refine ⟨_, _, _, _, rfl, rfl, hg.head_breaks, hg.head_breaks, id, ?_⟩
    have hquote := hg.second_ne_quote
    cases g with
    | nil => simp
    | cons d g => exact hquote

/-- A place between two tokens of a text, where the gap of the second one is cut in two. -/
structure Seam where
  /-- The text up to the end of the first token. -/
  start : List Char
  before : List Token
  start_eq : dropMark start = textOf before
  /-- What stands between the first token and the place. -/
  ahead : List Char
  isGap_ahead : IsGap ahead
  /-- What stands between the place and the second token. -/
  behind : List Char
  kind : TokenKind
  text : List Char
  after : List Token
  /-- The text behind the place. -/
  rest : List Char

namespace Seam

/-- The text with something put in at the place. -/
def source (s : Seam) (filling : List Char) : String :=
  String.ofList (s.start ++ (s.ahead ++ (filling ++ s.rest)))

/-- The tokens with something put in the gap at the place. -/
def tokens (s : Seam) (filling : List Char) : List Token :=
  s.before ++ ⟨s.ahead ++ (filling ++ s.behind), s.kind, s.text⟩ :: s.after

/-- Where a line end goes into the gap, so does a comment with blanks around it. All tokens stay as they are,
and the gap at the place is the only one that differs. -/
theorem tokens?_comment (s : Seam) (hbefore : s.before ≠ [])
    (hline : tokens? (s.source ['\n']) = some (s.tokens ['\n'])) {comment : List Char}
    (hcomment : IsBlockComment comment) :
    tokens? (s.source (' ' :: (comment ++ [' ']))) = some (s.tokens (' ' :: (comment ++ [' ']))) := by
  obtain ⟨c, x, c', y, hold, hnew, hexchange⟩ := exists_exchange s.isGap_ahead hcomment s.rest
  have hend : '\n' ∈ c :: x := by simp [← hold]
  rw [source, hold] at hline
  obtain ⟨hread, hsame⟩ := hexchange.tokens?_eq hend hbefore s.start_eq hline (List.prefix_append ..)
  rw [source, hnew, hsame, ← hnew]
  rw [← hold] at hread
  -- The token behind the place is found behind what stands in the gap.
  have hgap (filling : List Char) (hfilling : IsGap filling) : leading (s.ahead ++ (filling ++ s.rest)) =
      (leading s.rest).map fun (more, rest) => (s.ahead ++ (filling ++ more), rest) := by
    rw [s.isGap_ahead.leading_append, hfilling.leading_append, Option.map_map]
    rfl
  have hts : s.before.reverse.reverse ++ ⟨s.ahead ++ (['\n'] ++ s.behind), s.kind, s.text⟩ :: s.after <+:
      s.tokens ['\n'] := by simp [tokens]
  obtain ⟨rest, hfirst, htoken, _, hrest⟩ := tokensOf_next hread hts
  rw [hgap ['\n'] (.space (by decide) .nil)] at hfirst
  obtain ⟨⟨more, rest'⟩, hleading, hcut⟩ := Option.map_eq_some_iff.mp hfirst
  simp only [Prod.mk.injEq, List.append_cancel_left_eq] at hcut
  obtain ⟨rfl, rfl⟩ := hcut
  have hfirst' := hgap _ hcomment.isGap
  rw [hleading, Option.map_some] at hfirst'
  rw [tokensOf_of_token hfirst' htoken]
  have hsome : s.ahead ++ (['\n'] ++ s.behind) ≠ [] := by simp
  have hsome' : s.ahead ++ (' ' :: (comment ++ [' ']) ++ s.behind) ≠ [] := by simp
  exact tokensOf_regap hsome hsome' ⟨[], s.kind, s.text⟩ hrest

end Seam

end ClassDiagram.Rust.Lexer
