import ClassDiagram.Proofs.Rust.Breaks

namespace ClassDiagram.Rust.Lexer

/-- One character of a comment ends it, breaks it, or goes on with what follows. The inductions on comments go
by these three cases and need not look at the states. -/
theorem blockComment_cons (depth : Nat) (state : CommentState) (c : Char) :
    (∀ cs, blockComment depth state (c :: cs) = some ([c], cs)) ∨
      (∀ cs, blockComment depth state (c :: cs) = none) ∨
      ∃ depth' state', ∀ cs, blockComment depth state (c :: cs) =
        (blockComment depth' state' cs).map fun (body, rest) => (c :: body, rest) := by
  cases state with
  | plain => exact .inr (.inr ⟨_, _, fun _ => rfl⟩)
  | slash => exact .inr (.inr ⟨_, _, fun _ => rfl⟩)
  | star isExact =>
    by_cases hstar : lowByte c = '*'.toNat
    · exact .inr (.inr ⟨depth, .star (c = '*'), fun _ => by rw [blockComment, if_pos hstar]⟩)
    by_cases hslash : lowByte c = '/'.toNat
    · by_cases hdepth : depth ≤ 1
      · by_cases hexact : (isExact && c = '/') = true
        · exact .inl fun _ => by rw [blockComment, if_neg hstar, if_pos hslash, if_pos hdepth, if_pos hexact]
        · exact .inr (.inl fun _ => by rw [blockComment, if_neg hstar, if_pos hslash, if_pos hdepth, if_neg hexact])
      · exact .inr (.inr ⟨depth - 1, .plain, fun _ => by
          rw [blockComment, if_neg hstar, if_pos hslash, if_neg hdepth]⟩)
    · exact .inr (.inr ⟨depth, .plain, fun _ => by rw [blockComment, if_neg hstar, if_neg hslash]⟩)

/-- A block comment ends where it says, whatever follows. Comments nest, so the end is told by the depth and not
by the first closing mark. -/
theorem blockComment_delimited {depth : Nat} {state : CommentState} {cs body rest : List Char}
    (h : blockComment depth state cs = some (body, rest)) :
    cs = body ++ rest ∧ ∀ rest', blockComment depth state (body ++ rest') = some (body, rest') := by
  induction cs generalizing depth state body with
  | nil => cases h
  | cons c cs ih =>
    obtain hend | hbroken | ⟨depth', state', hmore⟩ := blockComment_cons depth state c
    · rw [hend] at h
      cases h
      exact ⟨rfl, hend⟩
    · rw [hbroken] at h
      cases h
    · rw [hmore] at h
      obtain ⟨⟨body', rest'⟩, hbody, hsame⟩ := Option.map_eq_some_iff.mp h
      cases hsame
      obtain ⟨rfl, hread⟩ := ih hbody
      refine ⟨rfl, fun rest' => ?_⟩
      rw [List.cons_append, hmore, hread]
      rfl

/-- Reading a comment leaves no more than there was, which bounds the fuel of a gap. -/
theorem blockComment_length_le {depth : Nat} {state : CommentState} {cs body rest : List Char}
    (h : blockComment depth state cs = some (body, rest)) : rest.length ≤ cs.length := by
  rw [(blockComment_delimited h).1, List.length_append]
  exact Nat.le_add_left _ _

/-- What is read as a gap stood at the front of the text, and the rest is what is left of it. -/
theorem gap_split {fuel : Nat} {cs g rest : List Char} (h : gap fuel cs = some (g, rest)) : cs = g ++ rest := by
  induction fuel generalizing cs g with
  | zero =>
    cases h
    rfl
  | succ fuel ih =>
    rw [gap.eq_def] at h
    dsimp only at h
    split at h
    · next more =>
      obtain ⟨⟨g', rest'⟩, hmore, hsame⟩ := Option.map_eq_some_iff.mp h
      cases hsame
      rw [List.cons_append, List.cons_append, List.append_assoc, ← ih hmore, List.takeWhile_append_dropWhile]
    · next more =>
      obtain ⟨⟨body, rest'⟩, hbody, h⟩ := Option.bind_eq_some_iff.mp h
      obtain ⟨⟨g', rest''⟩, hmore, hsame⟩ := Option.bind_eq_some_iff.mp h
      cases hsame
      rw [List.cons_append, List.cons_append, List.append_assoc, ← ih hmore, ← (blockComment_delimited hbody).1]
    · split at h
      · obtain ⟨⟨g', rest'⟩, hmore, hsame⟩ := Option.map_eq_some_iff.mp h
        cases hsame
        rw [List.cons_append, ← ih hmore]
      · cases h
        rfl
    · cases h
      rfl

/-- More fuel than characters is enough, so the fuel is no part of what a gap is. -/
theorem gap_of_length_lt {cs : List Char} {fuel fuel' : Nat} (hfuel : cs.length < fuel) (hfuel' : cs.length < fuel') :
    gap fuel cs = gap fuel' cs := by
  induction fuel generalizing cs fuel' with
  | zero => omega
  | succ fuel ih =>
    obtain ⟨fuel', rfl⟩ := Nat.exists_eq_add_one_of_ne_zero (Nat.ne_zero_of_lt hfuel')
    rw [gap.eq_def, gap.eq_def (fuel' + 1)]
    dsimp only
    split
    · next rest =>
      have hrest : (rest.dropWhile (· ≠ '\n')).length ≤ rest.length := (List.dropWhile_suffix _).length_le
      simp only [List.length_cons] at hfuel hfuel'
      have hmore : gap fuel (rest.dropWhile (· ≠ '\n')) = gap fuel' (rest.dropWhile (· ≠ '\n')) :=
        ih (by omega) (by omega)
      rw [hmore]
    · next rest =>
      simp only [List.length_cons] at hfuel hfuel'
      cases hbody : blockComment 1 .plain rest with
      | none => rfl
      | some found =>
        obtain ⟨body, more⟩ := found
        have hlength := blockComment_length_le hbody
        have hmore : gap fuel more = gap fuel' more := ih (by omega) (by omega)
        dsimp only [Option.bind_eq_bind, Option.bind_some]
        rw [hmore]
    · next c rest _ _ =>
      simp only [List.length_cons] at hfuel hfuel'
      have hmore : gap fuel rest = gap fuel' rest := ih (by omega) (by omega)
      rw [hmore]
    · rfl

/-- The blanks and comments at the front of a text, and what comes after them. -/
def leading (cs : List Char) : Option (List Char × List Char) :=
  gap (cs.length + 1) cs

theorem gap_eq_leading {fuel : Nat} {cs : List Char} (hfuel : cs.length < fuel) : gap fuel cs = leading cs :=
  gap_of_length_lt hfuel (Nat.lt_succ_self _)

/-- Behind a line comment the gap goes on at the line feed, which is a blank and belongs to it. -/
theorem leading_line (rest : List Char) :
    leading ('/' :: '/' :: rest) = (leading (rest.dropWhile (· ≠ '\n'))).map fun (more, rest') =>
      ('/' :: '/' :: (rest.takeWhile (· ≠ '\n') ++ more), rest') := by
  have hrest : (rest.dropWhile (· ≠ '\n')).length ≤ rest.length := (List.dropWhile_suffix _).length_le
  have hgap : leading ('/' :: '/' :: rest) = (gap (rest.length + 2) (rest.dropWhile (· ≠ '\n'))).map
      fun (more, rest') => ('/' :: '/' :: (rest.takeWhile (· ≠ '\n') ++ more), rest') := rfl
  rw [hgap, gap_eq_leading (by omega)]

/-- Behind a block comment the gap goes on where the comment ends. One that does not end leaves no tokens at
all. -/
theorem leading_block (rest : List Char) :
    leading ('/' :: '*' :: rest) = (blockComment 1 .plain rest).bind fun (body, more) =>
      (leading more).map fun (g, rest) => ('/' :: '*' :: (body ++ g), rest) := by
  have hgap : leading ('/' :: '*' :: rest) = (blockComment 1 .plain rest).bind fun (body, more) =>
      (gap (rest.length + 2) more).bind fun (g, rest) => some ('/' :: '*' :: (body ++ g), rest) := rfl
  rw [hgap]
  cases hbody : blockComment 1 .plain rest with
  | none => rfl
  | some found =>
    obtain ⟨body, more⟩ := found
    have hlength := blockComment_length_le hbody
    dsimp only [Option.bind_some]
    rw [gap_eq_leading (by omega)]
    cases leading more <;> rfl

/-- A line comment in front of a line feed, or of the end of the text, is read on its own. -/
theorem leading_line_append {body : List Char} (hbody : '\n' ∉ body) {cs : List Char}
    (hcs : ∀ c ∈ cs.head?, c = '\n') :
    leading ('/' :: '/' :: (body ++ cs)) = (leading cs).map fun (more, rest) => ('/' :: '/' :: (body ++ more), rest) := by
  have hall : ∀ c ∈ body, decide (c ≠ '\n') = true := fun c hc => by
    simpa using fun h : c = '\n' => hbody (h ▸ hc)
  have hnone : cs.takeWhile (· ≠ '\n') = [] ∧ cs.dropWhile (· ≠ '\n') = cs := by
    cases cs with
    | nil => exact ⟨rfl, rfl⟩
    | cons c cs => simp [hcs c rfl]
  rw [leading_line, List.takeWhile_append_of_pos hall, List.dropWhile_append_of_pos hall, hnone.1, hnone.2,
    List.append_nil]

theorem leading_block_append {rest body more : List Char} (hbody : blockComment 1 .plain rest = some (body, more))
    (cs : List Char) :
    leading ('/' :: '*' :: (body ++ cs)) = (leading cs).map fun (g, rest) => ('/' :: '*' :: (body ++ g), rest) := by
  rw [leading_block, (blockComment_delimited hbody).2 cs]
  rfl

theorem leading_space {c : Char} (hc : isSpace c = true) (rest : List Char) :
    leading (c :: rest) = (leading rest).map fun (more, rest) => (c :: more, rest) := by
  rw [leading, gap.eq_def]
  dsimp only
  split
  · next h =>
    cases h
    exact absurd hc (by decide)
  · next h =>
    cases h
    exact absurd hc (by decide)
  · next d more hline hblock hsame =>
    cases hsame
    rw [if_pos hc, gap_eq_leading (by simp)]
  · next h => cases h

/-- At the first character of a token nothing stands in front. A slash is one unless a comment begins with it. -/
theorem leading_token {c : Char} (hc : isSpace c = false) {rest : List Char}
    (hcomment : c = '/' → rest.head? ≠ some '/' ∧ rest.head? ≠ some '*') :
    leading (c :: rest) = some ([], c :: rest) := by
  rw [leading, gap.eq_def]
  dsimp only
  split
  · next h =>
    cases h
    exact absurd rfl (hcomment rfl).1
  · next h =>
    cases h
    exact absurd rfl (hcomment rfl).2
  · next d more hline hblock hsame =>
    cases hsame
    rw [if_neg (by simp [hc])]
  · next h => cases h

/-- What stands at the front of a text: a comment, a blank, or the first character of a token. -/
inductive Front : List Char → Prop
  | line (rest : List Char) : Front ('/' :: '/' :: rest)
  | block (rest : List Char) : Front ('/' :: '*' :: rest)
  | space {c : Char} (hc : isSpace c = true) (rest : List Char) : Front (c :: rest)
  | token {c : Char} (hc : isSpace c = false) {rest : List Char}
      (hcomment : c = '/' → rest.head? ≠ some '/' ∧ rest.head? ≠ some '*') : Front (c :: rest)
  | nothing : Front []

/-- Every text begins in one of these ways. An open block comment is one of them, and then nothing is read. -/
theorem front (cs : List Char) : Front cs := by
  cases cs with
  | nil => exact .nothing
  | cons c rest =>
    by_cases hc : isSpace c = true
    · exact .space hc rest
    by_cases hline : c = '/' ∧ rest.head? = some '/'
    · obtain ⟨rfl, hrest⟩ := hline
      obtain ⟨more, rfl⟩ := List.head?_eq_some_iff.mp hrest
      exact .line more
    by_cases hblock : c = '/' ∧ rest.head? = some '*'
    · obtain ⟨rfl, hrest⟩ := hblock
      obtain ⟨more, rfl⟩ := List.head?_eq_some_iff.mp hrest
      exact .block more
    · exact .token (by simpa using hc) fun hslash => ⟨fun h => hline ⟨hslash, h⟩, fun h => hblock ⟨hslash, h⟩⟩

/-- A text with nothing in front of it begins with neither a blank nor a comment. -/
theorem token_of_leading {c : Char} {rest : List Char} (h : leading (c :: rest) = some ([], c :: rest)) :
    isSpace c = false ∧ (c = '/' → rest.head? ≠ some '/' ∧ rest.head? ≠ some '*') := by
  generalize hcs : c :: rest = cs at h
  cases front cs with
  | nothing => cases hcs
  | token hd hcomment =>
    cases hcs
    exact ⟨hd, hcomment⟩
  | space hd more => simp [leading_space hd] at h
  | line more => simp [leading_line] at h
  | block more =>
    obtain ⟨⟨body, more'⟩, _, h⟩ := Option.bind_eq_some_iff.mp (leading_block more ▸ h)
    simp at h

/-- What is read in front of a text that begins with a token or is empty. Only at the end of a text is a line
comment not followed by a line end. -/
inductive LeadsTo (rest : List Char) : List Char → Prop
  | stop (hstop : leading rest = some ([], rest)) : LeadsTo rest []
  | space {c : Char} (hc : isSpace c = true) {g : List Char} (hg : LeadsTo rest g) : LeadsTo rest (c :: g)
  | line {body : List Char} (hbody : '\n' ∉ body) {g : List Char} (hend : ∀ c ∈ (g ++ rest).head?, c = '\n')
      (hg : LeadsTo rest g) : LeadsTo rest ('/' :: '/' :: (body ++ g))
  | block {body : List Char} (hbody : blockComment 1 .plain body = some (body, [])) {g : List Char}
      (hg : LeadsTo rest g) : LeadsTo rest ('/' :: '*' :: (body ++ g))

/-- What is read in front of a text is blanks and whole comments, by induction on the length of the text. -/
theorem leadsTo_of_leading {cs g rest : List Char} (h : leading cs = some (g, rest)) : LeadsTo rest g := by
  induction hn : cs.length using Nat.strong_induction_on generalizing cs g with
  | _ n ih =>
    subst hn
    cases front cs with
    | nothing =>
      cases h
      exact .stop rfl
    | token hd hcomment =>
      rw [leading_token hd hcomment] at h
      cases h
      exact .stop (leading_token hd hcomment)
    | space hd more =>
      rw [leading_space hd] at h
      obtain ⟨⟨g, rest⟩, hmore, hsame⟩ := Option.map_eq_some_iff.mp h
      cases hsame
      exact .space hd (ih more.length (by simp) hmore rfl)
    | line more =>
      rw [leading_line] at h
      obtain ⟨⟨g, rest⟩, hmore, hsame⟩ := Option.map_eq_some_iff.mp h
      cases hsame
      have hshorter := (List.dropWhile_suffix (l := more) (· ≠ '\n')).length_le
      refine .line (fun hmem => ?_) (fun c hc => ?_) (ih _ ?_ hmore rfl)
      · exact absurd (List.mem_takeWhile_imp hmem) (by decide)
      · have hhead := List.head?_dropWhile_not (· ≠ '\n') more
        rw [gap_split hmore, Option.mem_def.mp hc] at hhead
        simpa using hhead
      · rw [List.length_cons, List.length_cons]
        omega
    | block more =>
      rw [leading_block] at h
      obtain ⟨⟨body, more'⟩, hbody, h⟩ := Option.bind_eq_some_iff.mp h
      obtain ⟨⟨g, rest⟩, hmore, hsame⟩ := Option.map_eq_some_iff.mp h
      cases hsame
      have hwhole := (blockComment_delimited hbody).2 []
      rw [List.append_nil] at hwhole
      have hlength := blockComment_length_le hbody
      refine .block hwhole (ih _ ?_ hmore rfl)
      rw [List.length_cons, List.length_cons]
      omega

/-- The reverse: blanks and whole comments in front of a token are what is read in front of it. -/
theorem LeadsTo.leading_eq {g rest : List Char} (hleads : LeadsTo rest g) : leading (g ++ rest) = some (g, rest) := by
  induction hleads with
  | stop hstop => exact hstop
  | space hc hg ih =>
    rw [List.cons_append, leading_space hc, ih]
    rfl
  | line hbody hend hg ih =>
    rw [List.cons_append, List.cons_append, List.append_assoc, leading_line_append hbody hend, ih]
    rfl
  | block hbody hg ih =>
    rw [List.cons_append, List.cons_append, List.append_assoc, leading_block_append hbody, ih]
    rfl

/-- Blanks and whole comments. -/
inductive IsGap : List Char → Prop
  | nil : IsGap []
  | space {c : Char} (hc : isSpace c = true) {g : List Char} (hg : IsGap g) : IsGap (c :: g)
  | line {body : List Char} (hbody : '\n' ∉ body) {g : List Char} (hg : IsGap g) :
      IsGap ('/' :: '/' :: (body ++ '\n' :: g))
  | block {body : List Char} (hbody : blockComment 1 .plain body = some (body, [])) {g : List Char} (hg : IsGap g) :
      IsGap ('/' :: '*' :: (body ++ g))

/-- A gap is read first, and then what stands at the front of the rest, whatever that is. -/
theorem IsGap.leading_append {g : List Char} (hg : IsGap g) (cs : List Char) :
    leading (g ++ cs) = (leading cs).map fun (more, rest) => (g ++ more, rest) := by
  induction hg with
  | nil => simp
  | space hc hg ih =>
    rw [List.cons_append, leading_space hc, ih, Option.map_map]
    rfl
  | @line body hbody g hg ih =>
    have hspace : isSpace '\n' = true := by decide
    have htext : '/' :: '/' :: (body ++ '\n' :: g) ++ cs = '/' :: '/' :: (body ++ '\n' :: (g ++ cs)) := by simp
    rw [htext, leading_line_append hbody (by simp), leading_space hspace, ih, Option.map_map, Option.map_map]
    simp [Function.comp_def]
  | @block body hbody g hg ih =>
    have htext : '/' :: '*' :: (body ++ g) ++ cs = '/' :: '*' :: (body ++ (g ++ cs)) := by simp
    rw [htext, leading_block_append hbody, ih, Option.map_map]
    simp [Function.comp_def]

/-- A gap begins with a character that ends the token before it: a blank, or the slash of a comment. -/
theorem IsGap.head_breaks {c : Char} {g : List Char} (hg : IsGap (c :: g)) : Breaks c := by
  cases hg with
  | space hc _ => exact .inl hc
  | line _ _ => exact .inr rfl
  | block _ _ => exact .inr rfl

/-- No quote stands second in a gap: behind a blank it would not belong to the gap, and behind a slash comes
another slash or a star. -/
theorem IsGap.second_ne_quote {c : Char} {g : List Char} (hg : IsGap (c :: g)) : g.head? ≠ some '\'' := by
  cases hg with
  | space _ hg =>
    intro hquote
    obtain ⟨more, rfl⟩ := List.head?_eq_some_iff.mp hquote
    exact hg.head_breaks.ne_of_mem (by decide) rfl
  | line _ _ => simp
  | block _ _ => simp

/-- Two texts that may stand behind a token in place of each other: both begin with a gap. -/
structure Exchange (c : Char) (x : List Char) (c' : Char) (y : List Char) : Prop where
  old : Breaks c
  new : Breaks c'
  slash : c' = '/' → c = '/'
  quote : y.head? ≠ some '\''

variable {c c' : Char} {x y : List Char}

/-- A slash in front of the gap does not open a comment: it would have done so before. -/
theorem Exchange.stops (hexchange : Exchange c x c' y) {v : List Char} (hv : v ≠ [])
    (hstop : leading (v ++ c :: x) = some ([], v ++ c :: x)) :
    leading (v ++ c' :: y) = some ([], v ++ c' :: y) := by
  obtain ⟨d, v, rfl⟩ := List.exists_cons_of_ne_nil hv
  obtain ⟨hd, hcomment⟩ := token_of_leading hstop
  refine leading_token hd fun hslash => ?_
  cases v with
  | nil =>
    have hstar : c' ≠ '*' := hexchange.new.ne_of_mem (by decide)
    have hc' : c' ≠ '/' := fun h => (hcomment hslash).1 (by simp [hexchange.slash h])
    simp [hstar, hc']
  | cons e v => exact hcomment hslash

/-- What leads to the text before the gap leads to it with the other gap behind. By induction on blanks and
comments, none of which reaches the gap. -/
theorem Exchange.leadsTo (hexchange : Exchange c x c' y) {g v : List Char} (hv : v ≠ [])
    (hleads : LeadsTo (v ++ c :: x) g) : LeadsTo (v ++ c' :: y) g := by
  induction hleads with
  | stop hstop => exact .stop (hexchange.stops hv hstop)
  | space hc hg ih => exact .space hc ih
  | @line body hbody g hend hg ih =>
    -- The line ends before the token.
    have hhead (z : List Char) : (g ++ (v ++ z)).head? = (g ++ v).head? := by
      obtain ⟨e, more, hmore⟩ := List.exists_cons_of_ne_nil (List.append_ne_nil_of_right_ne_nil g hv)
      rw [← List.append_assoc, hmore, List.cons_append, List.head?_cons, List.head?_cons]
    rw [hhead] at hend
    exact .line hbody (by rwa [hhead]) ih
  | block hbody hg ih => exact .block hbody ih

/-- What is read in front of a text stays the same when another gap is put behind it. -/
theorem Exchange.leading_eq (hexchange : Exchange c x c' y) {g v : List Char} (hv : v ≠ [])
    (h : leading (g ++ (v ++ c :: x)) = some (g, v ++ c :: x)) :
    leading (g ++ (v ++ c' :: y)) = some (g, v ++ c' :: y) :=
  (hexchange.leadsTo hv (leadsTo_of_leading h)).leading_eq

end ClassDiagram.Rust.Lexer
