import ClassDiagram.Proofs.Rust.Literals

namespace ClassDiagram.Rust.Lexer

/-- A character that may begin a gap. -/
def Breaks (c : Char) : Prop :=
  isSpace c = true ∨ c = '/'

/-- What holds of the slash and of each blank holds of every break. All facts about single characters are
decided on this short list. -/
theorem Breaks.of_all {P : Char → Prop} [DecidablePred P]
    (h : ('/' :: Text.blanks).all (fun c => decide (P c)) = true) {c : Char} (hc : Breaks c) : P c := by
  rcases hc with hspace | rfl
  · exact Text.forall_of_all h c (List.mem_cons_of_mem _ (Text.mem_blanks (isBlank_of_isSpace hspace)))
  · exact Text.forall_of_all h '/' List.mem_cons_self

namespace Breaks

variable {c : Char} (hc : Breaks c)

include hc

theorem isWordStart_eq_false : isWordStart c = false :=
  hc.of_all (P := fun c => isWordStart c = false) (by decide +kernel)

theorem isWordChar_eq_false : isWordChar c = false :=
  hc.of_all (P := fun c => isWordChar c = false) (by decide +kernel)

theorem isDigitOf_eq_false {base : Nat} (hbase : base ∈ [2, 8, 10, 16]) : isDigitOf base c = false :=
  hc.of_all (P := fun c => ∀ base ∈ [2, 8, 10, 16], isDigitOf base c = false) (by decide) base hbase

theorem isDigit_eq_false : c.isDigit = false :=
  hc.of_all (P := fun c => c.isDigit = false) (by decide)

theorem endsEscape : EndsEscape c :=
  ⟨hc.of_all (P := fun c => isHex c = false) (by decide), hc.of_all (P := (· ≠ '{')) (by decide),
    hc.of_all (P := (· ≠ '}')) (by decide)⟩

/-- A break is none of the marks and letters that tokens begin or go on with. -/
theorem ne_of_mem {d : Char} (hd : d ∈ "rbcxueEif#\"'\\.+-!*[".toList) : c ≠ d := by
  rintro rfl
  exact hc.of_all (P := (· ∉ "rbcxueEif#\"'\\.+-!*[".toList)) (by decide) hd

/-- The start of a raw string is told before its first blank, since only a letter, sharps and a quote belong to
it. -/
theorem isSome_rawString? (w x : List Char) : (rawString? (w ++ c :: x)).isSome = (rawString? w).isSome := by
  have hhash : decide (c = '#') = false := decide_eq_false (hc.ne_of_mem (by decide))
  have hquote : c ≠ '"' := hc.ne_of_mem (by decide)
  simp only [rawString?, drop_length_takeWhile]
  rw [dropWhile_append_cons_of_neg hhash]
  cases w.dropWhile (· = '#') with
  | nil => simp [hquote]
  | cons d more => by_cases hd : d = '"' <;> simp [hd]

/-- Whether a string begins is told by the characters in front of a break; where it ends may depend on what
follows. -/
theorem isSome_string? {w : List Char} (hw : w ≠ []) (x : List Char) :
    (string? (w ++ c :: x)).isSome = (string? w).isSome := by
  have hquote : c ≠ '"' := hc.ne_of_mem (by decide)
  have hr : c ≠ 'r' := hc.ne_of_mem (by decide)
  fun_cases string? w with
  | case1 more => rfl
  | case2 more => simp [string?, hc.isSome_rawString?]
  | case3 d more hd hd' hletter => simp [string?, hletter]
  | case4 d more hd hd' hletter => simp [string?, hletter]
  | case5 d more hd hd' hletter => simp [string?, hletter, hc.isSome_rawString?]
  | case6 d more hd hd' hletter => simp [string?, hletter]
  | case7 w hstring hraw hletter hletters =>
    -- The break does not go on with a single letter.
    rcases w with _ | ⟨d, _ | ⟨e, more⟩⟩
    · exact absurd rfl hw
    · have hd : d ≠ '"' ∧ d ≠ 'r' := by simpa using And.intro hstring hraw
      simp [string?, hd, hquote, hr]
    · have hd : d ≠ '"' ∧ d ≠ 'r' := by simpa using And.intro hstring hraw
      have he : e ≠ '"' ∧ e ≠ 'r' := by simpa using And.intro hletter hletters
      simp [string?, hd, he]

theorem string?_eq_none_iff {w : List Char} (hw : w ≠ []) (x : List Char) :
    string? (w ++ c :: x) = none ↔ string? w = none := by
  rw [← Option.isNone_iff_eq_none, ← Option.isNone_iff_eq_none, ← Option.not_isSome, ← Option.not_isSome,
    hc.isSome_string? hw x]

/-- A break does not end an escape, so what was no character literal does not become one. -/
theorem charBody?_escape_eq_none {w x : List Char} (hx : x.head? ≠ some '\'')
    (hw : charBody? ('\\' :: w) = none) : charBody? ('\\' :: (w ++ c :: x)) = none := by
  rw [charBody?] at hw ⊢
  cases w with
  | nil =>
    have hletters : c ≠ 'x' ∧ c ≠ 'u' := ⟨hc.ne_of_mem (by decide), hc.ne_of_mem (by decide)⟩
    have hescape : escapeLength? (c :: x) = some 1 := by simp [escapeLength?, hletters]
    rw [List.nil_append, hescape]
    cases x with
    | nil => rfl
    | cons e x => simp_all
  | cons e more =>
    rw [escapeLength?_append_cons hc.endsEscape (List.cons_ne_nil e more)]
    cases hescape : escapeLength? (e :: more) with
    | none => rfl
    | some n =>
      rw [hescape, Option.bind_eq_bind, Option.bind_some] at hw
      rw [Option.bind_eq_bind, Option.bind_some, List.drop_append_of_le_length (escapeLength?_bounds hescape).2]
      cases hdrop : (e :: more).drop n with
      | nil =>
        have hquote : c ≠ '\'' := hc.ne_of_mem (by decide)
        simp [hquote]
      | cons f rest =>
        rw [hdrop] at hw
        by_cases hf : f = '\'' <;> simp_all

/-- The same of any literal: without a closing quote behind the break there is none. The quote is excluded by
hypothesis, as it would end a literal of the break itself. -/
theorem charBody?_eq_none {w x : List Char} (hx : x.head? ≠ some '\'') (hw : charBody? w = none) :
    charBody? (w ++ c :: x) = none := by
  have hquote : c ≠ '\'' := hc.ne_of_mem (by decide)
  have hslash : c ≠ '\\' := hc.ne_of_mem (by decide)
  have hone {d e : Char} {more : List Char} (hd : d ≠ '\'') (hd' : d ≠ '\\') (he : e ≠ '\'') :
      charBody? (d :: e :: more) = none := by simp [charBody?, hd, hd', he]
  cases w with
  | nil =>
    cases x with
    | nil => simp [charBody?, hquote, hslash]
    | cons e x => exact hone hquote hslash (by simpa using hx)
  | cons d w =>
    by_cases hd : d = '\''
    · simp [hd, charBody?] at hw
    by_cases hd' : d = '\\'
    · rw [hd'] at hw ⊢
      exact hc.charBody?_escape_eq_none hx hw
    cases w with
    | nil => exact hone hd hd' hquote
    | cons e w =>
      have he : e ≠ '\'' := by
        rintro rfl
        simp [charBody?] at hw
      exact hone hd hd' he

theorem char?_eq_none {w x : List Char} (hx : x.head? ≠ some '\'') (hw : char? w = none) :
    char? (w ++ c :: x) = none := by
  have hquote : c ≠ '\'' := hc.ne_of_mem (by decide)
  have hletter : c ≠ 'b' := hc.ne_of_mem (by decide)
  fun_cases char? w with
  | case1 w =>
    have hbody : charBody? w = none := by simpa [char?] using hw
    simp [char?, hc.charBody?_eq_none hx hbody]
  | case2 w =>
    have hbody : charBody? w = none := by simpa [char?] using hw
    simp [char?, hc.charBody?_eq_none hx hbody]
  | case3 w hchar hbyte =>
    rcases w with _ | ⟨d, _ | ⟨e, w⟩⟩
    · simp [char?, hquote, hletter]
    · have hd : d ≠ '\'' := by simpa using hchar
      simp [char?, hd, hquote]
    · have hd : d ≠ '\'' := by simpa using hchar
      have he : d = 'b' → e ≠ '\'' := by simpa using hbyte
      exact char?.eq_3 _ (by simp [hd]) (by simpa using he)

/-- A word ends in front of a break and is read alike with anything behind it. -/
theorem word?_append (w x : List Char) :
    word? (w ++ c :: x) = (word? w).map fun (text, rest) => (text, rest ++ c :: x) := by
  have hr : c ≠ 'r' := hc.ne_of_mem (by decide)
  have hhash : c ≠ '#' := hc.ne_of_mem (by decide)
  have hrun (more : List Char) : (more ++ c :: x).takeWhile isWordChar = more.takeWhile isWordChar ∧
      (more ++ c :: x).dropWhile isWordChar = more.dropWhile isWordChar ++ c :: x :=
    ⟨takeWhile_append_cons_of_neg hc.isWordChar_eq_false more x, dropWhile_append_cons_of_neg hc.isWordChar_eq_false more x⟩
  fun_cases word? w with
  | case1 d more hd => simp [word?, hd, hrun]
  | case2 d more hd => simp [word?, hd]
  | case3 d more hraw hd =>
    by_cases hlone : d = 'r' ∧ more = ['#']
    · obtain ⟨rfl, rfl⟩ := hlone
      have hend : isWordChar '#' = false := by decide
      simp [word?, hend, hc.isWordStart_eq_false]
    · have hraw' : ∀ e rest, d = 'r' → more ++ c :: x = '#' :: e :: rest → False := by
        intro e rest hletter hmore
        match more with
        | [] => exact hhash (List.cons.inj hmore).1
        | [f] => exact hlone ⟨hletter, by rw [(List.cons.inj hmore).1]⟩
        | f :: g :: more => exact hraw g more hletter (by rw [(List.cons.inj hmore).1])
      rw [List.cons_append, word?.eq_2 _ _ hraw', if_pos hd, (hrun more).1, (hrun more).2]
      rfl
  | case4 d more hraw hd =>
    have hne : d ≠ 'r' := by
      rintro rfl
      exact hd (by decide)
    simp [word?, hd, hne]
  | case5 => simp [word?, hr, hc.isWordStart_eq_false]

theorem metavariable?_append (w x : List Char) :
    metavariable? (w ++ c :: x) = ( metavariable? w).map fun (name, rest) => (name, rest ++ c :: x) := by
  cases w with
  | nil => simp [ metavariable?, hc.isWordStart_eq_false]
  | cons d w =>
    rw [List.cons_append, metavariable?, metavariable?, takeWhile_append_cons_of_neg hc.isWordChar_eq_false,
      dropWhile_append_cons_of_neg hc.isWordChar_eq_false]
    split <;> rfl

omit hc in
/-- A text without breaks begins a longer text only within the part before the break. -/
theorem isPrefixOf_append_cons {t : List Char} (ht : c ∉ t) (w x : List Char) :
    t.isPrefixOf (w ++ c :: x) = t.isPrefixOf w := by
  induction w generalizing t with
  | nil =>
    cases t with
    | nil => rfl
    | cons d t =>
      have hd : d ≠ c := fun h => ht (h ▸ List.mem_cons_self)
      simp [List.isPrefixOf, hd]
  | cons e w ih =>
    cases t with
    | nil => rfl
    | cons d t => simp [List.isPrefixOf, ih (fun h => ht (List.mem_cons_of_mem d h))]

theorem numberTypeLength_append (w x : List Char) : numberTypeLength (w ++ c :: x) = numberTypeLength w := by
  have hnone : ∀ t ∈ numberTypes, c ∉ t.toList :=
    hc.of_all (P := fun c => ∀ t ∈ numberTypes, c ∉ t.toList) (by decide +kernel)
  rw [numberTypeLength, numberTypeLength]
  congr 2
  exact List.filter_congr fun t ht => isPrefixOf_append_cons (hnone t ht) w x

/-- No digit is a break, so a run of digits in any base is counted alike. -/
theorem digitsLength_append {w : List Char} (hw : w ≠ []) (x : List Char) : digitsLength (w ++ c :: x) = digitsLength w := by
  have hdigit : isDigitOf 10 c = false := hc.isDigitOf_eq_false (by decide)
  have hdecimal := takeWhile_append_cons_of_neg hdigit w x
  match w with
  | [] => exact absurd rfl hw
  | [d] =>
    by_cases hd : d = '0'
    · have hbase : baseOf? c = none := hc.of_all (P := fun c => baseOf? c = none) (by decide)
      simp_all [digitsLength]
    · simp_all [digitsLength]
  | d :: e :: w =>
    by_cases hd : d = '0'
    · cases hbase : baseOf? e with
      | none => simp_all [digitsLength]
      | some base =>
        have hmem : base ∈ [2, 8, 10, 16] := by
          rw [baseOf?.eq_def] at hbase
          split at hbase <;> simp_all
        simp [digitsLength, hd, hbase, takeWhile_append_cons_of_neg (hc.isDigitOf_eq_false hmem)]
    · simp_all [digitsLength]

theorem integerLength_append {w : List Char} (hw : w ≠ []) (x : List Char) : integerLength (w ++ c :: x) = integerLength w := by
  rw [integerLength, hc.digitsLength_append hw, List.drop_append_of_le_length (digitsLength_le w), hc.numberTypeLength_append,
    integerLength]

theorem exponentLength_append (w x : List Char) : exponentLength (w ++ c :: x) = exponentLength w := by
  have hletter : c ≠ 'e' ∧ c ≠ 'E' := ⟨hc.ne_of_mem (by decide), hc.ne_of_mem (by decide)⟩
  have hsign : c ≠ '+' ∧ c ≠ '-' := ⟨hc.ne_of_mem (by decide), hc.ne_of_mem (by decide)⟩
  have hdigit : isDigitOf 10 c = false := hc.isDigitOf_eq_false (by decide)
  match w with
  | [] => simp [exponentLength, hletter]
  | [d] => simp [exponentLength, hsign, hdigit]
  | d :: e :: w =>
    have hrun := takeWhile_append_cons_of_neg hdigit
    by_cases he : e = '+' ∨ e = '-'
    · simp [exponentLength, he, hrun]
    · have hrun' : (e :: (w ++ c :: x)).takeWhile (isDigitOf 10) = (e :: w).takeWhile (isDigitOf 10) :=
        hrun (e :: w) x
      simp [exponentLength, he, hrun']

theorem floatTypeLength_append (w x : List Char) : floatTypeLength (w ++ c :: x) = floatTypeLength w := by
  have hletter : c ≠ 'u' ∧ c ≠ 'i' ∧ c ≠ 'f' :=
    ⟨hc.ne_of_mem (by decide), hc.ne_of_mem (by decide), hc.ne_of_mem (by decide)⟩
  cases w with
  | nil => simp [floatTypeLength, hletter]
  | cons d w => rw [List.cons_append, floatTypeLength, floatTypeLength, takeWhile_append_cons_of_neg hc.isDigit_eq_false]

/-- What may follow the digits of a number, an exponent or the name of a type, is looked for up to the break
only. -/
theorem finishFloat?_append {w : List Char} {used : Nat} (hused : used ≤ w.length) (hasFraction : Bool) (x : List Char) :
    finishFloat? (w ++ c :: x) used hasFraction = finishFloat? w used hasFraction := by
  have hlength := exponentLength_le (w.drop used)
  rw [List.length_drop] at hlength
  rw [finishFloat?, List.drop_append_of_le_length hused, hc.exponentLength_append]
  dsimp only
  rw [List.drop_append_of_le_length (by omega), hc.floatTypeLength_append, finishFloat?]

/-- The length of a float does not depend on what stands behind a break. -/
theorem floatLength?_append (w x : List Char) : floatLength? (w ++ c :: x) = floatLength? w := by
  have hdigit : isDigitOf 10 c = false := hc.isDigitOf_eq_false (by decide)
  have hwhole := length_takeWhile_le (isDigitOf 10) w
  rw [floatLength?, takeWhile_append_cons_of_neg hdigit, List.drop_append_of_le_length hwhole, floatLength?]
  dsimp only
  cases hrest : w.drop (w.takeWhile (isDigitOf 10)).length with
  | nil =>
    have hpoint : c ≠ '.' := hc.ne_of_mem (by decide)
    simp [hpoint, hc.finishFloat?_append hwhole]
  | cons d rest =>
    by_cases hpoint : d = '.'
    · have hfraction : (w.takeWhile (isDigitOf 10)).length + 1 + (rest.takeWhile (isDigitOf 10)).length ≤
          w.length := by
        have hlength := congrArg List.length hrest
        have hrun := length_takeWhile_le (isDigitOf 10) rest
        rw [List.length_drop, List.length_cons] at hlength
        omega
      have hnext : ((rest ++ c :: x).head?.any fun e => e == '.' || (e ≠ '_' && isWordStart e)) =
          rest.head?.any fun e => e == '.' || (e ≠ '_' && isWordStart e) := by
        have hend : c ≠ '.' := hc.ne_of_mem (by decide)
        cases rest <;> simp [hend, hc.isWordStart_eq_false]
      simp only [hpoint, List.cons_append]
      rw [hnext, takeWhile_append_cons_of_neg hdigit, hc.finishFloat?_append hfraction]
    · simp [hpoint, hc.finishFloat?_append hwhole]

/-- A number ends in front of a break, whether it is an integer, a float or the index behind a dot. -/
theorem number_append (afterDot : Bool) {w : List Char} (hw : w ≠ []) (x : List Char) :
    number afterDot (w ++ c :: x) =
      ((number afterDot w).1, (number afterDot w).2.1, (number afterDot w).2.2 ++ c :: x) := by
  have hinteger : integerLength w ≤ w.length := by
    have htype := numberTypeLength_le (w.drop (digitsLength w))
    have hdigits := digitsLength_le w
    rw [List.length_drop] at htype
    rw [integerLength]
    omega
  rw [number, hc.floatLength?_append, hc.integerLength_append hw, number]
  cases hfloat : (if afterDot = true then none else floatLength? w) with
  | none =>
    dsimp only
    rw [List.take_append_of_le_length hinteger, List.drop_append_of_le_length hinteger]
  | some n =>
    have hn : n ≤ w.length := by
      split at hfloat
      · cases hfloat
      · exact floatLength?_le hfloat
    dsimp only
    rw [List.take_append_of_le_length hn, List.drop_append_of_le_length hn]

/-- Tokens other than strings and characters end in front of a break. These two hold blanks and slashes
themselves, so they are set aside by the hypotheses. -/
theorem token?_eq_map (afterDot : Bool) {w x : List Char} (hw : w ≠ []) (hstring : string? w = none)
    (hchar : char? w = none) (hchar' : char? (w ++ c :: x) = none) :
    token? afterDot (w ++ c :: x) = (token? afterDot w).map fun (kind, text, rest) => (kind, text, rest ++ c :: x) := by
  have hstring' : string? (w ++ c :: x) = none := (hc.string?_eq_none_iff hw x).mpr hstring
  obtain ⟨d, w, rfl⟩ := List.exists_cons_of_ne_nil hw
  rw [token?.eq_def, hstring', token?.eq_def, hstring]
  dsimp only
  rw [hchar, hchar', hc.word?_append]
  cases hword : word? (d :: w) with
  | some found => rfl
  | none =>
    rw [List.cons_append]
    dsimp only [Option.map_none]
    by_cases hdigit : d.isDigit
    · rw [if_pos hdigit, if_pos hdigit, ← List.cons_append, hc.number_append afterDot hw]
      rfl
    · rw [if_neg hdigit, if_neg hdigit, hc.metavariable?_append]
      by_cases hdollar : d = '$'
      · rw [if_pos hdollar, if_pos hdollar]
        cases metavariable? w with
        | some found => rfl
        | none => by_cases hmark : isPunctuation d <;> simp [hmark]
      · rw [if_neg hdollar, if_neg hdollar]
        by_cases hmark : isPunctuation d <;> simp [hmark]

/-- A token that ends before a break is read alike without what follows it. This tells what the token is on its
own, before something else is put behind it. -/
theorem token?_of_append {afterDot : Bool} {kind : TokenKind} {text rest x : List Char} (htext : text ≠ [])
    (h : token? afterDot (text ++ rest ++ c :: x) = some (kind, text, rest ++ c :: x)) :
    token? afterDot (text ++ rest) = some (kind, text, rest) := by
  have hne : text ++ rest ≠ [] := by simp [htext]
  cases hfound : string? (text ++ rest ++ c :: x) with
  | some found =>
    rw [token?_of_string hfound] at h
    obtain ⟨⟨text', rest'⟩, rfl, hsame⟩ := Option.map_eq_some_iff.mp h
    cases hsame
    rw [token?_of_string ((string?_delimited hfound).2 rest)]
    rfl
  | none =>
    have hnone : string? (text ++ rest) = none := (hc.string?_eq_none_iff hne x).mp hfound
    cases hfound' : char? (text ++ rest ++ c :: x) with
    | some found =>
      obtain ⟨text', rest'⟩ := found
      rw [token?_of_char hfound hfound'] at h
      cases h
      exact token?_of_char hnone ((char?_delimited hfound').2 rest)
    | none =>
      have hnochar : char? (text ++ rest) = none := by
        by_contra hsome
        obtain ⟨⟨text', rest'⟩, hchar⟩ := Option.ne_none_iff_exists'.mp hsome
        obtain ⟨hsplit, hread⟩ := char?_delimited hchar
        rw [hsplit, List.append_assoc, hread] at hfound'
        cases hfound'
      rw [hc.token?_eq_map afterDot hne hnone hnochar hfound'] at h
      obtain ⟨⟨kind', text', rest'⟩, htoken, hsame⟩ := Option.map_eq_some_iff.mp h
      simp only [Prod.mk.injEq, List.append_cancel_right_eq] at hsame
      obtain ⟨rfl, rfl, rfl⟩ := hsame
      exact htoken

/-- What follows a break does not change the token before it. A quote directly behind the break is excluded,
because the break could then be the character of a literal. -/
theorem token?_append {afterDot : Bool} {kind : TokenKind} {w text rest x : List Char} (hw : w ≠ [])
    (hx : x.head? ≠ some '\'') (h : token? afterDot w = some (kind, text, rest)) :
    token? afterDot (w ++ c :: x) = some (kind, text, rest ++ c :: x) := by
  cases hfound : string? w with
  | some found =>
    rw [token?_of_string hfound] at h
    obtain ⟨⟨text', rest'⟩, rfl, hsame⟩ := Option.map_eq_some_iff.mp h
    cases hsame
    obtain ⟨rfl, hread⟩ := string?_delimited hfound
    rw [List.append_assoc, token?_of_string (hread (rest ++ c :: x))]
    rfl
  | none =>
    cases hfound' : char? w with
    | some found =>
      have hnone : string? (w ++ c :: x) = none := (hc.string?_eq_none_iff hw x).mpr hfound
      obtain ⟨text', rest'⟩ := found
      rw [token?_of_char hfound hfound'] at h
      cases h
      obtain ⟨rfl, hread⟩ := char?_delimited hfound'
      refine token?_of_char hnone ?_
      rw [List.append_assoc, hread]
    | none =>
      rw [hc.token?_eq_map afterDot hw hfound hfound' (hc.char?_eq_none hx hfound'), h]
      rfl

end Breaks

end ClassDiagram.Rust.Lexer
