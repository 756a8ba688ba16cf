import ClassDiagram.Proofs.Rust.Words

namespace ClassDiagram.Rust.Lexer

/-- A run at the front of a text is no longer than the text. -/
theorem length_takeWhile_le (p : Char → Bool) (cs : List Char) : (cs.takeWhile p).length ≤ cs.length :=
  (List.takeWhile_prefix p).length_le

theorem drop_length_takeWhile (p : Char → Bool) (cs : List Char) :
    cs.drop (cs.takeWhile p).length = cs.dropWhile p := by
  induction cs with
  | nil => rfl
  | cons c cs ih => by_cases hc : p c <;> simp [hc, ih]

section Runs

variable {p : Char → Bool} {c : Char} (hc : p c = false) (w x : List Char)

include hc

/-- A run of characters of a kind ends where a character of another kind is put. -/
theorem takeWhile_append_cons_of_neg : (w ++ c :: x).takeWhile p = w.takeWhile p := by
  induction w with
  | nil => simp [hc]
  | cons d w ih => by_cases hd : p d <;> simp [hd, ih]

theorem dropWhile_append_cons_of_neg : (w ++ c :: x).dropWhile p = w.dropWhile p ++ c :: x := by
  induction w with
  | nil => simp [hc]
  | cons d w ih => by_cases hd : p d <;> simp [hd, ih]

/-- A run of `n` characters of a kind does not reach over a character of another kind. -/
theorem all_take_append_cons_of_neg (n : Nat) :
    (decide (((w ++ c :: x).take n).length = n) && ((w ++ c :: x).take n).all p) =
      (decide ((w.take n).length = n) && (w.take n).all p) := by
  by_cases hn : n ≤ w.length
  · rw [List.take_append_of_le_length hn]
  · have hshort : ¬ (w.take n).length = n := by
      rw [List.length_take]
      omega
    have hmem : c ∈ (w ++ c :: x).take n := by
      rw [List.take_append, List.take_of_length_le (by omega)]
      obtain ⟨k, hk⟩ : ∃ k, n - w.length = k + 1 := ⟨n - w.length - 1, by omega⟩
      simp [hk]
    have hall : ((w ++ c :: x).take n).all p = false := by
      rw [List.all_eq_false]
      exact ⟨c, hmem, by simp [hc]⟩
    rw [hall, decide_eq_false hshort, Bool.and_false, Bool.false_and]

end Runs

/-- A character that neither begins nor goes on with the digits of an escape. -/
structure EndsEscape (c : Char) : Prop where
  hex : isHex c = false
  opening : c ≠ '{'
  closing : c ≠ '}'

/-- An escape takes at least one character and no more than there are, so reading a string goes on behind it. -/
theorem escapeLength?_bounds {cs : List Char} {n : Nat} (h : escapeLength? cs = some n) : 0 < n ∧ n ≤ cs.length := by
  rw [escapeLength?.eq_def] at h
  split at h
  · next rest =>
    simp only [Option.ite_none_right_eq_some, Bool.and_eq_true, decide_eq_true_eq, List.length_take] at h
    obtain ⟨⟨hlength, _⟩, h⟩ := h
    cases h
    simp only [List.length_cons]
    omega
  · next rest =>
    simp only [Option.ite_none_right_eq_some, Bool.and_eq_true, decide_eq_true_eq] at h
    obtain ⟨⟨_, hclosing⟩, h⟩ := h
    cases h
    have hmore : rest.drop (rest.takeWhile isHex).length ≠ [] := by
      intro hnil
      rw [hnil] at hclosing
      cases hclosing
    rw [ne_eq, List.drop_eq_nil_iff] at hmore
    simp only [List.length_cons]
    omega
  · next rest _ =>
    simp only [Option.ite_none_right_eq_some, Bool.and_eq_true, decide_eq_true_eq, List.length_take] at h
    obtain ⟨⟨hlength, _⟩, h⟩ := h
    cases h
    simp only [List.length_cons]
    omega
  · cases h
    simp
  · cases h

/-- How long an escape is does not depend on what stands behind a character that ends it. -/
theorem escapeLength?_append_cons {c : Char} (hc : EndsEscape c) {w : List Char} (hw : w ≠ []) (x : List Char) :
    escapeLength? (w ++ c :: x) = escapeLength? w := by
  rw [escapeLength?.eq_def w]
  split
  · next rest => rw [List.cons_append, escapeLength?, all_take_append_cons_of_neg hc.hex]
  · next rest =>
    rw [List.cons_append, List.cons_append, escapeLength?, takeWhile_append_cons_of_neg hc.hex,
      List.drop_append_of_le_length (length_takeWhile_le isHex rest)]
    dsimp only
    cases rest.drop (rest.takeWhile isHex).length with
    | nil => simp [hc.closing]
    | cons d more => rfl
  · next rest hbrace =>
    rw [List.cons_append, escapeLength?, all_take_append_cons_of_neg hc.hex]
    intro more hmore
    cases rest with
    | nil => exact hc.opening (List.cons.inj hmore).1
    | cons d rest => exact hbrace rest (congrArg (· :: rest) (List.cons.inj hmore).1)
  · next d rest hx hbrace hu =>
    rw [List.cons_append, escapeLength?]
    · exact hx
    · exact fun _ h _ => hu h
    · exact hu
  · exact absurd rfl hw

theorem endsEscape_quote : EndsEscape '"' := ⟨by decide, by decide, by decide⟩

theorem endsEscape_apostrophe : EndsEscape '\'' := ⟨by decide, by decide, by decide⟩

/-- A string ends at its quote, whatever follows. The quote itself belongs to the body. -/
theorem stringBody_delimited {cs body rest : List Char} (h : stringBody cs = some (body, rest)) :
    cs = body ++ rest ∧ (∃ inside, body = inside ++ ['"']) ∧
      ∀ rest', stringBody (body ++ rest') = some (body, rest') := by
  fun_induction stringBody cs generalizing body with
  | case1 => cases h
  | case2 rest =>
    cases h
    exact ⟨rfl, ⟨[], rfl⟩, fun _ => rfl⟩
  | case3 c more hescape ih =>
    obtain ⟨⟨body', rest'⟩, hmore, hsame⟩ := Option.map_eq_some_iff.mp h
    cases hsame
    obtain ⟨rfl, ⟨inside, rfl⟩, hbody⟩ := ih hmore
    refine ⟨rfl, ⟨'\\' :: c :: inside, rfl⟩, fun rest' => ?_⟩
    have hrest' : (escapeLength? (c :: (inside ++ ['"'] ++ rest'))).isSome = true := by
      rw [List.append_assoc, ← List.cons_append, List.singleton_append,
        escapeLength?_append_cons endsEscape_quote (List.cons_ne_nil c inside)] at hescape ⊢
      exact hescape
    rw [List.cons_append, List.cons_append, stringBody, if_pos hrest', hbody]
    rfl
  | case4 c more hescape => cases h
  | case5 c more hquote hescape ih =>
    obtain ⟨⟨body', rest'⟩, hmore, hsame⟩ := Option.map_eq_some_iff.mp h
    cases hsame
    obtain ⟨rfl, ⟨inside, rfl⟩, hbody⟩ := ih hmore
    have hslash : c ≠ '\\' := by
      obtain ⟨d, more, hmore⟩ := List.exists_cons_of_ne_nil (by simp : inside ++ ['"'] ++ rest ≠ [])
      exact fun h => hescape d more h hmore
    refine ⟨rfl, ⟨c :: inside, rfl⟩, fun rest' => ?_⟩
    rw [List.cons_append, stringBody, hbody]
    · rfl
    · exact hquote
    · exact fun _ _ h _ => hslash h

/-- A raw string ends at a quote with as many sharps behind it as in front of the string. -/
theorem rawBody_delimited {hashes : Nat} {cs body rest : List Char} (h : rawBody hashes cs = some (body, rest)) :
    cs = body ++ rest ∧ hashes < body.length ∧ ∀ rest', rawBody hashes (body ++ rest') = some (body, rest') := by
  induction cs generalizing body with
  | nil => cases h
  | cons c more ih =>
    rw [rawBody] at h
    split at h
    · next hclosing =>
      cases h
      obtain ⟨rfl, hhashes⟩ := by simpa using hclosing
      have hlength : (more.take hashes).length = hashes := by rw [hhashes, List.length_replicate]
      refine ⟨by simp, by simp [hlength], fun rest' => ?_⟩
      have htake : (more.take hashes ++ rest').take hashes = more.take hashes := List.take_left' hlength
      have hdrop : (more.take hashes ++ rest').drop hashes = rest' := List.drop_left' hlength
      rw [List.cons_append, rawBody, htake, hdrop, if_pos (by simp [hhashes])]
    · next hopen =>
      obtain ⟨⟨body', rest'⟩, hmore, hsame⟩ := Option.map_eq_some_iff.mp h
      cases hsame
      obtain ⟨rfl, hlength, hbody⟩ := ih hmore
      refine ⟨rfl, by rw [List.length_cons]; omega, fun rest' => ?_⟩
      rw [List.take_append_of_le_length (by omega)] at hopen
      rw [List.cons_append, rawBody, List.take_append_of_le_length (by omega), if_neg hopen, hbody]
      rfl

theorem rawString?_delimited {cs text rest : List Char} (h : rawString? cs = some (some (text, rest))) :
    cs = text ++ rest ∧ ∀ rest', rawString? (text ++ rest') = some (some (text, rest')) := by
  simp only [rawString?, drop_length_takeWhile] at h
  split at h
  · next more hquote =>
    obtain ⟨⟨body, rest⟩, hbody, ⟨rfl, rfl⟩⟩ := Option.map_eq_some_iff.mp (Option.some.inj h)
    obtain ⟨rfl, _, hraw⟩ := rawBody_delimited hbody
    have htext : cs = cs.takeWhile (· = '#') ++ '"' :: (body ++ rest) := by
      rw [← hquote, List.takeWhile_append_dropWhile]
    have hnone : (cs.takeWhile (· = '#')).dropWhile (· = '#') = [] :=
      List.dropWhile_eq_nil_iff.mpr fun _ => List.mem_takeWhile_imp (p := (· = '#'))
    refine ⟨by simpa using htext, fun rest' => ?_⟩
    rw [List.append_assoc, List.cons_append]
    simp only [rawString?, drop_length_takeWhile]
    rw [takeWhile_append_cons_of_neg (by decide), dropWhile_append_cons_of_neg (by decide), List.takeWhile_idem, hnone]
    simp [hraw]
  · cases h

/-- A string ends at its last quote or hash sign, whatever follows; what follows begins a token of its own. -/
theorem string?_delimited {cs text rest : List Char} (h : string? cs = some (some (text, rest))) :
    cs = text ++ rest ∧ ∀ rest', string? (text ++ rest') = some (some (text, rest')) := by
  rw [string?.eq_def] at h
  split at h
  · next more =>
    obtain ⟨⟨body, rest⟩, hbody, ⟨rfl, rfl⟩⟩ := Option.map_eq_some_iff.mp (Option.some.inj h)
    obtain ⟨rfl, _, hstring⟩ := stringBody_delimited hbody
    exact ⟨rfl, fun rest' => by simp [string?, hstring]⟩
  · next more =>
    obtain ⟨found, hfound, h⟩ := Option.map_eq_some_iff.mp h
    obtain ⟨⟨body, rest⟩, rfl, ⟨rfl, rfl⟩⟩ := Option.map_eq_some_iff.mp h
    obtain ⟨rfl, hraw⟩ := rawString?_delimited hfound
    exact ⟨rfl, fun rest' => by simp [string?, hraw]⟩
  · next c more hquote hr =>
    split at h
    · next hletter =>
      obtain ⟨⟨body, rest⟩, hbody, ⟨rfl, rfl⟩⟩ := Option.map_eq_some_iff.mp (Option.some.inj h)
      obtain ⟨rfl, _, hstring⟩ := stringBody_delimited hbody
      exact ⟨rfl, fun rest' => by simp [string?, hstring, hletter]⟩
    · cases h
  · next c more hquote hr _ =>
    split at h
    · next hletter =>
      obtain ⟨found, hfound, h⟩ := Option.map_eq_some_iff.mp h
      obtain ⟨⟨body, rest⟩, rfl, ⟨rfl, rfl⟩⟩ := Option.map_eq_some_iff.mp h
      obtain ⟨rfl, hraw⟩ := rawString?_delimited hfound
      exact ⟨rfl, fun rest' => by simp [string?, hraw, hletter]⟩
    · cases h
  · cases h

theorem charBody?_delimited {cs body rest : List Char} (h : charBody? cs = some (body, rest)) :
    cs = body ++ rest ∧ ∀ rest', charBody? (body ++ rest') = some (body, rest') := by
  rw [charBody?.eq_def] at h
  split at h
  · cases h
    exact ⟨rfl, fun _ => rfl⟩
  · next more =>
    obtain ⟨n, hescape, h⟩ := Option.bind_eq_some_iff.mp h
    split at h
    · next hclosing =>
      cases h
      obtain ⟨hsome, hbound⟩ := escapeLength?_bounds hescape
      have hmore : more.take n ++ '\'' :: rest = more := by rw [← hclosing, List.take_append_drop]
      have hlength : (more.take n).length = n := List.length_take_of_le hbound
      have hne : more.take n ≠ [] := by
        intro hnil
        rw [hnil] at hlength
        exact hsome.ne hlength
      refine ⟨by simp [hmore], fun rest' => ?_⟩
      have hescape' : escapeLength? (more.take n ++ '\'' :: rest') = some n := by
        rw [← hmore, escapeLength?_append_cons endsEscape_apostrophe hne] at hescape
        rw [escapeLength?_append_cons endsEscape_apostrophe hne, hescape]
      have htext : '\\' :: more.take n ++ ['\''] ++ rest' = '\\' :: (more.take n ++ '\'' :: rest') := by simp
      rw [htext, charBody?, hescape', Option.bind_eq_bind, Option.bind_some, List.drop_left' hlength,
        List.take_left' hlength]
      rfl
    · cases h
  · next c more hclosing hescape =>
    cases h
    exact ⟨rfl, fun rest' => by simp [charBody?]⟩
  · cases h

/-- A character literal ends at its second quote, whatever follows, and does so after one character or escape. -/
theorem char?_delimited {cs text rest : List Char} (h : char? cs = some (text, rest)) :
    cs = text ++ rest ∧ ∀ rest', char? (text ++ rest') = some (text, rest') := by
  rw [char?.eq_def] at h
  split at h
  · next more =>
    obtain ⟨⟨body, rest⟩, hbody, ⟨rfl, rfl⟩⟩ := Option.map_eq_some_iff.mp h
    obtain ⟨rfl, hchar⟩ := charBody?_delimited hbody
    exact ⟨rfl, fun rest' => by simp [char?, hchar]⟩
  · next more =>
    obtain ⟨⟨body, rest⟩, hbody, ⟨rfl, rfl⟩⟩ := Option.map_eq_some_iff.mp h
    obtain ⟨rfl, hchar⟩ := charBody?_delimited hbody
    exact ⟨rfl, fun rest' => by simp [char?, hchar]⟩
  · cases h

/-- Where a string begins no other token does. One that does not end is no token at all, so a text with an open
string cannot be read. -/
theorem token?_of_string {afterDot : Bool} {cs : List Char} {found : Option (List Char × List Char)}
    (h : string? cs = some found) :
    token? afterDot cs = found.map fun (text, rest) => (.string, text, rest) := by
  rw [token?.eq_def, h]

theorem token?_of_char {afterDot : Bool} {cs text rest : List Char} (hstring : string? cs = none)
    (h : char? cs = some (text, rest)) : token? afterDot cs = some (.char, text, rest) := by
  rw [token?.eq_def, hstring, h]

theorem numberTypeLength_le (cs : List Char) : numberTypeLength cs ≤ cs.length := by
  rw [numberTypeLength]
  refine List.foldlRecOn (motive := (· ≤ cs.length)) _ max (Nat.zero_le _) fun n hn m hm => ?_
  obtain ⟨t, ht, rfl⟩ := List.mem_map.mp hm
  have hstart : t.toList <+: cs := List.isPrefixOf_iff_prefix.mp (List.mem_filter.mp ht).2
  exact Nat.max_le.mpr ⟨hn, String.length_toList ▸ hstart.length_le⟩

/-- Digits in the base that the number begins with are counted within the text. -/
theorem digitsLength_le (cs : List Char) : digitsLength cs ≤ cs.length := by
  fun_cases digitsLength cs with
  | case1 c rest base hbase => simp
  | case2 c rest base hbase =>
    have hrun := length_takeWhile_le (isDigitOf base) rest
    simp only [List.length_cons]
    omega
  | case3 => exact length_takeWhile_le ..
  | case4 => exact length_takeWhile_le ..

theorem exponentLength_le (cs : List Char) : (exponentLength cs).1 ≤ cs.length := by
  cases cs with
  | nil => simp [exponentLength]
  | cons c rest =>
    rw [exponentLength]
    dsimp only
    generalize (if rest.head?.any fun d => d == '+' || d == '-' then 1 else 0) = signs
    have hrun := length_takeWhile_le (isDigitOf 10) (rest.drop signs)
    rw [List.length_drop] at hrun
    split_ifs
    · simp
    · rw [List.length_cons]
      omega
    · simp

theorem floatTypeLength_le (cs : List Char) : floatTypeLength cs ≤ cs.length := by
  fun_cases floatTypeLength cs with
  | case1 c rest h h' => simp
  | case2 c rest h h' =>
    have hrun := length_takeWhile_le Char.isDigit rest
    rw [List.length_cons]
    omega
  | case3 => simp
  | case4 => simp

/-- A float is no longer than the text, its exponent and the name of its type included. -/
theorem finishFloat?_le {cs : List Char} {used n : Nat} {hasFraction : Bool} (hused : used ≤ cs.length)
    (h : finishFloat? cs used hasFraction = some n) : n ≤ cs.length := by
  have hexponent := exponentLength_le (cs.drop used)
  rw [finishFloat?] at h
  dsimp only at h
  split at h
  · cases h
    exact hused
  · split at h
    · cases h
      have htype := floatTypeLength_le (cs.drop (used + (exponentLength (cs.drop used)).1))
      rw [List.length_drop] at hexponent htype
      omega
    · cases h

theorem floatLength?_le {cs : List Char} {n : Nat} (h : floatLength? cs = some n) : n ≤ cs.length := by
  have hwhole := length_takeWhile_le (isDigitOf 10) cs
  rw [floatLength?] at h
  dsimp only at h
  split at h
  · next rest hpoint =>
    split at h
    · cases h
    · refine finishFloat?_le ?_ h
      have hlength := congrArg List.length hpoint
      have hfraction := length_takeWhile_le (isDigitOf 10) rest
      rw [List.length_drop, List.length_cons] at hlength
      omega
  · exact finishFloat?_le hwhole h

theorem digits_pos {c : Char} (hc : c.isDigit = true) (rest : List Char) :
    0 < ((c :: rest).takeWhile (isDigitOf 10)).length := by
  have hdigit : isDigitOf 10 c = true := by
    simp only [Char.isDigit, Bool.and_eq_true, decide_eq_true_eq] at hc
    obtain ⟨hlow, hhigh⟩ := hc
    have hlow' : '0' ≤ c := hlow
    have hhigh' : c.toNat < 58 := Nat.lt_succ_of_le hhigh
    simp [isDigitOf, hlow', hhigh']
  simp [hdigit]

theorem digitsLength_pos {c : Char} (hc : c.isDigit = true) (rest : List Char) : 0 < digitsLength (c :: rest) := by
  have hdecimal := digits_pos hc rest
  generalize hcs : c :: rest = cs at *
  fun_cases digitsLength cs with
  | case1 => exact Nat.one_pos
  | case2 => omega
  | case3 => exact hdecimal
  | case4 => exact hdecimal

theorem finishFloat?_pos {cs : List Char} {used n : Nat} {hasFraction : Bool} (hused : 0 < used)
    (h : finishFloat? cs used hasFraction = some n) : 0 < n := by
  rw [finishFloat?] at h
  dsimp only at h
  split at h
  · cases h
    exact hused
  · split at h
    · cases h
      omega
    · cases h

theorem floatLength?_pos {c : Char} (hc : c.isDigit = true) {rest : List Char} {n : Nat}
    (h : floatLength? (c :: rest) = some n) : 0 < n := by
  have hwhole := digits_pos hc rest
  rw [floatLength?] at h
  dsimp only at h
  split at h
  · split at h
    · cases h
    · exact finishFloat?_pos (by omega) h
  · exact finishFloat?_pos hwhole h

/-- A word is a first part of the text and not empty; this holds of raw words with their prefix as well. -/
theorem word?_split {cs text rest : List Char} (h : word? cs = some (text, rest)) : cs = text ++ rest ∧ text ≠ [] := by
  rw [word?.eq_def] at h
  split at h
  · split at h
    · cases h
      simp [List.takeWhile_append_dropWhile]
    · cases h
      simp
  · split at h
    · cases h
      simp [List.takeWhile_append_dropWhile]
    · cases h
  · cases h

theorem metavariable?_split {cs name rest : List Char} (h : metavariable? cs = some (name, rest)) :
    cs = name ++ rest := by
  rw [ metavariable?.eq_def] at h
  split at h
  · split at h
    · cases h
      simp [List.takeWhile_append_dropWhile]
    · cases h
  · cases h

/-- A number is a first part of the text and not empty, whichever kind of number it is. -/
theorem number_split (afterDot : Bool) {c : Char} (hc : c.isDigit = true) {rest text more : List Char}
    {kind : TokenKind} (h : number afterDot (c :: rest) = (kind, text, more)) :
    c :: rest = text ++ more ∧ text ≠ [] := by
  have hinteger := digitsLength_pos hc rest
  have htake {n : Nat} (hn : 0 < n) : (c :: rest).take n ≠ [] := by
    obtain ⟨n, rfl⟩ := Nat.exists_eq_add_one_of_ne_zero hn.ne'
    simp
  rw [number] at h
  split at h
  · next n hfloat =>
    have hn : 0 < n := by
      split at hfloat
      · cases hfloat
      · exact floatLength?_pos hc hfloat
    cases h
    exact ⟨(List.take_append_drop ..).symm, htake hn⟩
  · cases h
    exact ⟨(List.take_append_drop ..).symm, htake (by rw [integerLength]; omega)⟩

/-- A token takes what stands at the front, and at least one character of it. So the text is what it takes and
what it leaves, and reading comes to an end. -/
theorem token?_split {afterDot : Bool} {cs text rest : List Char} {kind : TokenKind}
    (h : token? afterDot cs = some (kind, text, rest)) : cs = text ++ rest ∧ text ≠ [] := by
  cases readsToken h with
  | string hstring =>
    obtain ⟨hsplit, hread⟩ := string?_delimited hstring
    refine ⟨hsplit, ?_⟩
    rintro rfl
    cases hread []
  | char hchar =>
    obtain ⟨hsplit, hread⟩ := char?_delimited hchar
    refine ⟨hsplit, ?_⟩
    rintro rfl
    cases hread []
  | word hword => exact word?_split hword
  | number hdigit hnumber => exact number_split afterDot hdigit hnumber
  | metavariable hname => exact ⟨by rw [metavariable?_split hname, List.cons_append], List.cons_ne_nil _ _⟩
  | punctuation => exact ⟨rfl, List.cons_ne_nil _ _⟩

end ClassDiagram.Rust.Lexer
