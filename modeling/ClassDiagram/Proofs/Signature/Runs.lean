import ClassDiagram.Proofs.Build.Shape

namespace ClassDiagram.Signature

open Text (BlankFree)

variable {isCut : Char → Bool} {first rest run : List Char} {cut : Char} {start : Nat}

/-- Characters in a row, none of them a cut, that cannot be made more at either end; `start` of the text's
characters stand before them. -/
inductive IsMaximalRun (isCut : Char → Bool) (text : List Char) : Nat → List Char → Prop
  | intro {before run after : List Char} (htext : text = before ++ run ++ after) (hne : run ≠ [])
      (huncut : ∀ c ∈ run, isCut c = false) (hopened : ∀ c ∈ before.getLast?, isCut c = true)
      (hclosed : ∀ c ∈ after.head?, isCut c = true) : IsMaximalRun isCut text before.length run

/-- All maximal runs of a text, in order, and nothing else. -/
def AreMaximalRuns (isCut : Char → Bool) (text : List Char) (pieces : List (List Char)) : Prop :=
  ∃ runs : List (Nat × List Char), pieces = runs.map (·.2) ∧ runs.Pairwise (·.1 < ·.1) ∧
    ∀ start run, (start, run) ∈ runs ↔ IsMaximalRun isCut text start run

/-- A run holds at least one character; between two delimiters in a row there is none. -/
theorem IsMaximalRun.ne_nil {text : List Char} (hrun : IsMaximalRun isCut text start run) : run ≠ [] := by
  obtain ⟨_, hne, _, _, _⟩ := hrun
  exact hne

/-- Where the first cut of a text is, no other one can be. So the piece in front of it is determined by the
text. -/
theorem uncut_eq_of_append_eq {piece piece' after after' : List Char} (hpiece : ∀ c ∈ piece, isCut c = false)
    (hafter : ∀ c ∈ after.head?, isCut c = true) (hpiece' : ∀ c ∈ piece', isCut c = false)
    (hafter' : ∀ c ∈ after'.head?, isCut c = true) (htext : piece ++ after = piece' ++ after') : piece = piece' := by
  have huncut {piece after : List Char} (hpiece : ∀ c ∈ piece, isCut c = false)
      (hafter : ∀ c ∈ after.head?, isCut c = true) : (piece ++ after).takeWhile (fun c => !isCut c) = piece := by
    rw [List.takeWhile_append_of_pos (by simpa using hpiece)]
    cases after with
    | nil => simp
    | cons c after => simp [hafter c rfl]
  rw [← huncut hpiece hafter, htext, huncut hpiece' hafter']

/-- A run is the piece that the text begins with, or it begins behind the cut that ends this piece. Inductions
on texts go from cut to cut in this way. -/
theorem IsMaximalRun.first_or_behind (hfirst : ∀ c ∈ first, isCut c = false)
    (hrest : ∀ c ∈ rest.head?, isCut c = true) (hrun : IsMaximalRun isCut (first ++ rest) start run) :
    (start = 0 ∧ run = first) ∨
      ∃ cut more later, rest = cut :: more ∧ start = first.length + 1 + later ∧
        IsMaximalRun isCut more later run := by
  obtain @⟨before, run, after, htext, hne, huncut, hopened, hclosed⟩ := hrun
  rw [List.append_assoc, List.append_eq_append_iff] at htext
  obtain ⟨beyond, rfl, rfl⟩ | ⟨inside, rfl, hinside⟩ := htext
  · cases beyond with
    | nil =>
      obtain ⟨c, run, rfl⟩ := List.exists_cons_of_ne_nil hne
      have hcut := hrest c (by simp)
      simp [huncut c List.mem_cons_self] at hcut
    | cons cut beyond =>
      refine .inr ⟨cut, _, beyond.length, rfl, by simp; omega, ?_⟩
      refine .intro (List.append_assoc ..).symm hne huncut ?_ hclosed
      intro c hc
      apply hopened c
      rw [List.getLast?_append_cons, List.getLast?_cons]
      simp [Option.mem_def.mp hc]
  · refine .inl ?_
    -- A run that begins inside the piece begins with it, since only cuts stand before runs.
    obtain rfl : before = [] := by
      obtain rfl | ⟨init, last, rfl⟩ := List.eq_nil_or_concat before
      · rfl
      · have hlast := hopened last (by simp)
        simp [hfirst last (by simp)] at hlast
    exact ⟨rfl, uncut_eq_of_append_eq huncut hclosed hfirst hrest hinside⟩

/-- The piece in front of the first cut is a run, unless it is empty. -/
theorem isMaximalRun_first (hne : first ≠ []) (hfirst : ∀ c ∈ first, isCut c = false)
    (hrest : ∀ c ∈ rest.head?, isCut c = true) : IsMaximalRun isCut (first ++ rest) 0 first := by
  have htext : first ++ rest = [] ++ first ++ rest := rfl
  exact .intro htext hne hfirst (by simp) hrest

/-- A run of the text behind a cut is one of the whole text, further on by what is in front. -/
theorem IsMaximalRun.behind (hcut : isCut cut = true) (first : List Char)
    (hrun : IsMaximalRun isCut rest start run) :
    IsMaximalRun isCut (first ++ cut :: rest) (first.length + 1 + start) run := by
  obtain @⟨before, run, after, htext, hne, huncut, hopened, hclosed⟩ := hrun
  have hlength : first.length + 1 + before.length = (first ++ cut :: before).length := by
    simp
    omega
  rw [hlength]
  refine .intro (by simp [htext]) hne huncut ?_ hclosed
  intro c hc
  rw [List.getLast?_append_cons, List.getLast?_cons] at hc
  cases hlast : before.getLast? with
  | none =>
    rw [hlast] at hc
    cases hc
    exact hcut
  | some d =>
    rw [hlast] at hc
    cases hc
    exact hopened d hlast

/-- A text falls at a cut into two, which are cut each on its own. -/
theorem splitAt_append_cut (hcut : isCut cut = true) (first rest : List Char) :
    splitAt isCut (first ++ cut :: rest) = splitAt isCut first ++ splitAt isCut rest := by
  induction first with
  | nil =>
    obtain ⟨piece, pieces, hrest, hsplit⟩ := splitAt_cons isCut cut rest
    rw [List.nil_append, hsplit, if_pos hcut, hrest]
    rfl
  | cons c first ih =>
    obtain ⟨piece, pieces, hfirst, hsplit⟩ := splitAt_cons isCut c first
    rw [hfirst, List.cons_append] at ih
    rw [List.cons_append, splitAt, ih, hsplit]
    by_cases hc : isCut c = true <;> simp [hc]

theorem eq_uncut_or_append_cut (isCut : Char → Bool) (text : List Char) :
    (∀ c ∈ text, isCut c = false) ∨ ∃ first cut rest, text = first ++ cut :: rest ∧
      (∀ c ∈ first, isCut c = false) ∧ isCut cut = true := by
  induction text with
  | nil => exact .inl (by simp)
  | cons c text ih =>
    cases hc : isCut c with
    | true => exact .inr ⟨[], c, text, rfl, by simp, hc⟩
    | false =>
      obtain huncut | ⟨first, cut, rest, rfl, hfirst, hcut⟩ := ih
      · exact .inl (by simpa [hc] using huncut)
      · exact .inr ⟨c :: first, cut, rest, rfl, by simpa [hc] using hfirst, hcut⟩

/-- The piece that a text begins with, if it holds anything. -/
def firstRun (first : List Char) : List (Nat × List Char) :=
  if first = [] then [] else [(0, first)]

theorem mem_firstRun : (start, run) ∈ firstRun first ↔ first ≠ [] ∧ start = 0 ∧ run = first := by
  rw [firstRun]
  split <;> simp_all

theorem firstRun_pairwise (first : List Char) : (firstRun first).Pairwise (·.1 < ·.1) := by
  rw [firstRun]
  split <;> simp

theorem map_firstRun (first : List Char) : (firstRun first).map (·.2) = [first].filter (· ≠ []) := by
  rw [firstRun]
  split <;> simp_all

theorem areMaximalRuns_of_uncut (hfirst : ∀ c ∈ first, isCut c = false) :
    AreMaximalRuns isCut first ([first].filter (· ≠ [])) := by
  refine ⟨firstRun first, (map_firstRun first).symm, firstRun_pairwise first, fun start run => ?_⟩
  rw [mem_firstRun]
  constructor
  · rintro ⟨hne, rfl, rfl⟩
    have hrun : IsMaximalRun isCut (run ++ []) 0 run := isMaximalRun_first hne hfirst (by simp)
    rwa [List.append_nil] at hrun
  · intro hrun
    have hwhole : IsMaximalRun isCut (first ++ []) start run := by rwa [List.append_nil]
    obtain ⟨rfl, rfl⟩ | ⟨_, _, _, hcons, _⟩ := hwhole.first_or_behind hfirst (by simp)
    · exact ⟨hrun.ne_nil, rfl, rfl⟩
    · cases hcons

/-- The pieces of a text that hold anything are its maximal runs, in order and with nothing else. By induction
on the length of the text, from one cut to what is behind it. -/
theorem areMaximalRuns_splitAt (isCut : Char → Bool) (text : List Char) :
    AreMaximalRuns isCut text ((splitAt isCut text).filter (· ≠ [])) := by
  induction hlength : text.length using Nat.strongRecOn generalizing text with
  | ind length ih =>
    obtain huncut | ⟨first, cut, rest, rfl, hfirst, hcut⟩ := eq_uncut_or_append_cut isCut text
    · rw [splitAt_eq_singleton huncut]
      exact areMaximalRuns_of_uncut huncut
    · have hshorter : rest.length < length := by
        rw [← hlength, List.length_append, List.length_cons]
        omega
      obtain ⟨runs, hpieces, hsorted, hruns⟩ := ih rest.length hshorter rest rfl
      refine ⟨firstRun first ++ runs.map fun r => (first.length + 1 + r.1, r.2), ?_, ?_, fun start run => ?_⟩
      · rw [splitAt_append_cut hcut, splitAt_eq_singleton hfirst, List.filter_append, hpieces, List.map_append,
          map_firstRun, List.map_map]
        rfl
      · rw [List.pairwise_append]
        refine ⟨firstRun_pairwise first, List.pairwise_map.mpr (hsorted.imp fun hlt => by simpa using hlt), ?_⟩
        rintro ⟨start, run⟩ hmem other hother
        obtain ⟨_, rfl, _⟩ := mem_firstRun.mp hmem
        obtain ⟨later, _, rfl⟩ := List.mem_map.mp hother
        simp only
        omega
      · rw [List.mem_append, mem_firstRun, List.mem_map]
        constructor
        · rintro (⟨hne, rfl, rfl⟩ | ⟨⟨later, behind⟩, hmem, hsame⟩)
          · exact isMaximalRun_first hne hfirst (by simpa using hcut)
          · cases hsame
            exact ((hruns later behind).mp hmem).behind hcut first
        · intro hrun
          obtain ⟨rfl, rfl⟩ | ⟨_, _, later, hcons, rfl, hbehind⟩ :=
            hrun.first_or_behind hfirst (by simpa using hcut)
          · exact .inl ⟨hrun.ne_nil, rfl, rfl⟩
          · cases hcons
            exact .inr ⟨(later, run), (hruns later run).mpr hbehind, rfl⟩

/-- Characters that are no cuts can be dropped before the text is cut or after. Blanks are such characters where
delimiters are the cuts. -/
theorem splitAt_filter {keeps : Char → Bool} (hkeeps : ∀ c, isCut c = true → keeps c = true) (text : List Char) :
    splitAt isCut (text.filter keeps) = (splitAt isCut text).map (·.filter keeps) := by
  induction text with
  | nil => rfl
  | cons c text ih =>
    obtain ⟨piece, pieces, htext, hsplit⟩ := splitAt_cons isCut c text
    rw [htext, List.map_cons] at ih
    rw [hsplit, List.filter_cons]
    cases hc : isCut c with
    | true => simp [hkeeps c hc, splitAt, ih, hc]
    | false => cases hkept : keeps c <;> simp [hkept, splitAt, ih, hc]

theorem not_isBlank_of_isDelimiter {c : Char} (hc : isDelimiter c = true) : Text.isBlank c = false := by
  simp only [isDelimiter, Bool.or_eq_true, beq_iff_eq] at hc
  obtain (rfl | rfl) | rfl := hc <;> decide

/-- The tokens are the pieces of the canonical form. They are found the other way round, by cutting first and
dropping blanks in each piece. -/
theorem tokens_eq_map_splitAt (text : String) :
    tokens text = ((splitAt isDelimiter (canonical text).toList).filter (· ≠ [])).map String.ofList := by
  have hpieces : splitAt isDelimiter (canonical text).toList =
      (splitAt isDelimiter text.toList).map (·.filter fun c => !Text.isBlank c) := by
    rw [canonical, Text.dropBlanks, String.toList_ofList]
    exact splitAt_filter (fun c hc => by simp [not_isBlank_of_isDelimiter hc]) _
  rw [hpieces, tokens]
  simp only [canonical, Text.dropBlanks, String.toList_ofList, List.filter_map, List.map_map]
  congr 2
  funext piece
  simp

theorem tokens_canonical (text : String) : tokens (canonical text) = tokens text := by
  rw [tokens_eq_map_splitAt, canonical_canonical, ← tokens_eq_map_splitAt]

/-- The tokens of two texts with a delimiter between them are those of the one and then those of the other. -/
theorem tokens_append_delimiter {delimiter : Char} (hdelimiter : isDelimiter delimiter = true)
    (first rest : String) :
    tokens (first ++ String.singleton delimiter ++ rest) = tokens first ++ tokens rest := by
  simp [tokens, splitAt_append_cut hdelimiter]

/-- A text without delimiters is one piece, which gives one token or none if it is blank. -/
theorem length_tokens_of_not_isCompound {text : String} (hsimple : isCompound text = false) :
    (tokens text).length ≤ 1 := by
  have huncut : ∀ c ∈ text.toList, isDelimiter c = false := by simpa [isCompound] using hsimple
  rw [tokens, splitAt_eq_singleton huncut]
  exact List.length_filter_le _ _

/-- The tokens of a signature are the maximal runs of its canonical form that no delimiter interrupts. So they are
those of the canonical form itself; a token is a text without blanks and delimiters and its own only token; the
tokens of two signatures with a delimiter between them are those of both; and only a compound signature has more
than one. -/
theorem tokens_areMaximalRuns (text : String) :
    (∃ runs, AreMaximalRuns isDelimiter (canonical text).toList runs ∧ tokens text = runs.map String.ofList) ∧
      tokens text = tokens (canonical text) ∧
      (∀ token ∈ tokens text,
        token ≠ "" ∧ BlankFree token ∧ ¬ HasDelimiter token ∧ tokens token = [token]) ∧
      (∀ delimiter, isDelimiter delimiter = true → ∀ more : String,
        tokens (text ++ String.singleton delimiter ++ more) = tokens text ++ tokens more) ∧
      (isCompound text = false → (tokens text).length ≤ 1) := by
  refine ⟨⟨_, areMaximalRuns_splitAt _ _, tokens_eq_map_splitAt text⟩, (tokens_canonical text).symm,
    fun token htoken => ?_, fun delimiter hdelimiter more => tokens_append_delimiter hdelimiter text more,
    length_tokens_of_not_isCompound⟩
  have hundivided : ¬ HasDelimiter token := by
    rw [← isCompound_iff, isCompound, List.any_eq_true]
    rintro ⟨c, hc, hcut⟩
    exact absurd hcut (by simp [not_isDelimiter_of_mem_tokens htoken c hc])
  exact ⟨(mem_tokens.mp htoken).1, tokens_blankFree htoken, hundivided, tokens_of_mem_tokens htoken⟩

end ClassDiagram.Signature
