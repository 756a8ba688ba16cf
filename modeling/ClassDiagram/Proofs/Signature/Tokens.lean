import ClassDiagram.Signature

namespace ClassDiagram.Text

/-- A text without any blank. -/
def BlankFree (s : String) : Prop :=
  ∀ c ∈ s.toList, isBlank c = false

theorem dropBlanks_blankFree (s : String) : BlankFree (dropBlanks s) := by
  intro c hc
  have hkept : c ∈ s.toList.filter fun d => !isBlank d := by simpa [dropBlanks] using hc
  simpa using (List.mem_filter.mp hkept).2

theorem dropBlanks_eq_self {s : String} (hs : BlankFree s) : dropBlanks s = s := by
  have hkept : s.toList.filter (fun c => !isBlank c) = s.toList := by
    rw [List.filter_eq_self]
    intro c hc
    simp [hs c hc]
  rw [dropBlanks, hkept, String.ofList_toList]

end ClassDiagram.Text

namespace ClassDiagram.Signature

open Text (BlankFree)

theorem canonical_blankFree (text : String) : BlankFree (canonical text) :=
  Text.dropBlanks_blankFree text

theorem canonical_eq_self {text : String} (htext : BlankFree text) : canonical text = text :=
  Text.dropBlanks_eq_self htext

/-- The canonical form is canonical, so types can be brought into it more than once. -/
theorem canonical_canonical (text : String) : canonical (canonical text) = canonical text :=
  canonical_eq_self (canonical_blankFree text)

theorem splitAt_ne_nil (isCut : Char → Bool) (cs : List Char) : splitAt isCut cs ≠ [] := by
  cases cs with
  | nil => simp [splitAt]
  | cons c rest =>
    rw [splitAt]
    split
    · simp
    · split <;> simp

/-- Cutting in front of a character either opens a new piece or makes the first piece longer. -/
theorem splitAt_cons (isCut : Char → Bool) (c : Char) (rest : List Char) :
    ∃ piece pieces, splitAt isCut rest = piece :: pieces ∧
      splitAt isCut (c :: rest) = if isCut c then [] :: piece :: pieces else (c :: piece) :: pieces := by
  obtain ⟨piece, pieces, hrest⟩ := List.exists_cons_of_ne_nil (splitAt_ne_nil isCut rest)
  exact ⟨piece, pieces, hrest, by simp only [splitAt, hrest]⟩

theorem splitAt_eq_singleton {isCut : Char → Bool} {cs : List Char} (hcs : ∀ c ∈ cs, isCut c = false) :
    splitAt isCut cs = [cs] := by
  induction cs with
  | nil => rfl
  | cons c rest ih =>
    have hrest := ih fun d hd => hcs d (List.mem_cons_of_mem c hd)
    simp [splitAt, hrest, hcs c List.mem_cons_self]

theorem not_isCut_of_mem_splitAt {isCut : Char → Bool} {cs piece : List Char}
    (hpiece : piece ∈ splitAt isCut cs) : ∀ c ∈ piece, isCut c = false := by
  induction cs generalizing piece with
  | nil =>
    have hempty : piece = [] := by simpa [splitAt] using hpiece
    simp [hempty]
  | cons c rest ih =>
    obtain ⟨first, pieces, hrest, hsplit⟩ := splitAt_cons isCut c rest
    rw [hrest] at ih
    rw [hsplit] at hpiece
    by_cases hcut : isCut c
    · rw [if_pos hcut] at hpiece
      rcases List.mem_cons.mp hpiece with rfl | hmem
      · simp
      · exact ih hmem
    · rw [if_neg hcut] at hpiece
      rcases List.mem_cons.mp hpiece with rfl | hmem
      · intro d hd
        rcases List.mem_cons.mp hd with rfl | hd
        · simpa using hcut
        · exact ih List.mem_cons_self d hd
      · exact ih (List.mem_cons_of_mem first hmem)

/-- A token is the canonical form of a piece between delimiters, and holds at least one character. -/
theorem mem_tokens {token text : String} :
    token ∈ tokens text ↔
      token ≠ "" ∧ ∃ piece ∈ splitAt isDelimiter text.toList, token = canonical (String.ofList piece) := by
  simp only [tokens, List.mem_filter, List.mem_map, decide_eq_true_eq]
  constructor
  · rintro ⟨⟨piece, hpiece, rfl⟩, hne⟩
    exact ⟨hne, piece, hpiece, rfl⟩
  · rintro ⟨hne, piece, hpiece, rfl⟩
    exact ⟨⟨piece, hpiece, rfl⟩, hne⟩

theorem tokens_blankFree {token text : String} (htoken : token ∈ tokens text) : BlankFree token := by
  obtain ⟨_, piece, _, rfl⟩ := mem_tokens.mp htoken
  exact canonical_blankFree _

/-- Dropping blanks puts no delimiter into a piece, so a token has none either. -/
theorem not_isDelimiter_of_mem_tokens {token text : String} (htoken : token ∈ tokens text) :
    ∀ c ∈ token.toList, isDelimiter c = false := by
  obtain ⟨_, piece, hpiece, rfl⟩ := mem_tokens.mp htoken
  intro c hc
  have hmem : c ∈ piece.filter fun c => !Text.isBlank c := by
    simpa [canonical, Text.dropBlanks] using hc
  exact not_isCut_of_mem_splitAt hpiece c (List.mem_filter.mp hmem).1

/-- A text without blanks and delimiters is its own only token. Names of structs are such texts. -/
theorem tokens_eq_singleton {text : String} (hne : text ≠ "") (hblank : BlankFree text)
    (hdelimiter : ∀ c ∈ text.toList, isDelimiter c = false) : tokens text = [text] := by
  rw [tokens, splitAt_eq_singleton hdelimiter]
  simp [String.ofList_toList, canonical_eq_self hblank, hne]

/-- Tokens cannot be taken apart any further, since they hold neither a blank nor a delimiter. An edge may thus
be found for the type or for one of its tokens in the same way. -/
theorem tokens_of_mem_tokens {token text : String} (htoken : token ∈ tokens text) :
    tokens token = [token] := by
  obtain ⟨hne, _⟩ := mem_tokens.mp htoken
  exact tokens_eq_singleton hne (tokens_blankFree htoken) (not_isDelimiter_of_mem_tokens htoken)

end ClassDiagram.Signature
