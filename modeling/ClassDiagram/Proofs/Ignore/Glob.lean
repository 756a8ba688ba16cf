import ClassDiagram.Ignore.Glob
import Mathlib.Data.List.Basic

namespace ClassDiagram.Glob

/-- The steps match the whole text. -/
def Matches (steps : List GlobStep) (text : List Char) : Prop :=
  (matchSuffixes steps text).headD false = true

/-- The answers for the suffixes of the steps are those of the steps without their first. The matcher works on
all suffixes at once, and this lets its answers be told one by one. -/
theorem tail_matchSuffixes (step : GlobStep) (steps : List GlobStep) (text : List Char) :
    (matchSuffixes (step :: steps) text).tail = matchSuffixes steps text := by
  induction text with
  | nil => rfl
  | cons c text ih => rw [matchSuffixes, matchCons, List.tail_cons, ih, matchSuffixes]

theorem matches_nil_iff (text : List Char) : Matches [] text ↔ text = [] := by
  cases text <;> simp [Matches, matchSuffixes, matchEmpty, matchCons]

theorem matches_anyChars_nil (steps : List GlobStep) : Matches (.anyChars :: steps) [] ↔ Matches steps [] := by
  simp [Matches, matchSuffixes, matchEmpty]

/-- A star stands for nothing, or takes one more character and remains. The matcher decides between the two by
trying both. -/
theorem matches_anyChars_cons (steps : List GlobStep) (c : Char) (text : List Char) :
    Matches (.anyChars :: steps) (c :: text) ↔ Matches steps (c :: text) ∨ Matches (.anyChars :: steps) text := by
  have hrest : matchCons c steps (matchSuffixes (.anyChars :: steps) text).tail = matchSuffixes steps (c :: text) := by
    rw [tail_matchSuffixes, matchSuffixes]
  rw [Matches, matchSuffixes, matchCons, hrest]
  simp [Matches]

theorem matches_char_nil (d : Char) (steps : List GlobStep) : ¬ Matches (.char d :: steps) [] := by
  simp [Matches, matchSuffixes, matchEmpty]

theorem matches_char_cons (d : Char) (steps : List GlobStep) (c : Char) (text : List Char) :
    Matches (.char d :: steps) (c :: text) ↔ c = d ∧ Matches steps text := by
  rw [Matches, matchSuffixes, matchCons, tail_matchSuffixes]
  simp [Matches, takes]

/-- A star stands for any text, slashes included. A glob for whole paths is therefore not confined to one
directory. -/
theorem matches_anyChars_iff (steps : List GlobStep) (text : List Char) :
    Matches (.anyChars :: steps) text ↔ ∃ before after, text = before ++ after ∧ Matches steps after := by
  induction text with
  | nil => simp [matches_anyChars_nil]
  | cons c text ih =>
    rw [matches_anyChars_cons, ih]
    constructor
    · rintro (hhere | ⟨before, after, rfl, hafter⟩)
      · exact ⟨[], c :: text, rfl, hhere⟩
      · exact ⟨c :: before, after, rfl, hafter⟩
    · rintro ⟨before, after, htext, hafter⟩
      cases before with
      | nil => exact .inl (by rw [htext]; exact hafter)
      | cons first before =>
        obtain ⟨rfl, rfl⟩ := List.cons.inj htext
        exact .inr ⟨before, after, rfl, hafter⟩

theorem matches_char_iff (d : Char) (steps : List GlobStep) (text : List Char) :
    Matches (.char d :: steps) text ↔ ∃ rest, text = d :: rest ∧ Matches steps rest := by
  cases text with
  | nil => simp [matches_char_nil]
  | cons c text =>
    rw [matches_char_cons]
    constructor
    · rintro ⟨rfl, hrest⟩
      exact ⟨text, rfl, hrest⟩
    · rintro ⟨rest, htext, hrest⟩
      obtain ⟨rfl, rfl⟩ := List.cons.inj htext
      exact ⟨rfl, hrest⟩

/-- Steps that are all characters match the one text that is made of them. -/
theorem matches_chars_iff (chars text : List Char) : Matches (chars.map .char) text ↔ text = chars := by
  induction chars generalizing text with
  | nil => rw [List.map_nil, matches_nil_iff]
  | cons c chars ih =>
    rw [List.map_cons, matches_char_iff]
    constructor
    · rintro ⟨rest, rfl, hrest⟩
      rw [(ih rest).mp hrest]
    · rintro rfl
      exact ⟨chars, rfl, (ih chars).mpr rfl⟩

/-- A glob accepts a name if its steps match all of it; a part is not enough. -/
theorem accepts_iff_matches (pattern name : String) :
    accepts pattern name = true ↔ Matches (parse pattern) name.toList :=
  Iff.rfl

/-- The text has no character that stands for others in a glob. -/
def IsPlain (text : String) : Prop :=
  '*' ∉ text.toList ∧ '?' ∉ text.toList ∧ '[' ∉ text.toList

instance (text : String) : Decidable (IsPlain text) :=
  inferInstanceAs (Decidable (_ ∧ _ ∧ _))

/-- Without a star, a question mark and an opening bracket every character is a step of its own. A closing
bracket or an exclamation mark means nothing by itself. -/
theorem parseFrom_of_plain {cs : List Char} (hstar : '*' ∉ cs) (hmark : '?' ∉ cs) (hbracket : '[' ∉ cs) :
    parseFrom cs.length cs = cs.map .char := by
  induction cs with
  | nil => rfl
  | cons c cs ih =>
    rw [List.mem_cons, not_or] at hstar hmark hbracket
    rw [List.length_cons, parseFrom, if_neg (Ne.symm hstar.1), if_neg (Ne.symm hmark.1),
      if_neg (Ne.symm hbracket.1), ih hstar.2 hmark.2 hbracket.2, List.map_cons]

/-- A plain text as a glob matches itself and nothing else, whatever characters without a meaning of their own
it has. -/
theorem accepts_plain_iff {pattern : String} (hplain : IsPlain pattern) (name : String) :
    accepts pattern name = true ↔ name = pattern := by
  obtain ⟨hstar, hmark, hbracket⟩ := hplain
  rw [accepts_iff_matches, parse, parseFrom_of_plain hstar hmark hbracket, matches_chars_iff, String.toList_inj]

/-- Behind two stars and a slash a glob is matched against what follows any slash. The slash must be there, so a
path with no slash in it is never accepted; and what follows may hold more slashes, which the stars of the glob
can take. -/
theorem accepts_starsSlash_iff (glob path : String) :
    accepts ("**/" ++ glob) path = true ↔
      ∃ before after, path.toList = before ++ '/' :: after ∧ accepts glob (String.ofList after) = true := by
  have hparse : parse ("**/" ++ glob) = .anyChars :: .anyChars :: .char '/' :: parse glob := by
    simp [parse, parseFrom]
  simp only [accepts_iff_matches, hparse, matches_anyChars_iff, matches_char_iff, String.toList_ofList]
  constructor
  · rintro ⟨first, _, hpath, second, _, rfl, after, rfl, hafter⟩
    exact ⟨first ++ second, after, by rw [hpath, List.append_assoc], hafter⟩
  · rintro ⟨before, after, hpath, hafter⟩
    exact ⟨before, _, hpath, [], _, rfl, after, rfl, hafter⟩

end ClassDiagram.Glob
