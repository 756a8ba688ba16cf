import ClassDiagram.Ignore.Rule
import Mathlib.Data.List.Basic

namespace ClassDiagram

namespace Text

/-- There is no blank at either end. -/
def HasBareEnds (cs : List Char) : Prop :=
  (∀ c ∈ cs.head?, isBlank c = false) ∧ ∀ c ∈ cs.getLast?, isBlank c = false

theorem dropLeadingBlanks_suffix (cs : List Char) : dropLeadingBlanks cs <:+ cs :=
  List.dropWhile_suffix isBlank

theorem dropLeadingBlanks_eq_self_iff {cs : List Char} :
    dropLeadingBlanks cs = cs ↔ ∀ c ∈ cs.head?, isBlank c = false := by
  cases cs with
  | nil => simp [dropLeadingBlanks]
  | cons c cs =>
    cases hc : isBlank c with
    | false => simp [dropLeadingBlanks, hc]
    | true =>
      have hshorter : dropLeadingBlanks (c :: cs) = dropLeadingBlanks cs := by
        rw [dropLeadingBlanks, List.dropWhile_cons_of_pos hc, dropLeadingBlanks]
      have hne : dropLeadingBlanks (c :: cs) ≠ c :: cs := by
        intro hsame
        have hlength := (dropLeadingBlanks_suffix cs).length_le
        rw [← hshorter, hsame, List.length_cons] at hlength
        omega
      simp [hne, hc]

/-- Nothing is taken off a text exactly where there is nothing to take off, at neither end. -/
theorem stripChars_eq_self_iff {cs : List Char} : stripChars cs = cs ↔ HasBareEnds cs := by
  have hreversed : (∀ c ∈ cs.reverse.head?, isBlank c = false) ↔ ∀ c ∈ cs.getLast?, isBlank c = false := by
    rw [List.head?_reverse]
  rw [HasBareEnds, ← hreversed, ← dropLeadingBlanks_eq_self_iff, ← dropLeadingBlanks_eq_self_iff, stripChars]
  constructor
  · intro hstrip
    have hfront : dropLeadingBlanks cs = cs := by
      refine (dropLeadingBlanks_suffix cs).eq_of_length_le ?_
      calc cs.length = (dropLeadingBlanks (dropLeadingBlanks cs).reverse).length := by
            simpa using congrArg List.length hstrip.symm
        _ ≤ (dropLeadingBlanks cs).length := by
            simpa using (dropLeadingBlanks_suffix (dropLeadingBlanks cs).reverse).length_le
    rw [hfront, List.reverse_eq_iff] at hstrip
    exact ⟨hfront, hstrip⟩
  · rintro ⟨hfront, hback⟩
    rw [hfront, hback, List.reverse_reverse]

theorem strip_eq_self_iff {text : String} : strip text = text ↔ HasBareEnds text.toList := by
  rw [← stripChars_eq_self_iff, strip, ← String.toList_inj, String.toList_ofList]

end Text

namespace IgnoreRule

/-- A pattern: a text, perhaps with a slash in front of it or behind it. -/
def marked (core : String) (front back : Bool) : String :=
  (if front then "/" else "") ++ core ++ if back then "/" else ""

/-- The text of a pattern between its marks: it has no blank and no slash at either end. -/
structure IsCore (core : String) : Prop where
  ne_empty : core ≠ ""
  isStripped : Text.strip core = core
  noSlashFirst : core.toList.head? ≠ some '/'
  noSlashLast : core.toList.getLast? ≠ some '/'

theorem toList_marked (core : String) (front back : Bool) :
    (marked core front back).toList =
      (if front then ['/'] else []) ++ core.toList ++ if back then ['/'] else [] := by
  cases front <;> cases back <;> simp [marked]

variable {core : String}

/-- A pattern without any text is no pattern, so there is something between the marks. -/
theorem IsCore.toList_ne_nil (hcore : IsCore core) : core.toList ≠ [] :=
  mt String.toList_eq_nil_iff.mp hcore.ne_empty

/-- A slash is no blank, so nothing is taken off a pattern either, with or without slashes at its ends. -/
theorem IsCore.stripChars_marked (hcore : IsCore core) (front back : Bool) :
    Text.stripChars (marked core front back).toList = (marked core front back).toList := by
  obtain ⟨hfirst, hlast⟩ := Text.strip_eq_self_iff.mp hcore.isStripped
  rw [Text.stripChars_eq_self_iff, toList_marked]
  have hslash : Text.isBlank '/' = false := by decide
  obtain ⟨c, cs, hcs⟩ := List.exists_cons_of_ne_nil hcore.toList_ne_nil
  constructor
  · cases front with
    | false => simpa [hcs] using hfirst
    | true => simpa using hslash
  · cases back with
    | false =>
      rw [if_neg Bool.false_ne_true, List.append_nil, List.getLast?_append_of_ne_nil _ hcore.toList_ne_nil]
      exact hlast
    | true => simpa using hslash

theorem dropTrailingSlash_concat (cs : List Char) : dropTrailingSlash (cs ++ ['/']) = (cs, true) := by
  simp [dropTrailingSlash]

theorem dropTrailingSlash_of_last {cs : List Char} (hlast : cs.getLast? ≠ some '/') :
    dropTrailingSlash cs = (cs, false) := by
  rw [dropTrailingSlash]
  split
  · next rest hreverse =>
    rw [← List.head?_reverse, hreverse] at hlast
    exact absurd rfl hlast
  · rfl

theorem dropLeadingSlash_of_first {cs : List Char} (hfirst : cs.head? ≠ some '/') :
    dropLeadingSlash cs = (cs, false) := by
  cases cs with
  | nil => rfl
  | cons c rest =>
    rw [dropLeadingSlash]
    rintro more hcs
    obtain ⟨rfl, rfl⟩ := List.cons.inj hcs
    exact hfirst rfl

/-- The rule of a pattern: its marks become those of the rule, and what is between them its glob. A slash in the
middle is noted as well, since it decides what the glob is matched against. -/
theorem ofPattern?_marked (hcore : IsCore core) (front back negate : Bool) :
    ofPattern? (marked core front back) negate =
      some ⟨core, back, front, negate, core.toList.contains '/'⟩ := by
  have hfront : dropTrailingSlash (marked core front back).toList = ((marked core front false).toList, back) := by
    cases back with
    | true =>
      rw [toList_marked, if_pos rfl, dropTrailingSlash_concat, toList_marked, if_neg Bool.false_ne_true,
        List.append_nil]
    | false =>
      refine dropTrailingSlash_of_last ?_
      rw [toList_marked, if_neg Bool.false_ne_true, List.append_nil,
        List.getLast?_append_of_ne_nil _ hcore.toList_ne_nil]
      exact hcore.noSlashLast
  have hback : dropLeadingSlash (marked core front false).toList = (core.toList, front) := by
    cases front with
    | true => simp [toList_marked, dropLeadingSlash]
    | false =>
      rw [toList_marked, if_neg Bool.false_ne_true, List.nil_append, List.append_nil]
      exact dropLeadingSlash_of_first hcore.noSlashFirst
  rw [ofPattern?, hcore.stripChars_marked]
  split
  · next hnil =>
    rw [toList_marked] at hnil
    simp [hcore.ne_empty] at hnil
  · simp [hfront, hback]

/-- A line that starts with no mark is read as a pattern. The marks are the exclamation mark of a negated rule
and the sharp of a comment. -/
theorem ofLine?_marked {core : String} (hcore : IsCore core) (hnegated : core.toList.head? ≠ some '!')
    (hcomment : core.toList.head? ≠ some '#') (back : Bool) :
    ofLine? (marked core false back) = some ⟨core, back, false, false, core.toList.contains '/'⟩ := by
  obtain ⟨c, rest, hcs⟩ := List.exists_cons_of_ne_nil hcore.toList_ne_nil
  have hfirst : (marked core false back).toList.head? = core.toList.head? := by simp [toList_marked, hcs]
  rw [ofLine?, hcore.stripChars_marked]
  split
  · next hnil => simp [hnil, hcs] at hfirst
  · next hmark =>
    rw [hmark] at hfirst
    exact absurd hfirst.symm hcomment
  · next hmark =>
    rw [hmark] at hfirst
    exact absurd hfirst.symm hnegated
  · rw [String.ofList_toList, ofPattern?_marked hcore]

/-- A text with a single line gives the rule of this line, or none. -/
theorem parse_of_line {text line : String} (hline : Text.lines text = [line]) : parse text = (ofLine? line).toList := by
  rw [parse, hline]
  cases hrule : ofLine? line <;> simp [hrule]

end IgnoreRule

end ClassDiagram
