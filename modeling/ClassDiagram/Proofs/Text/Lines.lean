import ClassDiagram.Proofs.Signature.Runs
import ClassDiagram.Text.Line

namespace ClassDiagram.Text

open Signature (splitAt)

variable {c : Char} {cs ds : List Char}

/-- A character that is not the first half of a pair is read on its own. -/
theorem unifyLineEnds_cons (hpair : c = '\r' → cs.head? ≠ some '\n') :
    unifyLineEnds (c :: cs) = (if c = '\r' then '\n' else c) :: unifyLineEnds cs := by
  rw [unifyLineEnds]
  rintro rest rfl rfl
  exact hpair rfl rfl

/-- Texts are read one after the other, unless the first ends in half a line end and the second begins with the
other half. -/
theorem unifyLineEnds_append (hds : ds.head? ≠ some '\n') :
    unifyLineEnds (cs ++ ds) = unifyLineEnds cs ++ unifyLineEnds ds := by
  fun_induction unifyLineEnds cs with
  | case1 => rfl
  | case2 rest ih =>
    rw [List.cons_append, List.cons_append, unifyLineEnds, ih]
    rfl
  | case3 c rest hpair ih =>
    have hnot : c = '\r' → (rest ++ ds).head? ≠ some '\n' := by
      intro hc
      cases rest with
      | nil => exact hds
      | cons d rest =>
        intro hd
        exact hpair rest hc (congrArg (· :: rest) (Option.some.inj hd))
    rw [List.cons_append, unifyLineEnds_cons hnot, ih, List.cons_append]

theorem unifyLineEnds_eq_self (hcs : '\r' ∉ cs) : unifyLineEnds cs = cs := by
  induction cs with
  | nil => rfl
  | cons c cs ih =>
    rw [List.mem_cons, not_or] at hcs
    rw [unifyLineEnds_cons fun hc => absurd hc.symm hcs.1, if_neg (Ne.symm hcs.1), ih hcs.2]

/-- The same lines, but for empty ones behind the first. -/
structure SameLines (xs ys : List (List Char)) : Prop where
  first : xs.headD [] = ys.headD []
  rest : xs.tail.filter (· ≠ []) = ys.tail.filter (· ≠ [])

namespace SameLines

variable {xs ys : List (List Char)}

/-- Lines that are the same but for empty ones are the same without them. -/
theorem filter_eq (hsame : SameLines xs ys) : xs.filter (· ≠ []) = ys.filter (· ≠ []) := by
  have hcut (zs : List (List Char)) :
      zs.filter (· ≠ []) = [zs.headD []].filter (· ≠ []) ++ zs.tail.filter (· ≠ []) := by
    cases zs with
    | nil => rfl
    | cons z zs => rw [← List.filter_append]; rfl
  rw [hcut xs, hcut ys, hsame.first, hsame.rest]

theorem trans {zs : List (List Char)} (hfirst : SameLines xs ys) (hsecond : SameLines ys zs) : SameLines xs zs :=
  ⟨hfirst.first.trans hsecond.first, hfirst.rest.trans hsecond.rest⟩

/-- A boundary ends the first line, which is empty then. The lines behind it become those that may differ in
empty ones. -/
theorem boundary (hsame : SameLines xs ys) : SameLines ([] :: xs) ([] :: ys) :=
  ⟨rfl, hsame.filter_eq⟩

/-- Two boundaries in the place of one add an empty line, which does not count. This is what a pair of carriage
return and line feed comes to. -/
theorem twoBoundaries (hsame : SameLines xs ys) : SameLines ([] :: xs) ([] :: [] :: ys) :=
  ⟨rfl, by simpa using hsame.filter_eq⟩

theorem consToFirst (hsame : SameLines xs ys) (c : Char) :
    SameLines (Text.consToFirst c xs) (Text.consToFirst c ys) := by
  have hfirst (zs : List (List Char)) : (Text.consToFirst c zs).headD [] = c :: zs.headD [] := by cases zs <;> rfl
  have hrest (zs : List (List Char)) : (Text.consToFirst c zs).tail = zs.tail := by cases zs <;> rfl
  exact ⟨by rw [hfirst, hfirst, hsame.first], by rw [hrest, hrest, hsame.rest]⟩

end SameLines

theorem splitAt_cons_of_boundary {isCut : Char → Bool} (hc : isCut c = true) (cs : List Char) :
    splitAt isCut (c :: cs) = [] :: splitAt isCut cs :=
  Signature.splitAt_append_cut hc [] cs

theorem splitAt_cons_of_not {isCut : Char → Bool} (hc : isCut c = false) (cs : List Char) :
    splitAt isCut (c :: cs) = consToFirst c (splitAt isCut cs) := by
  obtain ⟨piece, pieces, hcs, hsplit⟩ := Signature.splitAt_cons isCut c cs
  rw [hsplit, hcs, hc]
  rfl

/-- Cutting a text into lines, where a pair is one line end, and cutting it at every boundary give the same
lines but for empty ones. -/
theorem sameLines_splitLines (cs : List Char) : SameLines (splitLines cs) (splitAt isLineBoundary cs) := by
  fun_induction splitLines cs with
  | case1 => exact ⟨rfl, rfl⟩
  | case2 rest ih =>
    rw [splitAt_cons_of_boundary (by decide), splitAt_cons_of_boundary (by decide)]
    exact ih.twoBoundaries
  | case3 c rest hpair hc ih =>
    rw [splitAt_cons_of_boundary hc]
    exact ih.boundary
  | case4 c rest hpair hc ih =>
    rw [splitAt_cons_of_not (by simpa using hc)]
    exact ih.consToFirst c

/-- Unifying the line ends first changes nothing about the pieces but for empty ones. -/
theorem sameLines_unifyLineEnds (cs : List Char) :
    SameLines (splitAt isLineBoundary (unifyLineEnds cs)) (splitAt isLineBoundary cs) := by
  fun_induction unifyLineEnds cs with
  | case1 => exact ⟨rfl, rfl⟩
  | case2 rest ih =>
    rw [splitAt_cons_of_boundary (by decide), splitAt_cons_of_boundary (by decide),
      splitAt_cons_of_boundary (by decide)]
    exact ih.twoBoundaries
  | case3 c rest hpair ih =>
    by_cases hreturn : c = '\r'
    · rw [if_pos hreturn, splitAt_cons_of_boundary (by decide), splitAt_cons_of_boundary (by rw [hreturn]; decide)]
      exact ih.boundary
    · rw [if_neg hreturn]
      cases hc : isLineBoundary c with
      | true =>
        rw [splitAt_cons_of_boundary hc, splitAt_cons_of_boundary hc]
        exact ih.boundary
      | false =>
        rw [splitAt_cons_of_not hc, splitAt_cons_of_not hc]
        exact ih.consToFirst c

/-- The lines of a text that was read are the pieces between the boundaries of what was written, but for empty
ones. Which line ends a file has is therefore no concern of the rules in it. -/
theorem filter_splitLines_unifyLineEnds (cs : List Char) :
    (splitLines (unifyLineEnds cs)).filter (· ≠ []) = (splitAt isLineBoundary cs).filter (· ≠ []) :=
  ((sameLines_splitLines _).trans (sameLines_unifyLineEnds cs)).filter_eq

end ClassDiagram.Text
