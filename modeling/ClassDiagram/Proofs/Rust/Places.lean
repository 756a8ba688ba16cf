import ClassDiagram.Proofs.Rust.Parts

namespace ClassDiagram.Rust

/-- The place where `n` tokens are left lies inside the run, with tokens of the run on both sides. -/
def Span.Splits (place : Span) (n : Nat) : Prop :=
  place.stop < n ∧ n < place.start

/-- The run of tokens that a part takes from the source; a name is read at once. -/
def Part.place? : Part → Option Span
  | .name _ => none
  | .type place | .target place | .binding place => some place

/-- The run of a part that stands between two places is told by the tokens left there. -/
theorem Part.Stands.place_eq {part : Part} {ts rest : List Token} (h : part.Stands ts rest) {place : Span}
    (hplace : part.place? = some place) : place = ⟨ts.length, rest.length⟩ := by
  cases part with
  | name text => cases hplace
  | type place' | target place' | binding place' =>
    cases hplace
    exact h.1

namespace InOrder

/-- The runs of the parts lie within the tokens, and none ends before it begins. -/
theorem bounds {parts : List Part} {ts rest : List Token} (h : InOrder parts ts rest) {part : Part}
    (hpart : part ∈ parts) {place : Span} (hplace : part.place? = some place) :
    place.stop ≤ place.start ∧ place.start ≤ ts.length := by
  obtain ⟨start, mid, hstart, hstands⟩ := h.stands_of_mem hpart
  rw [hstands.place_eq hplace]
  exact ⟨hstands.isSuffix.length_le, hstart.length_le⟩

/-- Two parts that hold one place inside are the same, since parts stand one after the other. So a gap that
changes is inside at most one of them. -/
theorem eq_of_splits {parts : List Part} {ts rest : List Token} (h : InOrder parts ts rest) {n : Nat}
    {part other : Part} (hpart : part ∈ parts) (hother : other ∈ parts) {place place' : Span}
    (hplace : part.place? = some place) (hplace' : other.place? = some place') (hsplits : place.Splits n)
    (hsplits' : place'.Splits n) : part = other := by
  -- Whatever comes after a part starts where the part has stopped already.
  have hlater {first : Part} {parts : List Part} {start mid rest : List Token} (hfirst : first.Stands start mid)
      (hrest : InOrder parts mid rest) {later : Part} (hmem : later ∈ parts) {place place' : Span}
      (hplace : first.place? = some place) (hplace' : later.place? = some place') (hsplits : place.Splits n) :
      ¬ place'.Splits n := by
    intro hsplits'
    have hbound := (hrest.bounds hmem hplace').2
    rw [hfirst.place_eq hplace] at hsplits
    have hstop : mid.length < n := hsplits.1
    have hstart : n < place'.start := hsplits'.2
    omega
  induction h with
  | nil _ => cases hpart
  | cons hstart hfirst hparts ih =>
    rcases List.mem_cons.mp hpart with rfl | hmem
    · rcases List.mem_cons.mp hother with rfl | hmem'
      · rfl
      · exact absurd hsplits' (hlater hfirst hparts hmem' hplace hplace' hsplits)
    · rcases List.mem_cons.mp hother with rfl | hmem'
      · exact absurd hsplits (hlater hfirst hparts hmem hplace' hplace hsplits')
      · exact ih hmem hmem'

end InOrder

theorem length_append_cons (pre post : List Token) (t : Token) :
    (pre ++ t :: post).length = pre.length + post.length + 1 := by
  rw [List.length_append, List.length_cons, Nat.add_assoc]

section Texts

variable {place : Span} {pre post : List Token} (hstop : place.stop ≤ place.start)
  (hstart : place.start ≤ pre.length + post.length + 1)

include hstop hstart

/-- A run that stops before a token holds tokens before it alone. Places are counted from the end, by the tokens
that are left, hence the subtraction. -/
theorem Span.tokens_of_before (hbefore : post.length + 1 ≤ place.stop) (t : Token) :
    place.tokens (pre ++ t :: post) =
      (pre.drop (pre.length + post.length + 1 - place.start)).take (place.start - place.stop) := by
  rw [tokens, length_append_cons, List.drop_append_of_le_length (by omega),
    List.take_append_of_le_length (by rw [List.length_drop]; omega)]

omit hstop in
/-- A run that starts behind a token holds tokens behind it alone, so the token and its gap are no part of its
text. -/
theorem Span.tokens_of_after (hafter : place.start ≤ post.length) (t : Token) :
    place.tokens (pre ++ t :: post) =
      (post.drop (post.length - place.start)).take (place.start - place.stop) := by
  have hdrop : pre.length + post.length + 1 - place.start = pre.length + (post.length - place.start + 1) := by omega
  rw [tokens, length_append_cons, hdrop, List.drop_append, List.drop_of_length_le (by omega)]
  simp

/-- A run with tokens up to a token and behind it has the token between them. -/
theorem Span.tokens_of_inside (hbehind : place.stop ≤ post.length) (hahead : post.length + 1 ≤ place.start)
    (t : Token) :
    place.tokens (pre ++ t :: post) =
      pre.drop (pre.length + post.length + 1 - place.start) ++ t :: post.take (post.length - place.stop) := by
  have htake : place.start - place.stop =
      (pre.drop (pre.length + post.length + 1 - place.start)).length + (post.length - place.stop + 1) := by
    rw [List.length_drop]
    omega
  rw [tokens, length_append_cons, List.drop_append_of_le_length (by omega), htake, List.take_length_add_append,
    List.take_succ_cons]

/-- A run that does not hold the place inside has the same text, whatever the gap at the place is. This includes
the run that begins with the token: a text does not have the gap in front of it. -/
theorem Span.text_of_not_splits (hsplits : ¬ place.Splits (post.length + 1)) (t : Token) (gap : List Char) :
    place.text (pre ++ { t with gap } :: post) = place.text (pre ++ t :: post) := by
  have hcases : post.length + 1 ≤ place.stop ∨ place.start ≤ post.length ∨
      place.stop ≤ post.length ∧ place.start = post.length + 1 := by
    have h : ¬ (place.stop < post.length + 1 ∧ post.length + 1 < place.start) := hsplits
    omega
  rw [text, text]
  rcases hcases with hbefore | hafter | ⟨hbehind, hfirst⟩
  · rw [tokens_of_before hstop hstart hbefore, tokens_of_before hstop hstart hbefore]
  · rw [tokens_of_after hstart hafter, tokens_of_after hstart hafter]
  · -- What stands before the first token of a run does not count.
    have hnone : pre.drop (pre.length + post.length + 1 - place.start) = [] :=
      List.drop_of_length_le (by omega)
    rw [tokens_of_inside hstop hstart hbehind (by omega), tokens_of_inside hstop hstart hbehind (by omega), hnone]
    rfl

/-- The text of a run that holds the place inside has the gap somewhere inside, and around it the same
characters whatever the gap is. -/
theorem Span.text_of_splits (hsplits : place.Splits (post.length + 1)) (t : Token) :
    ∃ ahead behind, ∀ gap,
      place.text (pre ++ { t with gap } :: post) = String.ofList (ahead ++ (gap ++ behind)) := by
  obtain ⟨hbehind, hahead⟩ := hsplits
  have hsome : pre.drop (pre.length + post.length + 1 - place.start) ≠ [] := by
    rw [ne_eq, List.drop_eq_nil_iff]
    omega
  obtain ⟨first, more, hmore⟩ := List.exists_cons_of_ne_nil hsome
  refine ⟨first.text ++ more.flatMap fun t => t.gap ++ t.text,
    t.text ++ (post.take (post.length - place.stop)).flatMap fun t => t.gap ++ t.text, fun gap => ?_⟩
  rw [text, tokens_of_inside hstop hstart (by omega) (by omega), hmore, List.cons_append, Token.sourceOf]
  simp

end Texts

end ClassDiagram.Rust
