import ClassDiagram.Proofs.Rust.Parts

namespace ClassDiagram.Rust

/-- The characters by which the forms of types are told from lone words. -/
def typeMarks : List Char :=
  ['&', '*', '(', '[', '!', '?', '<', '+', ':', '\'']

/-- A mark, or a variable of a macro, which stands for a type of any form. -/
def Token.IsMark (t : Token) : Prop :=
  t.kind = .metavariable ∨ ∃ c ∈ typeMarks, t.text = [c]

/-- There is a mark among the tokens. -/
def HasMark (ts : List Token) : Prop :=
  ∃ t ∈ ts, t.IsMark

theorem HasMark.append_right {ts : List Token} (h : HasMark ts) (us : List Token) : HasMark (ts ++ us) := by
  obtain ⟨t, ht, hmark⟩ := h
  exact ⟨t, List.mem_append_left us ht, hmark⟩

theorem HasMark.append_left {us : List Token} (h : HasMark us) (ts : List Token) : HasMark (ts ++ us) := by
  obtain ⟨t, ht, hmark⟩ := h
  exact ⟨t, List.mem_append_right ts ht, hmark⟩

/-- No tokens, or some with a mark among them. -/
def NothingOrMarked (ts : List Token) : Prop :=
  ts = [] ∨ HasMark ts

/-- The tokens that the parser takes satisfy `Q`. -/
structure Takes {α : Type} (p : Parse α) (Q : List Token → Prop) : Prop where
  taken : ∀ {ts rest : List Token} {a : α}, p.run ts = some (a, rest) → ∃ taken, ts = taken ++ rest ∧ Q taken

namespace Takes

open Parse

variable {α β : Type} {p : Parse α} {f : α → Parse β} {P Q R : List Token → Prop}

theorem any (p : Parse α) : Takes p fun _ => True := by
  refine ⟨fun h => ?_⟩
  obtain ⟨taken, htaken⟩ := p.isSuffix h
  exact ⟨taken, htaken.symm, trivial⟩

/-- What is weaker than something that holds of all tokens taken holds of them, too. -/
theorem imp (hp : Takes p P) (himp : ∀ ts, P ts → Q ts) : Takes p Q := by
  refine ⟨fun h => ?_⟩
  obtain ⟨taken, htaken, hP⟩ := hp.taken h
  exact ⟨taken, htaken, himp taken hP⟩

/-- Two parsers in a row take the tokens of the one and then those of the other. -/
theorem bind (hp : Takes p P) (hf : ∀ a, Takes (f a) Q) (happend : ∀ ts us, P ts → Q us → R (ts ++ us)) :
    Takes (p >>= f) R := by
  refine ⟨fun h => ?_⟩
  obtain ⟨a, mid, hfirst, hnext⟩ := run_bind_eq_some h
  obtain ⟨early, rfl, hP⟩ := hp.taken hfirst
  obtain ⟨late, rfl, hQ⟩ := (hf a).taken hnext
  exact ⟨early ++ late, by rw [List.append_assoc], happend early late hP hQ⟩

/-- After a parser that took nothing, such as a look ahead, only what the second takes counts. -/
theorem after (hp : Takes p (· = [])) (hf : ∀ a, Takes (f a) Q) : Takes (p >>= f) Q := by
  refine bind hp hf fun ts us hts hus => ?_
  rw [hts]
  exact hus

theorem before (hp : Takes p P) (hf : ∀ a, Takes (f a) (· = [])) : Takes (p >>= f) P := by
  refine bind hp hf fun ts us hts hus => ?_
  rw [hus, List.append_nil]
  exact hts

theorem mark_first (hp : Takes p HasMark) : Takes (p >>= f) HasMark :=
  bind hp (fun a => any (f a)) fun _ us hts _ => hts.append_right us

theorem mark_later (hf : ∀ a, Takes (f a) HasMark) : Takes (p >>= f) HasMark :=
  bind (any p) hf fun ts _ _ hus => hus.append_left ts

/-- What follows adds nothing, or a mark. So the form of a type is not changed by an optional rest, unless a
mark tells it. -/
theorem followed (hp : Takes p fun taken => HasMark taken ∨ P taken) (hf : ∀ a, Takes (f a) NothingOrMarked) :
    Takes (p >>= f) fun taken => HasMark taken ∨ P taken := by
  refine bind hp hf fun ts us hts hus => ?_
  rcases hus with rfl | hmark
  · rwa [List.append_nil]
  · exact .inl (hmark.append_left ts)

theorem orElse {p q : Parse α} (hp : Takes p Q) (hq : Takes q Q) : Takes (p <|> q) Q := by
  refine ⟨fun h => ?_⟩
  rcases run_orElse_eq_some h with h | h
  · exact hp.taken h
  · exact hq.taken h

theorem ite {c : Prop} [Decidable c] {p q : Parse α} (hp : Takes p Q) (hq : Takes q Q) :
    Takes (if c then p else q) Q := by
  split
  · exact hp
  · exact hq

theorem look (f : List Token → α) : Takes (Parse.look f) (· = []) := by
  refine ⟨fun h => ?_⟩
  cases h
  exact ⟨[], rfl, rfl⟩

theorem fail : Takes (Parse.fail : Parse α) Q :=
  ⟨fun h => by cases h⟩

theorem require (condition : Bool) : Takes (Parse.require condition) (· = []) :=
  .ite (.look _) .fail

/-- Either way that is chosen by a look at the next tokens. The look itself takes nothing, so what holds of both
ways holds of the choice between them. -/
theorem branch {test : List Token → Bool} {yes no : Parse α} (hyes : Takes yes Q) (hno : Takes no Q) :
    Takes (do if ← Parse.look test then yes else no) Q := by
  apply Takes.after (.look test)
  intro holds
  exact .ite hyes hno

/-- A mark among the tokens is all that is asked of most forms of types. -/
theorem marked (hp : Takes p HasMark) : Takes p fun taken => HasMark taken ∨ P taken :=
  hp.imp fun _ => .inl

theorem nothing (hp : Takes p (· = [])) : Takes p NothingOrMarked :=
  hp.imp fun _ => .inl

theorem token {test : Token → Bool} (htest : ∀ t, test t = true → Q [t]) : Takes (Parse.token test) Q := by
  refine ⟨fun h => ?_⟩
  obtain ⟨rfl, ht⟩ := run_token_eq_some h
  exact ⟨[_], rfl, htest _ ht⟩

theorem anyWord : Takes Parse.anyWord fun taken => ∃ w, w.kind = .word ∧ taken = [w] := by
  unfold Parse.anyWord
  apply Takes.before
  · apply Takes.token
    intro t ht
    exact ⟨t, by simpa using ht, rfl⟩
  · intro t
    exact .look _

theorem word (w : String) : Takes (Parse.word w) fun taken => ∃ t, t.isWord w = true ∧ taken = [t] := by
  unfold Parse.word
  apply Takes.before
  · apply Takes.token
    intro t ht
    exact ⟨t, ht, rfl⟩
  · intro t
    exact .look _

theorem punct {c : Char} (hc : c ∈ typeMarks) : Takes (Parse.punct c) HasMark := by
  apply Takes.mark_first
  apply Takes.token
  intro t ht
  have htext : t.text = [c] := by simpa using (Bool.and_eq_true_iff.mp ht).2
  exact ⟨t, List.mem_cons_self, .inr ⟨c, hc, htext⟩⟩

/-- A form of type that begins with one of the marks, whatever else belongs to it. -/
theorem punct_first {c : Char} (hc : c ∈ typeMarks) {f : Unit → Parse β} :
    Takes (Parse.punct c >>= f) HasMark :=
  .mark_first (.punct hc)

theorem separator : Takes (Parse.symbol "::") HasMark := by
  refine ⟨fun {ts rest _} h => ?_⟩
  change (if startsWith [':', ':'] ts then some ((), ts.drop 2) else none) = some (_, rest) at h
  split at h
  · next hstarts =>
    cases h
    refine ⟨ts.take 2, (List.take_append_drop 2 ts).symm, ?_⟩
    cases ts with
    | nil => cases hstarts
    | cons t ts =>
      have hcolon : t.isPunctuation ':' = true := (Bool.and_eq_true_iff.mp hstarts).1
      have htext : t.text = [':'] := by simpa using (Bool.and_eq_true_iff.mp hcolon).2
      exact ⟨t, List.mem_cons_self, .inr ⟨':', by decide, htext⟩⟩
  · cases h

/-- Rounds that each take a mark take nothing at all or a mark: one round is enough to tell, so the proof goes by
cases and needs no induction. -/
theorem many (hp : Takes p HasMark) : Takes (Parse.many p) NothingOrMarked := by
  have halong (bound : List Token) : Takes (manyAlong p bound) NothingOrMarked := by
    cases bound with
    | nil => exact .nothing (.look _)
    | cons _ bound =>
      apply Takes.orElse
      · exact .imp (.mark_first hp) fun _ => .inr
      · exact .nothing (.look _)
  exact ⟨fun {ts _ _} h => (halong ts).taken h⟩

/-- Steps that each take a mark take nothing at all or a mark, like the rounds of a repetition. -/
theorem iterate {step : α → Parse α} (hstep : ∀ a, Takes (step a) HasMark) (a : α) :
    Takes (Parse.iterate step a) NothingOrMarked := by
  have halong (bound : List Token) (a : α) :
      Takes (iterateAlong step bound a) NothingOrMarked := by
    cases bound with
    | nil => exact .nothing (.look _)
    | cons _ bound =>
      apply Takes.orElse
      · exact .imp (.mark_first (hstep a)) fun _ => .inr
      · exact .nothing (.look _)
  exact ⟨fun {ts _ _} h => (halong ts a).taken h⟩

end Takes

namespace Grammar

/-- A lone word. -/
def IsLone (taken : List Token) : Prop :=
  HasMark taken ∨ ∃ w, w.kind = .word ∧ taken = [w]

variable (depth : Nat)

theorem takes_lifetime : Takes lifetime HasMark :=
  .punct_first (by decide)

theorem takes_typeArguments (r : Rules) : Takes (typeArguments r) HasMark :=
  .punct_first (by decide)

theorem takes_typeParameters : Takes (upTo depth).typeParameters HasMark := by
  cases depth with
  | zero => exact .fail
  | succ depth => exact .punct_first (by decide)

theorem takes_functionTail (r : Rules) (isCast : Bool) : Takes (functionTail r isCast) HasMark := by
  unfold functionTail
  apply Takes.mark_first
  exact .punct_first (by decide)

theorem takes_tupleType (r : Rules) : Takes (tupleType r) HasMark :=
  .punct_first (by decide)

theorem takes_useBounds : Takes useBounds HasMark := by
  unfold useBounds
  apply Takes.mark_later
  intro _
  exact .punct_first (by decide)

/-- A path begins with a separator, with a type in angle brackets, with a variable of a macro, or with a name.
The first three show a mark, so that only the name can be a lone word. -/
theorem takes_pathStart (r : Rules) : Takes (pathStart r) IsLone := by
  unfold pathStart
  apply Takes.orElse
  · apply Takes.marked
    apply Takes.mark_first
    exact .separator
  apply Takes.orElse
  · apply Takes.marked
    apply Takes.mark_first
    exact .punct_first (by decide)
  apply Takes.orElse
  · apply Takes.marked
    apply Takes.mark_first
    apply Takes.token
    intro t ht
    exact ⟨t, List.mem_cons_self, .inl (by simpa using ht)⟩
  · have hname : Takes (do let w ← Parse.anyWord; return wordForm w) fun taken =>
        ∃ w, w.kind = .word ∧ taken = [w] := by
      apply Takes.before .anyWord
      intro w
      exact .look _
    exact hname.imp fun _ => .inr

/-- A path of more than one name has a separator, and one with arguments has a bracket. Each step adds a mark. -/
theorem takes_typePath (r : Rules) (isCast : Bool) : Takes (typePath r isCast) IsLone := by
  have hstep (form : TypePathForm) : Takes (typePathStep r isCast form) HasMark := by
    unfold typePathStep
    apply Takes.branch
    · apply Takes.mark_first
      exact .separator
    · apply Takes.mark_later
      intro _
      apply Takes.mark_later
      intro _
      apply Takes.mark_later
      intro _
      apply Takes.mark_first
      exact takes_typeArguments r
  unfold typePath
  apply Takes.followed (takes_pathStart r)
  intro start
  exact .iterate hstep _

theorem takes_functionType (r : Rules) (isCast : Bool) : Takes (functionType r isCast) HasMark := by
  unfold functionType
  apply Takes.mark_later
  intro _
  apply Takes.orElse
  · apply Takes.mark_later
    intro _
    exact takes_functionTail r isCast
  · apply Takes.mark_later
    intro form
    apply Takes.mark_later
    intro _
    exact takes_functionTail r isCast

theorem takes_atBang : Takes atBang (· = []) := by
  unfold atBang
  apply Takes.after (.look _)
  intro isBang
  apply Takes.after (.look _)
  intro isEquals
  exact .look _

/-- A name that is called like a function or a macro shows a mark. Any other takes nothing behind its path. -/
theorem takes_namedType (r : Rules) (isCast : Bool) : Takes (namedType r isCast) IsLone := by
  unfold namedType
  apply Takes.followed (takes_typePath r isCast)
  intro form
  apply Takes.after (.look _)
  intro isApplied
  apply Takes.ite
  · refine .imp ?_ fun _ => .inr
    apply Takes.mark_first
    exact takes_functionTail r isCast
  · apply Takes.after takes_atBang
    intro isMacro
    apply Takes.ite
    · refine .imp ?_ fun _ => .inr
      exact .punct_first (by decide)
    · apply Takes.nothing
      split <;> first | exact .look _ | exact .fail

/-- A trait behind `impl` or `dyn` is a name or shows a mark, as a type does. -/
theorem takes_traitName (r : Rules) (isCast : Bool) : Takes (traitName r isCast) IsLone := by
  unfold traitName
  apply Takes.followed (takes_typePath r isCast)
  intro form
  apply Takes.ite
  · apply Takes.branch
    · exact .imp (takes_functionTail r isCast) fun _ => .inr
    · exact .nothing (.look _)
  · exact .nothing (.require _)

theorem takes_abstractTrait (r : Rules) (isCast : Bool) : Takes (abstractTrait r isCast) IsLone := by
  unfold abstractTrait
  apply Takes.branch
  · exact .marked (.punct_first (by decide))
  apply Takes.branch
  · exact .marked (takes_tupleType r)
  apply Takes.branch
  · exact .marked (.mark_first takes_lifetime)
  apply Takes.branch
  · exact .marked (takes_functionType r isCast)
  · exact takes_traitName r isCast

/-- A lone word, or a lone word after `dyn` or `impl`. -/
def IsPlain (taken : List Token) : Prop :=
  HasMark taken ∨ ∃ w, w.kind = .word ∧
    (taken = [w] ∨ ∃ k, (k.isWord "dyn" = true ∨ k.isWord "impl" = true) ∧ taken = [k, w])

theorem isPlain_of_isLone {taken : List Token} (h : IsLone taken) : IsPlain taken := by
  rcases h with hmark | ⟨w, hword, rfl⟩
  · exact .inl hmark
  · exact .inr ⟨w, hword, .inl rfl⟩

theorem isPlain_cons {k : Token} (hk : k.isWord "dyn" = true ∨ k.isWord "impl" = true) {taken : List Token}
    (h : IsLone taken) : IsPlain ([k] ++ taken) := by
  rcases h with hmark | ⟨w, hword, rfl⟩
  · exact .inl (hmark.append_left [k])
  · exact .inr ⟨w, hword, .inr ⟨k, hk, rfl⟩⟩

/-- A type with `impl` shows a mark or is the word with a lone word behind it. With `for` in between, the
parameters that it introduces show a mark. -/
theorem takes_abstractType (isCast : Bool) : Takes (abstractType (upTo depth) isCast) IsPlain := by
  have htrait (found : Unit) : Takes (do
      if ← Parse.atWord "for" then
        functionType (upTo depth) isCast <|>
          (do Parse.word "for"; (upTo depth).typeParameters; abstractTrait (upTo depth) isCast)
      else abstractTrait (upTo depth) isCast) IsLone := by
    apply Takes.branch
    · apply Takes.orElse
      · exact .marked (takes_functionType _ isCast)
      · apply Takes.marked
        apply Takes.mark_later
        intro _
        apply Takes.mark_first
        exact takes_typeParameters depth
    · exact takes_abstractTrait _ isCast
  unfold abstractType
  apply Takes.bind (.word "impl") htrait
  rintro ts us ⟨k, hk, rfl⟩ hus
  exact isPlain_cons (.inr hk) hus

theorem takes_dynamicType (isCast : Bool) : Takes (dynamicType (upTo depth) isCast) IsPlain := by
  have htrait (found : Unit) : Takes (do
      if ← Parse.atWord "for" then
        functionType (upTo depth) isCast <|>
          (do Parse.word "for"; (upTo depth).typeParameters; let _ ← (upTo depth).type isCast)
      else if ← Parse.atPunct '(' then tupleType (upTo depth)
      else if ← Parse.atWordOf functionWords then functionType (upTo depth) isCast
      else traitName (upTo depth) isCast) IsLone := by
    apply Takes.branch
    · apply Takes.orElse
      · exact .marked (takes_functionType _ isCast)
      · apply Takes.marked
        apply Takes.mark_later
        intro _
        apply Takes.mark_first
        exact takes_typeParameters depth
    apply Takes.branch
    · exact .marked (takes_tupleType _)
    apply Takes.branch
    · exact .marked (takes_functionType _ isCast)
    · exact takes_traitName _ isCast
  unfold dynamicType
  apply Takes.bind (.word "dyn") htrait
  rintro ts us ⟨k, hk, rfl⟩ hus
  exact isPlain_cons (.inl hk) hus

/-- The forms of a type that is no sum of bounds, in the order in which they are tried. All but the traits after
`impl` and `dyn` and the names at the end begin with a mark or show one in what follows. -/
theorem takes_simpleType (isCast : Bool) : Takes (simpleType (upTo depth) isCast) IsPlain := by
  unfold simpleType
  apply Takes.branch
  · exact .marked (.punct_first (by decide))
  apply Takes.branch
  · exact .marked (.punct_first (by decide))
  apply Takes.branch
  · apply Takes.marked
    apply Takes.orElse
    · exact .mark_first (takes_tupleType _)
    · exact .punct_first (by decide)
  apply Takes.branch
  · exact .marked (.punct_first (by decide))
  apply Takes.branch
  · exact .marked (.punct_first (by decide))
  apply Takes.branch
  · exact .marked (.punct_first (by decide))
  apply Takes.branch
  · apply Takes.before (takes_abstractType depth isCast)
    intro _
    exact .look _
  apply Takes.branch
  · apply Takes.before (takes_dynamicType depth isCast)
    intro _
    exact .look _
  apply Takes.branch
  · exact .marked (.mark_first (takes_functionType _ isCast))
  apply Takes.orElse
  · apply Takes.marked
    apply Takes.mark_later
    intro _
    exact .mark_first (takes_functionTail _ isCast)
  · exact .imp (takes_namedType _ isCast) fun _ => isPlain_of_isLone

/-- A type holds a mark, or it is a lone word, perhaps after `dyn` or `impl`. The mark of a form stands at its
own level, so nothing need be known of the types inside, and cases on the depth are enough. -/
theorem takes_type (isCast : Bool) : Takes ((upTo depth).type isCast) IsPlain := by
  cases depth with
  | zero => exact .fail
  | succ depth =>
    have hleading : Takes leadingBound IsPlain := by
      apply Takes.marked
      apply Takes.mark_first
      exact .orElse takes_lifetime takes_useBounds
    apply Takes.followed (.orElse hleading (takes_simpleType depth isCast))
    intro form
    apply Takes.ite
    · exact .nothing (.look _)
    · apply Takes.before
      · apply Takes.many
        exact .punct_first (by decide)
      · intro more
        exact .look _

end Grammar

end ClassDiagram.Rust
