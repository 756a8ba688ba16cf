import ClassDiagram.Rust.Grammar

namespace ClassDiagram.Rust

namespace Parse

variable {α β : Type}

/-- Two parsers in a row succeed if the first does and the second on the tokens that it leaves. -/
theorem run_bind_eq_some {p : Parse α} {f : α → Parse β} {ts rest : List Token} {b : β}
    (h : (p >>= f).run ts = some (b, rest)) :
    ∃ a mid, p.run ts = some (a, mid) ∧ (f a).run mid = some (b, rest) := by
  change (andThen p f).run ts = some (b, rest) at h
  dsimp only [andThen] at h
  split at h
  · cases h
  · next a mid hfirst => exact ⟨a, mid, hfirst, h⟩

/-- Of two alternatives one has succeeded. That the second is tried only if the first fails is of no concern for
the parts. -/
theorem run_orElse_eq_some {p q : Parse α} {ts rest : List Token} {a : α}
    (h : (p <|> q).run ts = some (a, rest)) :
    p.run ts = some (a, rest) ∨ q.run ts = some (a, rest) := by
  change (orElse p fun _ => q).run ts = some (a, rest) at h
  dsimp only [orElse] at h
  split at h
  · exact .inr h
  · next hfirst =>
    cases h
    exact .inl hfirst

theorem run_pure_eq_some {ts rest : List Token} {a b : α}
    (h : (pure a : Parse α).run ts = some (b, rest)) : b = a ∧ rest = ts := by
  cases h
  exact ⟨rfl, rfl⟩

theorem run_token_eq_some {test : Token → Bool} {ts rest : List Token} {t : Token}
    (h : (token test).run ts = some (t, rest)) : ts = t :: rest ∧ test t = true := by
  cases ts with
  | nil => cases h
  | cons u us =>
    change (if test u then some (u, us) else none) = some (t, rest) at h
    split at h
    · next htest =>
      cases h
      exact ⟨rfl, htest⟩
    · cases h

/-- A span tells how many tokens were left when it began and when it ended. -/
theorem run_span_eq_some {p : Parse Unit} {ts rest : List Token} {place : Span}
    (h : (span p).run ts = some (place, rest)) :
    p.run ts = some ((), rest) ∧ place = ⟨ts.length, rest.length⟩ := by
  dsimp only [span] at h
  split at h
  · cases h
  · next hp =>
    cases h
    exact ⟨hp, rfl⟩

end Parse

/-- What an item keeps of the tokens it is read from. -/
inductive Part where
  | name (text : String)
  /-- The type of a field or a parameter. -/
  | type (place : Span)
  /-- The type that an impl block is for. -/
  | target (place : Span)
  /-- A pattern or a receiver. -/
  | binding (place : Span)
deriving DecidableEq

/-- The part begins where the tokens `ts` are left, and ends where `rest` is. -/
def Part.Stands : Part → List Token → List Token → Prop
  | .name text, ts, rest =>
    ∃ t, ts = t :: rest ∧ (t.kind = .word ∨ t.kind = .metavariable) ∧ text = String.ofList t.text
  | .type place, ts, rest | .target place, ts, rest =>
    place = ⟨ts.length, rest.length⟩ ∧ ∃ depth form, ((Grammar.upTo depth).type false).run ts = some (form, rest)
  | .binding place, ts, rest => place = ⟨ts.length, rest.length⟩ ∧ rest <:+ ts

/-- The parts stand one after the other between the places where `ts` and `rest` are left. -/
inductive InOrder : List Part → List Token → List Token → Prop
  | nil {ts rest : List Token} (hrest : rest <:+ ts) : InOrder [] ts rest
  | cons {part : Part} {parts : List Part} {ts start mid rest : List Token} (hstart : start <:+ ts)
      (hpart : part.Stands start mid) (hparts : InOrder parts mid rest) : InOrder (part :: parts) ts rest

/-- A part takes tokens from the front, so the tokens that are left were there before. -/
theorem Part.Stands.isSuffix {part : Part} {ts rest : List Token} (h : part.Stands ts rest) : rest <:+ ts := by
  cases part with
  | name text =>
    obtain ⟨t, rfl, _⟩ := h
    exact List.suffix_cons t rest
  | type place | target place =>
    obtain ⟨_, depth, form, hrun⟩ := h
    exact Parse.isSuffix _ hrun
  | binding place => exact h.2

namespace InOrder

/-- Tokens may be passed over in front of the parts. In this way everything that the grammar reads and an item
does not keep is told at once. -/
theorem of_suffix {parts : List Part} {ts ts' rest : List Token} (h : InOrder parts ts rest)
    (hts : ts <:+ ts') : InOrder parts ts' rest := by
  cases h with
  | nil hrest => exact .nil (hrest.trans hts)
  | cons hstart hpart hparts => exact .cons (hstart.trans hts) hpart hparts

theorem append {parts more : List Part} {ts mid rest : List Token} (h : InOrder parts ts mid)
    (hmore : InOrder more mid rest) : InOrder (parts ++ more) ts rest := by
  induction h with
  | nil hmid => exact hmore.of_suffix hmid
  | cons hstart hpart _ ih => exact .cons hstart hpart (ih hmore)

/-- Leaving out parts does not disturb the order of the others. An item may thus drop parts of what was read for
it. -/
theorem sublist {parts fewer : List Part} (hfewer : fewer.Sublist parts) {ts rest : List Token}
    (h : InOrder parts ts rest) : InOrder fewer ts rest := by
  induction h generalizing fewer with
  | nil hrest =>
    cases hfewer
    exact .nil hrest
  | cons hstart hpart _ ih =>
    cases hfewer with
    | cons _ hfewer => exact (ih hfewer).of_suffix (hpart.isSuffix.trans hstart)
    | cons_cons _ hfewer => exact .cons hstart hpart (ih hfewer)

/-- Each of the parts stands somewhere between the two places, so what is true of all runs between them is true
of it. -/
theorem stands_of_mem {parts : List Part} {ts rest : List Token} (h : InOrder parts ts rest) {part : Part}
    (hmem : part ∈ parts) : ∃ start mid, start <:+ ts ∧ part.Stands start mid := by
  induction h with
  | nil _ => cases hmem
  | cons hstart hpart _ ih =>
    rcases List.mem_cons.mp hmem with rfl | hmem
    · exact ⟨_, _, hstart, hpart⟩
    · obtain ⟨start, mid, hlater, hstands⟩ := ih hmem
      exact ⟨start, mid, (hlater.trans hpart.isSuffix).trans hstart, hstands⟩

end InOrder

namespace Syntax

/-- The parts of a field. -/
def Field.parts (f : Field) : List Part :=
  [.name f.name, .type f.type]

/-- The parts of a parameter. -/
def Parameter.parts : Parameter → List Part
  | .receiver place => [.binding place]
  | .typed pattern type => [.binding pattern, .type type]
  | .anonymous => []

/-- The parts of a method. -/
def Method.parts (m : Method) : List Part :=
  .name m.name :: m.parameters.flatMap Parameter.parts

/-- The parts of a struct. -/
def Struct.parts (s : Struct) : List Part :=
  .name s.name :: s.fields.flatMap Field.parts

/-- The parts of an impl block. -/
def Impl.parts (block : Impl) : List Part :=
  .target block.target :: block.methods.flatMap Method.parts

end Syntax

/-- The parts of an item. -/
def Item.parts : Item → List Part
  | .method m => m.parts
  | .struct s => s.parts
  | .impl block => block.parts
  | .enum d => [.name d.name]
  | .attribute | .other _ => []

/-- The parts of a statement. -/
def Grammar.Statement.parts : Statement → List Part
  | .item i => i.parts
  | .last => []

/-- The parts of the methods among some items stand among the parts of the items. An impl block lists items of
all kinds inside, of which it keeps the functions. -/
theorem methods_parts_sublist (items : List Item) :
    ((items.filterMap Item.method?).flatMap Syntax.Method.parts).Sublist (items.flatMap Item.parts) := by
  induction items with
  | nil => exact List.Sublist.refl _
  | cons item items ih =>
    rw [List.flatMap_cons]
    cases item with
    | method m => simpa [Item.method?, Item.parts] using ih
    | _ => exact ih.trans (List.sublist_append_right _ _)

/-- The parts of the parser's value are some of those found before and of those among the tokens that it
takes, in this order. -/
structure Finds {α : Type} (found : List Part) (p : Parse α) (parts : α → List Part) : Prop where
  inOrder : ∀ {ts rest : List Token} {a : α}, p.run ts = some (a, rest) →
    ∃ more, (parts a).Sublist (found ++ more) ∧ InOrder more ts rest

namespace Finds

open Parse

variable {α β : Type} {found : List Part} {parts : α → List Part}

theorem run {p : Parse α} (hp : Finds [] p parts) {ts rest : List Token} {a : α}
    (h : p.run ts = some (a, rest)) : InOrder (parts a) ts rest := by
  obtain ⟨more, hparts, hmore⟩ := hp.inOrder h
  exact hmore.sublist hparts

theorem of_run {p : Parse α} (hp : ∀ {ts rest : List Token} {a : α}, p.run ts = some (a, rest) →
    InOrder (parts a) ts rest) : Finds [] p parts :=
  ⟨fun h => ⟨_, List.Sublist.refl _, hp h⟩⟩

theorem pure {a : α} (hparts : (parts a).Sublist found) : Finds found (pure a) parts := by
  refine ⟨fun h => ?_⟩
  obtain ⟨rfl, rfl⟩ := run_pure_eq_some h
  exact ⟨[], by rwa [List.append_nil], .nil (List.suffix_refl _)⟩

/-- A value that lists what was found and no more. Most rules end in such a value. -/
theorem all {a : α} (hparts : parts a = found) : Finds found (Pure.pure a) parts :=
  pure (hparts ▸ List.Sublist.refl _)

/-- The parts of two parsers in a row: those that the first finds stand before those of the second, which may
list them along with its own. -/
theorem bind {p : Parse β} {f : β → Parse α} {first : β → List Part} (hp : Finds [] p first)
    (hf : ∀ b, Finds (found ++ first b) (f b) parts) : Finds found (p >>= f) parts := by
  refine ⟨fun h => ?_⟩
  obtain ⟨b, mid, hfirst, hnext⟩ := run_bind_eq_some h
  obtain ⟨late, hparts, hafter⟩ := (hf b).inOrder hnext
  refine ⟨first b ++ late, ?_, (hp.run hfirst).append hafter⟩
  rwa [← List.append_assoc]

/-- A parser whose value is not looked at leaves nothing but a gap between the parts. -/
theorem skip {p : Parse β} {f : β → Parse α} (hf : ∀ b, Finds found (f b) parts) :
    Finds found (p >>= f) parts := by
  have hnothing : Finds [] p fun _ => [] := of_run fun h => .nil (p.isSuffix h)
  refine bind hnothing fun b => ?_
  rw [List.append_nil]
  exact hf b

theorem orElse {p q : Parse α} (hp : Finds found p parts) (hq : Finds found q parts) :
    Finds found (p <|> q) parts := by
  refine ⟨fun h => ?_⟩
  rcases run_orElse_eq_some h with h | h
  · exact hp.inOrder h
  · exact hq.inOrder h

theorem ite {c : Prop} [Decidable c] {p q : Parse α} (hp : Finds found p parts) (hq : Finds found q parts) :
    Finds found (if c then p else q) parts := by
  split
  · exact hp
  · exact hq

/-- Either way that is chosen by a look at the tokens ahead, or by whether something optional stands there. What
the choice is made by is no part, so only the ways themselves count. -/
theorem branch {test : Parse Bool} {yes no : Parse α} (hyes : Finds found yes parts)
    (hno : Finds found no parts) : Finds found (do if ← test then yes else no) parts := by
  apply Finds.skip
  intro holds
  exact .ite hyes hno

theorem fail : Finds found Parse.fail parts :=
  ⟨fun h => by cases h⟩

/-- A parser that is chosen by the tokens ahead finds what each choice finds. -/
theorem along {p : List Token → Parse α} (hp : ∀ ts, Finds found (p ts) parts) :
    Finds found (Parse.along p) parts :=
  ⟨fun {ts _ _} h => (hp ts).inOrder h⟩

/-- A repetition finds the parts of its values one after the other. The induction is on the tokens that bound
the number of rounds. -/
theorem many {p : Parse α} (hp : Finds [] p parts) : Finds [] (Parse.many p) (List.flatMap parts) := by
  apply along
  intro bound
  induction bound with
  | nil => exact .all rfl
  | cons _ bound ih =>
    apply Finds.orElse
    · apply Finds.bind hp
      intro first
      apply Finds.bind ih
      intro more
      apply Finds.all
      rw [List.flatMap_cons, List.nil_append]
    · exact .all rfl

/-- A list with commas finds the parts of its values; the commas between them and after the last add nothing. -/
theorem commaList {p : Parse α} (hp : Finds [] p parts) : Finds [] (Parse.commaList p) (List.flatMap parts) := by
  have hmore : Finds [] (Parse.many (do punct ','; p)) (List.flatMap parts) := by
    apply Finds.many
    apply Finds.skip
    intro _
    exact hp
  have hitems : Finds [] (commaSeparated p) (List.flatMap parts) := by
    apply Finds.bind hp
    intro first
    apply Finds.bind hmore
    intro rest
    apply Finds.all
    rw [List.flatMap_cons, List.nil_append]
  unfold Parse.commaList
  apply Finds.bind (.orElse hitems (.all rfl))
  intro items
  apply Finds.skip
  intro _
  exact .all rfl

/-- A token that gives an item its name. It has to be a word or a variable of a macro, so that the name is
legible later on. -/
theorem named {test : Token → Bool} (htest : ∀ t, test t = true → t.kind = .word ∨ t.kind = .metavariable) :
    Finds [] (do let t ← token test; return String.ofList t.text) fun text => [.name text] := by
  refine of_run fun {ts rest text} h => ?_
  obtain ⟨t, mid, htoken, hvalue⟩ := run_bind_eq_some h
  obtain ⟨rfl, hkind⟩ := run_token_eq_some htoken
  obtain ⟨rfl, rfl⟩ := run_pure_eq_some hvalue
  have hname : Part.Stands (.name (String.ofList t.text)) (t :: rest) rest := ⟨t, rfl, htest t hkind, rfl⟩
  exact .cons (List.suffix_refl _) hname (.nil (List.suffix_refl _))

theorem anyWord : Finds [] Parse.anyWord fun text => [.name text] :=
  named fun _ h => .inl (by simpa using h)

theorem binding (p : Parse Unit) : Finds [] (span p) fun place => [.binding place] := by
  refine of_run fun {ts rest place} h => ?_
  obtain ⟨hp, hplace⟩ := run_span_eq_some h
  have hbinding : Part.Stands (.binding place) ts rest := ⟨hplace, p.isSuffix hp⟩
  exact .cons (List.suffix_refl _) hbinding (.nil (List.suffix_refl _))

/-- A type, as a part of either kind. What the rule for types takes is kept as a run of tokens, and nothing of
what is inside. -/
theorem typed {part : Span → Part} (depth : Nat)
    (hpart : ∀ place ts rest, (part place).Stands ts rest ↔ Part.Stands (.type place) ts rest) :
    Finds [] (span (do let _ ← (Grammar.upTo depth).type false)) fun place => [part place] := by
  refine of_run fun {ts rest place} h => ?_
  obtain ⟨hp, hplace⟩ := run_span_eq_some h
  obtain ⟨form, mid, htype, hvalue⟩ := run_bind_eq_some hp
  obtain ⟨_, rfl⟩ := run_pure_eq_some hvalue
  have hstands : Part.Stands (.type place) ts rest := ⟨hplace, depth, form, htype⟩
  exact .cons (List.suffix_refl _) ((hpart place ts rest).mpr hstands) (.nil (List.suffix_refl _))

theorem type (depth : Nat) :
    Finds [] (span (do let _ ← (Grammar.upTo depth).type false)) fun place => [.type place] :=
  typed depth fun _ _ _ => Iff.rfl

theorem target (depth : Nat) :
    Finds [] (span (do let _ ← (Grammar.upTo depth).type false)) fun place => [.target place] :=
  typed depth fun _ _ _ => Iff.rfl

end Finds

namespace Grammar

variable (depth : Nat)

/-- A field is kept with its name and its type, in this order; attributes and the visibility come first and are
no parts. -/
theorem finds_field : Finds [] (field (upTo depth)) Syntax.Field.parts := by
  unfold field
  apply Finds.skip
  intro attributes
  apply Finds.skip
  intro visibility
  apply Finds.bind .anyWord
  intro name
  apply Finds.skip
  intro _
  apply Finds.bind (.type depth)
  intro type
  exact .all rfl

theorem finds_fields : Finds [] (fields (upTo depth)) (List.flatMap Syntax.Field.parts) := by
  unfold fields
  apply Finds.skip
  intro _
  apply Finds.bind (.commaList (finds_field depth))
  intro items
  apply Finds.skip
  intro _
  exact .all rfl

/-- A struct is kept with its name and its named fields. Of a tuple struct no type is kept, though its fields
have types as well. -/
theorem finds_structItem (visibility : Visibility) :
    Finds [] (structItem (upTo depth) visibility) Item.parts := by
  unfold structItem
  apply Finds.skip
  intro _
  apply Finds.bind .anyWord
  intro name
  apply Finds.skip
  intro _
  apply Finds.branch
  · apply Finds.skip
    intro _
    exact .all rfl
  · apply Finds.branch
    · repeat (apply Finds.skip; intro _)
      exact .all rfl
    · apply Finds.skip
      intro _
      apply Finds.bind (finds_fields depth)
      intro fields
      exact .all rfl

theorem finds_enumItem (visibility : Visibility) : Finds [] (enumItem (upTo depth) visibility) Item.parts := by
  unfold enumItem
  apply Finds.skip
  intro _
  apply Finds.bind .anyWord
  intro name
  -- The variants are passed over with everything else that follows the name.
  repeat (apply Finds.skip; intro _)
  exact .all rfl

/-- A parameter is kept with its pattern and its type, as two runs of tokens with the colon between them. -/
theorem finds_typedParameter : Finds [] (typedParameter (upTo depth)) Syntax.Parameter.parts := by
  unfold typedParameter
  apply Finds.skip
  intro _
  apply Finds.bind (.binding _)
  intro pattern
  apply Finds.skip
  intro _
  apply Finds.orElse
  · apply Finds.skip
    intro _
    exact .pure (List.nil_sublist _)
  · apply Finds.bind (.type depth)
    intro type
    exact .all rfl

theorem finds_parameter : Finds [] (parameter (upTo depth)) Syntax.Parameter.parts := by
  have hreceiver : Finds [] (do
      let taken ← Parse.span receiver
      Parse.require (← atParameterEnd)
      return Syntax.Parameter.receiver taken) Syntax.Parameter.parts := by
    apply Finds.bind (.binding _)
    intro taken
    apply Finds.skip
    intro isEnd
    apply Finds.skip
    intro _
    exact .all rfl
  unfold parameter
  apply Finds.skip
  intro attributes
  -- A receiver, a pattern with its type, a variadic mark, or a type alone, of which nothing is kept.
  apply Finds.orElse hreceiver
  apply Finds.orElse (finds_typedParameter depth)
  apply Finds.orElse
  · repeat (apply Finds.skip; intro _)
    exact .all rfl
  · repeat (apply Finds.skip; intro _)
    exact .all rfl

theorem finds_parameters : Finds [] (parameters (upTo depth)) (List.flatMap Syntax.Parameter.parts) := by
  unfold parameters
  apply Finds.skip
  intro _
  apply Finds.bind (.commaList (finds_parameter depth))
  intro found
  apply Finds.skip
  intro _
  exact .all rfl

theorem finds_function (visibility : Visibility) :
    Finds [] (function (upTo depth) visibility) fun m? => m?.elim [] Syntax.Method.parts := by
  have hname : Finds [] (Parse.anyWord <|> (do
      let t ← Parse.token (·.kind = .metavariable)
      return String.ofList t.text)) fun text => [.name text] :=
    .orElse .anyWord (.named fun _ h => .inr (by simpa using h))
  unfold function
  apply Finds.skip
  intro _
  apply Finds.bind hname
  intro name
  apply Finds.skip
  intro _
  apply Finds.bind (finds_parameters depth)
  intro parameters
  apply Finds.skip
  intro _
  apply Finds.skip
  intro _
  apply Finds.branch
  · apply Finds.skip
    intro _
    exact .pure (List.nil_sublist _)
  · repeat (apply Finds.skip; intro _)
    exact .all rfl

/-- A function is kept with its name and its parameters if it has a body; a signature alone is an item of which
nothing is kept. -/
theorem finds_functionItem (visibility : Visibility) :
    Finds [] (functionItem (upTo depth) visibility) Item.parts := by
  unfold functionItem
  apply Finds.bind (finds_function depth visibility)
  intro m?
  cases m? with
  | some m => exact .all rfl
  | none => exact .all rfl

theorem finds_itemList (hitem : Finds [] (upTo depth).item Item.parts) :
    Finds [] (itemList (upTo depth)) (List.flatMap Item.parts) := by
  unfold itemList
  apply Finds.skip
  intro _
  apply Finds.bind (.many hitem)
  intro items
  apply Finds.skip
  intro _
  exact .all rfl

/-- An impl block keeps the target and, of the items inside, the functions with a body. The name of a trait is
read by the same rule as the target and is not kept. -/
theorem finds_implItem (hitem : Finds [] (upTo depth).item Item.parts) :
    Finds [] (implItem (upTo depth)) Item.parts := by
  unfold implItem
  apply Finds.skip
  intro _
  apply Finds.skip
  intro _
  apply Finds.skip
  intro _
  -- The type of a trait in front of the target is passed over; that there is one is all that is kept of it.
  apply Finds.skip
  intro isTraitImpl
  apply Finds.bind (.target depth)
  intro target
  apply Finds.skip
  intro _
  apply Finds.branch
  · apply Finds.skip
    intro _
    exact .all rfl
  · apply Finds.bind (finds_itemList depth hitem)
    intro items
    have hmethods := methods_parts_sublist items
    exact .pure (hmethods.cons_cons _)

theorem finds_typeItem (visibility : Visibility) : Finds [] (typeItem (upTo depth) visibility) Item.parts := by
  unfold typeItem
  apply Finds.skip
  intro _
  apply Finds.skip
  intro name
  apply Finds.skip
  intro _
  apply Finds.orElse
  · repeat (apply Finds.skip; intro _)
    exact .all rfl
  · repeat (apply Finds.skip; intro _)
    exact .all rfl

/-- Functions, structs and enums are kept with their parts. Of every other item that may have a visibility only
the kind is kept, and its tokens are passed over to the last. -/
theorem finds_visibleItem (visibility : Visibility) :
    Finds [] (visibleItem (upTo depth) visibility) Item.parts := by
  unfold visibleItem
  apply Finds.branch (finds_functionItem depth visibility)
  apply Finds.branch (finds_structItem depth visibility)
  apply Finds.branch (finds_enumItem depth visibility)
  apply Finds.branch
  · repeat (apply Finds.skip; intro _)
    exact .all rfl
  apply Finds.branch
  · repeat (apply Finds.skip; intro _)
    exact .all rfl
  apply Finds.branch
  · repeat (apply Finds.skip; intro _)
    exact .all rfl
  apply Finds.branch
  · repeat (apply Finds.skip; intro _)
    exact .all rfl
  apply Finds.branch (finds_typeItem depth visibility)
  apply Finds.branch
  · repeat (apply Finds.skip; intro _)
    exact .all rfl
  apply Finds.skip
  intro isTrait
  apply Finds.skip
  intro isUnsafeTrait
  apply Finds.ite
  · repeat (apply Finds.skip; intro _)
    exact .all rfl
  apply Finds.branch
  · repeat (apply Finds.skip; intro _)
    exact .all rfl
  · repeat (apply Finds.skip; intro _)
    exact .all rfl

theorem finds_bareItem (hitem : Finds [] (upTo depth).item Item.parts) :
    Finds [] (bareItem (upTo depth)) Item.parts := by
  unfold bareItem
  apply Finds.branch
  · repeat (apply Finds.skip; intro _)
    exact .all rfl
  apply Finds.branch
  · repeat (apply Finds.skip; intro _)
    exact .all rfl
  apply Finds.branch
  · repeat (apply Finds.skip; intro _)
    exact .all rfl
  apply Finds.branch
  · repeat (apply Finds.skip; intro _)
    exact .all rfl
  apply Finds.skip
  intro isImpl
  apply Finds.skip
  intro isUnsafeImpl
  apply Finds.ite
  · exact finds_implItem depth hitem
  · exact finds_visibleItem depth .hidden

theorem finds_plainItem (hitem : Finds [] (upTo depth).item Item.parts) :
    Finds [] (plainItem (upTo depth)) Item.parts := by
  unfold plainItem
  apply Finds.skip
  intro visibility
  cases visibility with
  | exposed => exact finds_visibleItem depth .exposed
  | hidden => exact finds_bareItem depth hitem

/-- Items contain items: the rules of one depth are made from those of the depth below, which is what the
induction goes by. At depth zero nothing is read. -/
theorem finds_item : Finds [] (upTo depth).item Item.parts := by
  induction depth with
  | zero => exact .fail
  | succ depth ih =>
    change Finds [] (item (upTo depth)) Item.parts
    unfold item
    apply Finds.branch
    · exact finds_plainItem depth ih
    · apply Finds.skip
      intro _
      exact .all rfl

theorem finds_statement : Finds [] (statement (upTo depth)) Statement.parts := by
  have hend : Finds [] statementEnd Statement.parts := by
    unfold statementEnd
    apply Finds.orElse
    · repeat (apply Finds.skip; intro _)
      exact .all rfl
    · repeat (apply Finds.skip; intro _)
      exact .all rfl
  have hcontinued : Finds [] (do (upTo depth).continuation {}; statementEnd) Statement.parts := by
    apply Finds.skip
    intro _
    exact hend
  unfold statement
  apply Finds.branch
  · apply Finds.bind (finds_plainItem depth (finds_item depth))
    intro item
    exact .all rfl
  -- What is left are expressions and macros. They have no parts, whether or not more of the expression follows.
  apply Finds.branch
  · apply Finds.skip
    intro _
    apply Finds.skip
    intro goesOn
    exact .ite hcontinued (.all rfl)
  apply Finds.branch
  · apply Finds.skip
    intro isEnded
    apply Finds.skip
    intro goesOn
    apply Finds.skip
    intro isCalled
    exact .ite hcontinued (.all rfl)
  · apply Finds.skip
    intro _
    exact hend

theorem finds_fileItems (fuel : Nat) : Finds [] (fileItems (upTo depth) fuel) (List.flatMap Item.parts) := by
  induction fuel with
  | zero => exact .fail
  | succ fuel ih =>
    unfold fileItems
    apply Finds.branch
    · exact .all rfl
    · apply Finds.bind (finds_statement depth)
      intro s
      cases s with
      | last => exact .fail
      | item i =>
        apply Finds.bind ih
        intro more
        exact .all rfl

/-- A file is kept as its items, in their order. An interpreter line in front counts as an item without parts. -/
theorem finds_file : Finds [] (file (upTo depth)) (List.flatMap Item.parts) := by
  unfold file
  apply Finds.skip
  intro hasShebang
  apply Finds.bind (.along fun ts => finds_fileItems depth _)
  intro items
  apply Finds.all
  split
  · rfl
  · rfl

end Grammar

/-- A source is parsed by cutting it into tokens and finding the items among them. How deep the rules of the
grammar may nest is told by the number of tokens. -/
theorem parse?_eq_some_iff {source : String} {parsed : Parsed} :
    parse? source = some parsed ↔ Lexer.tokens? source = some parsed.tokens ∧
      ∃ rest, (Grammar.file (Grammar.upTo (Grammar.depthFor parsed.tokens.length))).run (Token.reduce parsed.tokens) =
        some (parsed.items, rest) := by
  constructor
  · intro h
    obtain ⟨tokens, htokens, h⟩ := Option.bind_eq_some_iff.mp h
    obtain ⟨⟨items, rest⟩, hfile, h⟩ := Option.bind_eq_some_iff.mp h
    cases h
    exact ⟨htokens, rest, hfile⟩
  · rintro ⟨htokens, rest, hfile⟩
    refine Option.bind_eq_some_iff.mpr ⟨parsed.tokens, htokens, ?_⟩
    exact Option.bind_eq_some_iff.mpr ⟨(parsed.items, rest), hfile, rfl⟩

/-- The parts of the items of a source stand in it one after the other, none inside another. Whatever the rest
of the grammar does, this is all that later proofs need of it. -/
theorem parse?_inOrder {source : String} {parsed : Parsed} (h : parse? source = some parsed) :
    ∃ rest, InOrder (parsed.items.flatMap Item.parts) (Token.reduce parsed.tokens) rest := by
  obtain ⟨_, rest, hfile⟩ := parse?_eq_some_iff.mp h
  exact ⟨rest, (Grammar.finds_file _).run hfile⟩

end ClassDiagram.Rust
