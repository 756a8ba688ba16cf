import ClassDiagram.Diagram.PlantUml
import ClassDiagram.Proofs.Build.Members
import ClassDiagram.Proofs.Signature.Tokens

namespace ClassDiagram

/-- A name that can be told from what stands around it in a diagram. -/
def IsLegible (name : String) : Prop :=
  ∀ c ∈ name.toList, Text.isBlank c = false ∧ c ≠ '"' ∧ c ≠ ':' ∧ c ≠ '('

namespace PlantUml

/-- Characters of one class followed by a character outside it determine where they end. Nothing in a diagram is
escaped, so this is how each part of a line is told from the next: by the first character that the part cannot
hold. -/
theorem eq_of_append_cons_eq {P : Char → Prop} {as bs s t : List Char} {c d : Char} (has : ∀ x ∈ as, P x)
    (hbs : ∀ x ∈ bs, P x) (hc : ¬ P c) (hd : ¬ P d) (htext : as ++ c :: s = bs ++ d :: t) :
    as = bs ∧ c = d ∧ s = t := by
  induction as generalizing bs with
  | nil =>
    cases bs with
    | nil => simpa using htext
    | cons b bs =>
      obtain ⟨rfl, _⟩ := List.cons.inj htext
      exact absurd (hbs c List.mem_cons_self) hc
  | cons a as ih =>
    cases bs with
    | nil =>
      obtain ⟨rfl, _⟩ := List.cons.inj htext
      exact absurd (has a List.mem_cons_self) hd
    | cons b bs =>
      obtain ⟨rfl, hrest⟩ := List.cons.inj htext
      obtain ⟨rfl, hcd, hst⟩ := ih (fun x hx => has x (List.mem_cons_of_mem a hx))
        (fun x hx => hbs x (List.mem_cons_of_mem a hx)) hrest
      exact ⟨rfl, hcd, hst⟩

/-- Items in a row are read back one by one, if each determines itself and what follows it, and if the start of
an item is told from `E`, the end of the row. Members, parameters and blocks are all read back with it. -/
theorem flatMap_append_inj {α β : Type} {text : α → List Char} {shown : α → β} {IsItem : α → Prop}
    {E : List Char → Prop}
    (hread : ∀ a b s t, IsItem a → IsItem b → text a ++ s = text b ++ t → shown a = shown b ∧ s = t)
    (hstart : ∀ a s, IsItem a → ¬ E (text a ++ s)) {as bs : List α} (has : ∀ a ∈ as, IsItem a)
    (hbs : ∀ b ∈ bs, IsItem b) {s t : List Char} (hs : E s) (ht : E t)
    (htext : as.flatMap text ++ s = bs.flatMap text ++ t) : as.map shown = bs.map shown ∧ s = t := by
  induction as generalizing bs with
  | nil =>
    cases bs with
    | nil => exact ⟨rfl, htext⟩
    | cons b bs =>
      rw [List.flatMap_nil, List.nil_append, List.flatMap_cons, List.append_assoc] at htext
      exact absurd (htext ▸ hs) (hstart b _ (hbs b List.mem_cons_self))
  | cons a as ih =>
    rw [List.flatMap_cons, List.append_assoc] at htext
    cases bs with
    | nil =>
      rw [List.flatMap_nil, List.nil_append] at htext
      exact absurd (htext ▸ ht) (hstart a _ (has a List.mem_cons_self))
    | cons b bs =>
      rw [List.flatMap_cons, List.append_assoc] at htext
      obtain ⟨hfirst, hrest⟩ := hread a b _ _ (has a List.mem_cons_self) (hbs b List.mem_cons_self) htext
      obtain ⟨hmore, hend⟩ := ih (fun a ha => has a (List.mem_cons_of_mem _ ha))
        (fun b hb => hbs b (List.mem_cons_of_mem _ hb)) hrest
      exact ⟨by rw [List.map_cons, List.map_cons, hfirst, hmore], hend⟩

/-- Each text after the first stands behind a separator of its own. In this form a row of parameters can be read
back from the left. -/
theorem toList_intercalate_cons (separator first : String) (rest : List String) :
    (String.intercalate separator (first :: rest)).toList =
      first.toList ++ rest.flatMap fun text => separator.toList ++ text.toList := by
  induction rest generalizing first with
  | nil => simp
  | cons second rest ih => simp [String.intercalate_cons_cons, ih]

/-- A parameter as methods list it: a plain name, and a type without blanks. -/
structure IsParameter (e : Entity) : Prop where
  shape : e = .ofParameter e.name e.displayName
  plainName : Build.isPlainName e.name = true
  type : Text.BlankFree e.displayName

/-- What the builder keeps as a parameter has passed its check of the name, and its type was brought to the form
without blanks. -/
theorem isParameter_of_mem_parameters {ds : List ParameterDeclaration} {e : Entity}
    (he : e ∈ (Build.parameters ds).1) : IsParameter e := by
  obtain ⟨d, _, name, hplain, rfl⟩ := Build.mem_parameters he
  exact ⟨rfl, hplain, Signature.canonical_blankFree d.type⟩

/-- A word has at least one character, and each of them is one that names are made of. -/
theorem isWord_chars {cs : List Char} (hword : Build.isWord cs = true) :
    cs ≠ [] ∧ ∀ c ∈ cs, Build.isNameChar c = true := by
  cases cs with
  | nil => cases hword
  | cons first rest =>
    obtain ⟨hfirst, hrest⟩ := Bool.and_eq_true_iff.mp hword
    refine ⟨by simp, fun c hc => ?_⟩
    rcases List.mem_cons.mp hc with rfl | hc
    · simp [Build.isNameChar, hfirst]
    · exact List.all_eq_true.mp hrest c hc

/-- A plain name holds at least one character, and of those that are no word characters only `#`, as in a raw
identifier. -/
theorem isPlainName_chars {name : String} (hplain : Build.isPlainName name = true) :
    name.toList ≠ [] ∧ ∀ c ∈ name.toList, Build.isNameChar c = true ∨ c = '#' := by
  rw [Build.isPlainName, Bool.and_eq_true] at hplain
  obtain ⟨_, hword⟩ := hplain
  split at hword
  · next rest hraw =>
    rw [hraw]
    refine ⟨by simp, fun c hc => ?_⟩
    rcases List.mem_cons.mp hc with rfl | hc
    · exact .inl (by decide)
    · rcases List.mem_cons.mp hc with rfl | hc
      · exact .inr rfl
      · exact .inl ((isWord_chars hword).2 c hc)
  · exact ⟨(isWord_chars hword).1, fun c hc => .inl ((isWord_chars hword).2 c hc)⟩

/-- The colon behind a parameter's name and the parenthesis that closes the parameters are no part of a plain
name. -/
theorem isPlainName_ne {name : String} (hplain : Build.isPlainName name = true) {c : Char}
    (hc : c ∈ name.toList) : c ≠ ':' ∧ c ≠ ')' := by
  rcases (isPlainName_chars hplain).2 c hc with hchar | rfl
  · constructor <;> rintro rfl <;> exact absurd hchar (by decide)
  · decide

/-- A word without blanks and the mark behind it are told apart by the blank after the mark. The mark may itself
occur in the word, as a comma does in a type; what follows the word decides. -/
theorem eq_of_word_mark {as bs s t : List Char} {x y c d : Char} (has : ∀ a ∈ as, Text.isBlank a = false)
    (hbs : ∀ b ∈ bs, Text.isBlank b = false) (hx : Text.isBlank x = false) (hy : Text.isBlank y = false)
    (hc : Text.isBlank c = true) (hd : Text.isBlank d = true)
    (htext : as ++ x :: c :: s = bs ++ y :: d :: t) : as = bs ∧ x = y ∧ c = d ∧ s = t := by
  have hword {as : List Char} {x : Char} (has : ∀ a ∈ as, Text.isBlank a = false)
      (hx : Text.isBlank x = false) : ∀ a ∈ as ++ [x], Text.isBlank a = false := by
    intro a ha
    rcases List.mem_append.mp ha with ha | ha
    · exact has a ha
    · rw [List.mem_singleton.mp ha]
      exact hx
  have htext' : (as ++ [x]) ++ c :: s = (bs ++ [y]) ++ d :: t := by simpa using htext
  obtain ⟨hwords, hblanks, hrest⟩ := eq_of_append_cons_eq (hword has hx) (hword hbs hy) (by simp [hc])
    (by simp [hd]) htext'
  obtain ⟨hsame, hmarks⟩ := List.append_inj' hwords rfl
  exact ⟨hsame, List.singleton_inj.mp hmarks, hblanks, hrest⟩

theorem toList_parameter (e : Entity) :
    (parameter e).toList = e.name.toList ++ ':' :: ' ' :: e.displayName.toList := by
  simp [parameter]

/-- A parameter followed by a mark and a blank is read back with what follows. Its name ends at the colon, and
its type, which has no blank in it, at the blank behind the mark. -/
theorem parameter_append_inj {e f : Entity} (he : IsParameter e) (hf : IsParameter f) {s t : List Char}
    {x y c d : Char} (hx : Text.isBlank x = false) (hy : Text.isBlank y = false) (hc : Text.isBlank c = true)
    (hd : Text.isBlank d = true)
    (htext : (parameter e).toList ++ x :: c :: s = (parameter f).toList ++ y :: d :: t) :
    e = f ∧ x = y ∧ c = d ∧ s = t := by
  simp only [toList_parameter, List.append_assoc, List.cons_append] at htext
  obtain ⟨hname, _, hrest⟩ := eq_of_append_cons_eq (P := fun c => c ≠ ':')
    (fun c hc => (isPlainName_ne he.plainName hc).1) (fun c hc => (isPlainName_ne hf.plainName hc).1)
    (by simp) (by simp) htext
  obtain ⟨_, hrest⟩ := List.cons.inj hrest
  obtain ⟨htype, hmarks, hblanks, hend⟩ := eq_of_word_mark he.type hf.type hx hy hc hd hrest
  refine ⟨?_, hmarks, hblanks, hend⟩
  rw [he.shape, hf.shape, String.toList_inj.mp hname, String.toList_inj.mp htype]

/-- What stands between the parentheses of a method and to the end of its line. -/
def parametersText : List Entity → List Char
  | [] => [')', '\n']
  | e :: es => (parameter e).toList ++ es.flatMap (fun e => ',' :: ' ' :: (parameter e).toList) ++ [')', '\n']

theorem toList_intercalate_parameters (es : List Entity) :
    (String.intercalate ", " (es.map parameter)).toList ++ [')', '\n'] = parametersText es := by
  cases es with
  | nil => simp [parametersText]
  | cons e es =>
    rw [List.map_cons, toList_intercalate_cons, List.flatMap_map]
    simp [parametersText]

/-- The parameters after the first are read back one by one, each by the comma in front of it. The last type is
followed by the closing parenthesis and the end of the line, which is a blank as well. -/
theorem moreParameters_append_inj {es fs : List Entity} (hes : ∀ e ∈ es, IsParameter e)
    (hfs : ∀ f ∈ fs, IsParameter f) {e f : Entity} (he : IsParameter e) (hf : IsParameter f)
    {s t : List Char}
    (htext :
      (parameter e).toList ++
          (es.flatMap (fun e => ',' :: ' ' :: (parameter e).toList) ++ ')' :: '\n' :: s) =
        (parameter f).toList ++
          (fs.flatMap (fun e => ',' :: ' ' :: (parameter e).toList) ++ ')' :: '\n' :: t)) :
    e = f ∧ es = fs ∧ s = t := by
  induction es generalizing e f fs with
  | nil =>
    cases fs with
    | nil =>
      obtain ⟨hsame, _, _, hend⟩ := parameter_append_inj he hf (by decide) (by decide)
        (by decide) (by decide) htext
      exact ⟨hsame, rfl, hend⟩
    | cons f' fs =>
      obtain ⟨_, hmark, _⟩ := parameter_append_inj he hf (by decide) (by decide)
        (by decide) (by decide) htext
      exact absurd hmark (by decide)
  | cons e' es ih =>
    cases fs with
    | nil =>
      obtain ⟨_, hmark, _⟩ := parameter_append_inj he hf (by decide) (by decide)
        (by decide) (by decide) htext
      exact absurd hmark (by decide)
    | cons f' fs =>
      simp only [List.flatMap_cons, List.cons_append, List.append_assoc] at htext
      obtain ⟨hsame, _, _, hrest⟩ := parameter_append_inj he hf (by decide) (by decide)
        (by decide) (by decide) htext
      obtain ⟨hnext, hmore, hend⟩ := ih (fun e he => hes e (List.mem_cons_of_mem _ he))
        (fun f hf => hfs f (List.mem_cons_of_mem _ hf)) (hes e' List.mem_cons_self)
        (hfs f' List.mem_cons_self) hrest
      exact ⟨hsame, by rw [hnext, hmore], hend⟩

/-- The text from the opening parenthesis of a method to the end of its line determines the parameters; a method
without any is told by the parenthesis that closes at once. -/
theorem parametersText_append_inj {es fs : List Entity} (hes : ∀ e ∈ es, IsParameter e)
    (hfs : ∀ f ∈ fs, IsParameter f) {s t : List Char}
    (htext : parametersText es ++ s = parametersText fs ++ t) : es = fs ∧ s = t := by
  -- A list without parameters starts with the closing parenthesis, which no name holds.
  have hempty {f : Entity} {fs : List Entity} {s t : List Char} (hf : IsParameter f)
      (htext : parametersText [] ++ s = parametersText (f :: fs) ++ t) : False := by
    obtain ⟨first, rest, hname⟩ := List.exists_cons_of_ne_nil (isPlainName_chars hf.plainName).1
    simp only [parametersText, toList_parameter, hname, List.cons_append] at htext
    exact (isPlainName_ne hf.plainName (hname ▸ List.mem_cons_self)).2 (List.cons.inj htext).1.symm
  cases es with
  | nil =>
    cases fs with
    | nil => simpa [parametersText] using htext
    | cons f fs => exact (hempty (hfs f List.mem_cons_self) htext).elim
  | cons e es =>
    cases fs with
    | nil => exact (hempty (hes e List.mem_cons_self) htext.symm).elim
    | cons f fs =>
      obtain ⟨hfirst, hmore, hend⟩ := moreParameters_append_inj
        (fun e he => hes e (List.mem_cons_of_mem _ he)) (fun f hf => hfs f (List.mem_cons_of_mem _ hf))
        (hes e List.mem_cons_self) (hfs f List.mem_cons_self) (by simpa [parametersText] using htext)
      exact ⟨by rw [hfirst, hmore], hend⟩

/-- The mark before a member as a character. -/
def markChar (showVisibility : Bool) (v : Visibility) : Char :=
  if showVisibility && v = .hidden then '-' else '+'

theorem toList_marker (showVisibility : Bool) (v : Visibility) :
    (marker showVisibility v).toList = [markChar showVisibility v] := by
  rw [marker, markChar]
  split <;> rfl

/-- The visibility that a diagram tells: all of it, or none. -/
def shownVisibility (showVisibility : Bool) (v : Visibility) : Visibility :=
  if showVisibility then v else .hidden

/-- The mark before a member tells its visibility when visibility is shown, and nothing when it is not. -/
theorem markChar_inj {showVisibility : Bool} {v v' : Visibility}
    (hmark : markChar showVisibility v = markChar showVisibility v') :
    shownVisibility showVisibility v = shownVisibility showVisibility v' := by
  revert hmark
  cases showVisibility <;> cases v <;> cases v' <;> decide

/-- An entity as its line tells it. -/
def asShown (showVisibility : Bool) (e : Entity) : Entity :=
  { e with visibility := shownVisibility showVisibility e.visibility }

/-- A member as blocks list it: a field or a method of a declaration, with a legible name. -/
inductive IsMember : Entity → Prop
  | field (d : FieldDeclaration) (hname : IsLegible d.name) : IsMember (Build.field d)
  | method (d : MethodDeclaration) (hname : IsLegible d.name) : IsMember (Build.method d).1

/-- The line of a member up to the end of its name. -/
def lineStart (mark : Char) (name : String) : List Char :=
  ' ' :: ' ' :: ' ' :: ' ' :: mark :: ' ' :: name.toList

/-- The line of a field: its mark and name, a colon, and its type in canonical form, which holds no blank and so
ends with the line. -/
theorem toList_member_field (showVisibility : Bool) (d : FieldDeclaration) :
    (member showVisibility (Build.field d)).toList =
      lineStart (markChar showVisibility d.visibility) d.name ++
        ':' :: ' ' :: ((Signature.canonical d.type).toList ++ ['\n']) := by
  simp [member, Build.field, Entity.ofField, toList_marker, lineStart]

theorem filter_parameters (ds : List ParameterDeclaration) :
    (Build.parameters ds).1.filter (·.kind = .parameter) = (Build.parameters ds).1 := by
  rw [List.filter_eq_self]
  intro e he
  obtain ⟨_, _, name, _, rfl⟩ := Build.mem_parameters he
  rfl

/-- The line of a method: its mark and name, then the parameters that the builder kept of those declared. A
return type is not shown. -/
theorem toList_member_method (showVisibility : Bool) (d : MethodDeclaration) :
    (member showVisibility (Build.method d).1).toList =
      lineStart (markChar showVisibility d.visibility) d.name ++
        '(' :: parametersText (Build.parameters d.parameters).1 := by
  rw [← toList_intercalate_parameters]
  simp only [member, Build.method, Entity.ofMethod, filter_parameters, String.toList_append,
    toList_marker, if_true]
  simp [lineStart]

/-- A legible name ends at the first colon or opening parenthesis, and this character tells a field from a
method. -/
theorem lineStart_append_inj {mark mark' : Char} {name name' : String} (hname : IsLegible name)
    (hname' : IsLegible name') {x y : Char} (hx : x = ':' ∨ x = '(') (hy : y = ':' ∨ y = '(')
    {s t : List Char} (htext : lineStart mark name ++ x :: s = lineStart mark' name' ++ y :: t) :
    mark = mark' ∧ name = name' ∧ x = y ∧ s = t := by
  simp only [lineStart, List.cons_append, List.cons.injEq, true_and] at htext
  obtain ⟨hmark, htext⟩ := htext
  obtain ⟨hsame, hxy, hrest⟩ := eq_of_append_cons_eq (P := fun c => c ≠ ':' ∧ c ≠ '(')
    (fun c hc => (hname c hc).2.2) (fun c hc => (hname' c hc).2.2) (by rcases hx with rfl | rfl <;> simp)
    (by rcases hy with rfl | rfl <;> simp) htext
  exact ⟨hmark, String.toList_inj.mp hsame, hxy, hrest⟩

/-- The line of a member tells its name and its type or parameters, and under the setting that shows it the
visibility. All else in a field, such as what its type refers to, follows from its type. -/
theorem member_append_inj {showVisibility : Bool} {e f : Entity} (he : IsMember e) (hf : IsMember f)
    {s t : List Char}
    (htext : (member showVisibility e).toList ++ s = (member showVisibility f).toList ++ t) :
    asShown showVisibility e = asShown showVisibility f ∧ s = t := by
  cases he with
  | field d hname =>
    cases hf with
    | field d' hname' =>
      simp only [toList_member_field, List.append_assoc, List.cons_append, List.nil_append] at htext
      obtain ⟨hmark, hsame, _, hrest⟩ := lineStart_append_inj hname hname' (.inl rfl) (.inl rfl) htext
      obtain ⟨htype, _, hend⟩ := eq_of_append_cons_eq (Signature.canonical_blankFree d.type)
        (Signature.canonical_blankFree d'.type) (by decide) (by decide) (List.cons.inj hrest).2
      have htype := String.toList_inj.mp htype
      refine ⟨?_, hend⟩
      simp only [asShown, Build.field, Entity.ofField, hsame, htype, markChar_inj hmark]
    | method d' hname' =>
      -- A field has a colon where a method has its parenthesis.
      simp only [toList_member_field, toList_member_method, List.append_assoc, List.cons_append] at htext
      obtain ⟨_, _, hkind, _⟩ := lineStart_append_inj hname hname' (.inl rfl) (.inr rfl) htext
      exact absurd hkind (by decide)
  | method d hname =>
    cases hf with
    | field d' hname' =>
      simp only [toList_member_field, toList_member_method, List.append_assoc, List.cons_append] at htext
      obtain ⟨_, _, hkind, _⟩ := lineStart_append_inj hname hname' (.inr rfl) (.inl rfl) htext
      exact absurd hkind (by decide)
    | method d' hname' =>
      simp only [toList_member_method, List.append_assoc, List.cons_append] at htext
      obtain ⟨hmark, hsame, _, hrest⟩ := lineStart_append_inj hname hname' (.inr rfl) (.inr rfl) htext
      obtain ⟨hparameters, hend⟩ := parametersText_append_inj (fun _ => isParameter_of_mem_parameters)
        (fun _ => isParameter_of_mem_parameters) hrest
      refine ⟨?_, hend⟩
      simp only [asShown, Build.method, Entity.ofMethod, hsame, hparameters, markChar_inj hmark]

/-- The line of a member starts with a blank, which tells it from the brace that closes the block. -/
theorem member_start (showVisibility : Bool) {e : Entity} (he : IsMember e) :
    ∃ rest, (member showVisibility e).toList = ' ' :: rest := by
  cases he with
  | field d _ => exact ⟨_, toList_member_field showVisibility d⟩
  | method d _ => exact ⟨_, toList_member_method showVisibility d⟩

/-- The lines of members are read back up to the brace that closes the block. A brace inside a type does no
harm, since each line is read to its end first. -/
theorem members_append_inj {showVisibility : Bool} {es fs : List Entity} (hes : ∀ e ∈ es, IsMember e)
    (hfs : ∀ f ∈ fs, IsMember f) {s t : List Char}
    (htext : es.flatMap (fun e => (member showVisibility e).toList) ++ '\x7d' :: s =
      fs.flatMap (fun f => (member showVisibility f).toList) ++ '\x7d' :: t) :
    es.map (asShown showVisibility) = fs.map (asShown showVisibility) ∧ s = t := by
  have hstart : ∀ e s, IsMember e → ¬ ∃ t, (member showVisibility e).toList ++ s = '\x7d' :: t := by
    rintro e s he ⟨t, hbrace⟩
    obtain ⟨rest, hline⟩ := member_start showVisibility he
    rw [hline, List.cons_append] at hbrace
    exact absurd (List.cons.inj hbrace).1 (by decide)
  obtain ⟨hsame, hend⟩ := flatMap_append_inj (E := fun s => ∃ t, s = '\x7d' :: t)
    (fun _ _ _ _ he hf => member_append_inj he hf) hstart hes hfs ⟨s, rfl⟩ ⟨t, rfl⟩ htext
  exact ⟨hsame, (List.cons.inj hend).2⟩

/-- A type as diagrams show it: a struct with its members or an enum, with a legible name. -/
inductive IsType : Entity → Prop
  | struct (name : String) (members : List Entity) (visibility : Visibility) (hname : IsLegible name)
      (hmembers : ∀ m ∈ members, IsMember m) : IsType (.ofStruct name members visibility)
  | enum (name : String) (visibility : Visibility) (hname : IsLegible name) : IsType (.ofEnum name visibility)

/-- A type as its block tells it: without its own visibility. -/
def typeAsShown (showVisibility : Bool) (e : Entity) : Entity :=
  { e with visibility := .hidden, members := e.members.map (asShown showVisibility) }

theorem IsMember.isMember_eq_true {e : Entity} (he : IsMember e) : e.isMember = true := by
  cases he <;> rfl

/-- The block of a struct whose members are fields and methods lists them all, so none is lost when it is read
back. -/
theorem toList_block_struct (showVisibility : Bool) (name : String) {members : List Entity}
    (visibility : Visibility) (hmembers : ∀ m ∈ members, IsMember m) :
    (block showVisibility (.ofStruct name members visibility)).toList =
      "class ".toList ++ '"' :: (name.toList ++
        '"' :: ' ' :: '\x7b' :: '\n' ::
          (members.flatMap (fun m => (member showVisibility m).toList) ++ ['\x7d'])) := by
  have hall : members.filter Entity.isMember = members :=
    List.filter_eq_self.mpr fun m hm => (hmembers m hm).isMember_eq_true
  simp [block, Entity.ofStruct, hall, List.flatMap_map]

theorem toList_block_enum (showVisibility : Bool) (name : String) (visibility : Visibility) :
    (block showVisibility (.ofEnum name visibility)).toList =
      "enum ".toList ++ '"' :: (name.toList ++ '"' :: ' ' :: '\x7b' :: '\n' :: ['\x7d']) := by
  simp [block, Entity.ofEnum]

/-- A legible name holds no quote and so ends at the one that closes it. -/
theorem name_append_inj {name name' : String} (hname : IsLegible name) (hname' : IsLegible name')
    {s t : List Char} (htext : name.toList ++ '"' :: s = name'.toList ++ '"' :: t) :
    name = name' ∧ s = t := by
  obtain ⟨hsame, _, hrest⟩ := eq_of_append_cons_eq (P := fun c => c ≠ '"') (fun c hc => (hname c hc).2.1)
    (fun c hc => (hname' c hc).2.1) (by simp) (by simp) htext
  exact ⟨String.toList_inj.mp hsame, hrest⟩

/-- The block of a type tells its kind, its name and its members. Two diagrams can therefore be compared block
by block. -/
theorem block_append_inj {showVisibility : Bool} {e f : Entity} (he : IsType e) (hf : IsType f)
    {s t : List Char}
    (htext : (block showVisibility e).toList ++ s = (block showVisibility f).toList ++ t) :
    typeAsShown showVisibility e = typeAsShown showVisibility f ∧ s = t := by
  cases he with
  | struct name members visibility hname hmembers =>
    rw [toList_block_struct showVisibility name visibility hmembers] at htext
    cases hf with
    | struct name' members' visibility' hname' hmembers' =>
      rw [toList_block_struct showVisibility name' visibility' hmembers'] at htext
      simp only [List.append_assoc, List.cons_append, List.append_cancel_left_eq, List.cons.injEq,
        true_and] at htext
      obtain ⟨rfl, hrest⟩ := name_append_inj hname hname' htext
      simp only [List.cons.injEq, true_and, List.nil_append] at hrest
      obtain ⟨hsame, hend⟩ := members_append_inj hmembers hmembers' hrest
      exact ⟨by simp only [typeAsShown, Entity.ofStruct, hsame], hend⟩
    | enum name' visibility' hname' =>
      rw [toList_block_enum] at htext
      exact absurd (List.cons.inj htext).1 (by decide)
  | enum name visibility hname =>
    rw [toList_block_enum] at htext
    cases hf with
    | struct name' members' visibility' hname' hmembers' =>
      rw [toList_block_struct showVisibility name' visibility' hmembers'] at htext
      exact absurd (List.cons.inj htext).1 (by decide)
    | enum name' visibility' hname' =>
      rw [toList_block_enum] at htext
      simp only [List.append_assoc, List.cons_append, List.append_cancel_left_eq, List.cons.injEq,
        true_and] at htext
      obtain ⟨rfl, hrest⟩ := name_append_inj hname hname' htext
      exact ⟨rfl, by simpa using hrest⟩

end PlantUml

end ClassDiagram
