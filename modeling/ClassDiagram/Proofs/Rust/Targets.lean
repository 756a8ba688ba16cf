import ClassDiagram.Proofs.Rust.Names
import ClassDiagram.Proofs.Rust.Types

namespace ClassDiagram

namespace Merge

/-- A declaration that is no type can be left out when the types of a unit are collected. -/
theorem describedWith_without {includeEnums : Bool} {d : Declaration} (htype : typeName? includeEnums d = none)
    (before after impls : List Declaration) :
    describedWith includeEnums (before ++ d :: after) impls = describedWith includeEnums (before ++ after) impls := by
  have hnames : typeNames includeEnums (before ++ d :: after) = typeNames includeEnums (before ++ after) := by
    simp [typeNames, List.filterMap_append, htype]
  rw [describedWith, hnames, describedWith]
  refine List.filterMap_congr fun name _ => ?_
  simp [firstOf?, List.find?_append, htype]

/-- The entities of a unit, with and without an impl block, are alike up to the structs that the block adds
functions to. None is lost and none joins, as a block declares no type. -/
theorem described_without (includeEnums : Bool) (before after : List Declaration) (block : ImplDeclaration) :
    List.Forall₂ (fun e₀ e => e = e₀ ∨ methodsFor e.displayName (.impl block) ≠ [])
      (described includeEnums (before ++ after)) (described includeEnums (before ++ .impl block :: after)) := by
  rw [described, described, describedWith_without rfl, ← map_attach_describedWith,
    ← map_attach_describedWith includeEnums (before ++ after) (before ++ .impl block :: after),
    List.forall₂_map_left_iff, List.forall₂_map_right_iff, List.forall₂_same]
  intro e _
  by_cases hstruct : e.kind = .struct
  · by_cases hnone : methodsFor e.displayName (.impl block) = []
    · exact .inl (by simp [attach, hstruct, hnone])
    · exact .inr (by simpa [attach, hstruct] using hnone)
  · exact .inl (by simp [attach, hstruct])

/-- The struct of a declared name holds the functions of each impl block for the name, in their order and with
none of other blocks between them. -/
theorem exists_struct_of_declared {ds : List Declaration} {s : StructDeclaration} (hs : .struct s ∈ ds)
    (hshape : s.shape ≠ .tuple) {block : ImplDeclaration} (hblock : .impl block ∈ ds) :
    ∃ e ∈ described false ds, e.kind = .struct ∧ e.displayName = s.name ∧
      methodsFor s.name (.impl block) <:+: e.members := by
  have hname : s.name ∈ typeNames false ds := mem_typeNames.mpr ⟨_, hs, by simp [typeName?, hshape]⟩
  obtain ⟨d, e, hfirst, _, htype, hentity, hdisplay⟩ := firstOf?_of_mem_typeNames hname ds
  have hmem : e ∈ described false ds := by
    rw [described, describedWith, List.mem_filterMap]
    exact ⟨s.name, hname, by rw [hfirst]; exact hentity⟩
  refine ⟨e, hmem, ?_⟩
  cases d with
  | struct first =>
    cases hentity
    have hsame : first.name = s.name := hdisplay
    refine ⟨rfl, hsame, ?_⟩
    obtain ⟨early, late, rfl⟩ := List.append_of_mem hblock
    refine ⟨first.fields.map Build.field ++ early.flatMap (methodsFor s.name), late.flatMap (methodsFor s.name), ?_⟩
    simp [Entity.ofStruct, hsame]
  | enum d => cases htype
  | impl d => cases htype
  | other kind => cases htype

end Merge

namespace Rust

/-- A place tells its tokens among those of the whole source by counting from the end. -/
theorem Span.tokens_of_isSuffix {ts taken mid : List Token} (h : taken ++ mid <:+ ts) :
    Span.tokens ⟨(taken ++ mid).length, mid.length⟩ ts = taken := by
  obtain ⟨before, rfl⟩ := h
  simp [Span.tokens]

/-- The tokens at a place are the same to the grammar and in the source, up to their gaps. -/
theorem Span.tokens_sameWord (place : Span) (ts : List Token) :
    List.Forall₂ Token.SameWord (place.tokens (Token.reduce ts)) (place.tokens ts) := by
  have hsame := Token.reduce_sameWord ts
  rw [Span.tokens, Span.tokens, hsame.length_eq]
  exact List.forall₂_take _ (List.forall₂_drop _ hsame)

/-- Whether tokens are a lone word, perhaps after `dyn` or `impl`, does not depend on their gaps. -/
theorem isPlain_of_sameWord {ts us : List Token} (hplain : Grammar.IsPlain ts)
    (hsame : List.Forall₂ Token.SameWord ts us) : Grammar.IsPlain us := by
  rcases hplain with ⟨t, ht, hmark⟩ | ⟨w, hword, rfl | ⟨k, hk, rfl⟩⟩
  · obtain ⟨u, hu, hkind, htext⟩ := Token.exists_sameWord_of_mem hsame ht
    rw [Token.IsMark, hkind, htext] at hmark
    exact .inl ⟨u, hu, hmark⟩
  · obtain _ | ⟨⟨hkind, _⟩, _ | _⟩ := hsame
    exact .inr ⟨_, hkind ▸ hword, .inl rfl⟩
  · obtain _ | ⟨⟨hkind, htext⟩, _ | ⟨⟨hkind', _⟩, _ | _⟩⟩ := hsame
    simp only [Token.isWord, hkind, htext] at hk
    exact .inr ⟨_, hkind' ▸ hword, .inr ⟨_, hk, rfl⟩⟩

/-- The target of an impl block is a type, so that without a mark it is a word or two. -/
theorem parse?_target_isPlain {source : String} {parsed : Parsed} (hparsed : parse? source = some parsed)
    {block : Syntax.Impl} (hblock : .impl block ∈ parsed.items) :
    Grammar.IsPlain (block.target.tokens parsed.tokens) := by
  obtain ⟨rest, hparts⟩ := parse?_inOrder hparsed
  have hmem : .target block.target ∈ parsed.items.flatMap Item.parts :=
    List.mem_flatMap.mpr ⟨.impl block, hblock, List.mem_cons_self⟩
  obtain ⟨start, mid, hstart, hplace, depth, form, htype⟩ := hparts.stands_of_mem hmem
  obtain ⟨taken, rfl, hplain⟩ := (Grammar.takes_type depth false).taken htype
  have htokens := Span.tokens_sameWord block.target parsed.tokens
  rw [hplace, Span.tokens_of_isSuffix hstart] at htokens
  rw [hplace]
  exact isPlain_of_sameWord hplain htokens

/-- The name of the struct that an impl block for a type is taken to be for: a plain name that is the type, or
the words of a type that begins with `dyn` or `impl` run together. -/
inductive TakenFor : List Token → String → Prop
  | name (w : Token) (hword : w.kind = .word) (hplain : Build.isPlainName (String.ofList w.text) = true) :
      TakenFor [w] (String.ofList w.text)
  | joined (k w : Token) (hk : k.isWord "dyn" = true ∨ k.isWord "impl" = true) (hword : w.kind = .word)
      (hgap : ∀ c ∈ w.gap, Text.isBlank c = true) (hplain : ∀ c ∈ w.text, Build.isNameChar c = true) :
      TakenFor [k, w] (String.ofList (k.text ++ w.text))

theorem Token.mem_sourceOf {ts : List Token} {t : Token} (ht : t ∈ ts) {c : Char} (hc : c ∈ t.text) :
    c ∈ (sourceOf ts).toList := by
  cases ts with
  | nil => cases ht
  | cons first ts =>
    rw [sourceOf, String.toList_ofList, List.mem_append, List.mem_flatMap]
    rcases List.mem_cons.mp ht with rfl | ht
    · exact .inl hc
    · exact .inr ⟨t, ht, List.mem_append_right _ hc⟩

/-- A character that is no blank stays when a text is brought into canonical form. -/
theorem mem_canonical {text : String} {c : Char} (hc : c ∈ text.toList) (hblank : Text.isBlank c = false) :
    c ∈ (Signature.canonical text).toList := by
  rw [Signature.canonical, Text.dropBlanks, String.toList_ofList, List.mem_filter]
  exact ⟨hc, by simp [hblank]⟩

/-- A mark is no character of a plain name, so a target with a mark leads to no struct. -/
theorem not_isPlainName_of_hasMark {ts : List Token} (hread : ∀ t ∈ ts, Lexer.IsRead t) (hmark : HasMark ts) :
    Build.isPlainName (Signature.canonical (Token.sourceOf ts)) = false := by
  have hchar : ∃ c ∈ '$' :: typeMarks, c ∈ (Token.sourceOf ts).toList := by
    obtain ⟨t, ht, hvariable | ⟨c, hc, htext⟩⟩ := hmark
    · obtain ⟨name, htext, _⟩ := (hread t ht).metavariable hvariable
      exact ⟨'$', List.mem_cons_self, Token.mem_sourceOf ht (by simp [htext])⟩
    · exact ⟨c, List.mem_cons_of_mem _ hc, Token.mem_sourceOf ht (by simp [htext])⟩
  obtain ⟨c, hmarks, hc⟩ := hchar
  have hodd : ∀ c ∈ '$' :: typeMarks, Text.isBlank c = false ∧ Build.isNameChar c = false ∧ c ≠ '#' :=
    Text.forall_of_all (by decide)
  obtain ⟨hblank, hname, hhash⟩ := hodd c hmarks
  by_contra hplain
  rcases (PlantUml.isPlainName_chars (by simpa using hplain)).2 c (mem_canonical hc hblank) with h | h
  · simp [hname] at h
  · exact hhash h

theorem canonical_word {w : Token} (hread : Lexer.IsRead w) (hword : w.kind = .word) :
    Signature.canonical (Token.sourceOf [w]) = String.ofList w.text := by
  have hsource : Token.sourceOf [w] = String.ofList w.text := by simp [Token.sourceOf]
  rw [hsource]
  refine Signature.canonical_eq_self fun c hc => ?_
  exact (hread.word hword c (by simpa using hc)).isBlank

/-- Two words with a gap between them become one text without its blanks. A comment in the gap would stay. -/
theorem canonical_words {k w : Token} (hk : k.isWord "dyn" = true ∨ k.isWord "impl" = true)
    (hread : Lexer.IsRead w) (hword : w.kind = .word) :
    (Signature.canonical (Token.sourceOf [k, w])).toList =
      k.text ++ (w.gap.filter (fun c => !Text.isBlank c) ++ w.text) := by
  have hfirst : k.text.filter (fun c => !Text.isBlank c) = k.text := by
    simp only [Token.isWord, Bool.and_eq_true, decide_eq_true_eq] at hk
    rcases hk with ⟨_, htext⟩ | ⟨_, htext⟩ <;> rw [htext] <;> decide
  have hsecond : w.text.filter (fun c => !Text.isBlank c) = w.text :=
    Text.filter_eq_self_of_not_blank fun c hc => (hread.word hword c hc).isBlank
  simp [Token.sourceOf, Signature.canonical, Text.dropBlanks, List.filter_append, hfirst, hsecond]

theorem isPlainName_cons_cons {c : Char} (hc : c ≠ 'r') (d : Char) (cs : List Char) :
    Build.isPlainName (String.ofList (c :: d :: cs)) = Build.isWord (c :: d :: cs) := by
  have hne : String.ofList (c :: d :: cs) ≠ "_" := by
    intro h
    have hlength := congrArg (fun s => s.toList.length) h
    simp at hlength
  rw [Build.isPlainName, decide_eq_true hne, Bool.true_and, String.toList_ofList]
  split
  · next hraw => exact absurd (List.cons.inj hraw).1 hc
  · rfl

/-- Whether the words behind `dyn` or `impl` make a plain name with it is seen from their characters: neither
word begins as a raw name does. -/
theorem isPlainName_joined {k : Token} (hk : k.isWord "dyn" = true ∨ k.isWord "impl" = true) (cs : List Char) :
    Build.isPlainName (String.ofList (k.text ++ cs)) = cs.all Build.isNameChar := by
  simp only [Token.isWord, Bool.and_eq_true, decide_eq_true_eq] at hk
  rcases hk with ⟨_, htext⟩ | ⟨_, htext⟩
  · rw [htext]
    exact isPlainName_cons_cons (by decide) _ _
  · rw [htext]
    exact isPlainName_cons_cons (by decide) _ _

/-- A target is taken for a name exactly if its text without blanks is this name and the name is plain. The left
side tells it by the tokens and the right side as the builder does. -/
theorem takenFor_iff {ts : List Token} (hplain : Grammar.IsPlain ts) (hread : ∀ t ∈ ts, Lexer.IsRead t)
    (name : String) :
    TakenFor ts name ↔ Signature.canonical (Token.sourceOf ts) = name ∧ Build.isPlainName name = true := by
  constructor
  · rintro (⟨w, hword, hname⟩ | ⟨k, w, hk, hword, hgap, hname⟩)
    · exact ⟨canonical_word (hread w List.mem_cons_self) hword, hname⟩
    · have htext := canonical_words hk (hread w (by simp)) hword
      rw [Text.filter_eq_nil_of_blank hgap, List.nil_append] at htext
      refine ⟨String.toList_inj.mp (by rw [htext, String.toList_ofList]), ?_⟩
      rw [isPlainName_joined hk, List.all_eq_true]
      exact hname
  · rintro ⟨rfl, hname⟩
    rcases hplain with hmark | ⟨w, hword, rfl | ⟨k, hk, rfl⟩⟩
    · rw [not_isPlainName_of_hasMark hread hmark] at hname
      cases hname
    · rw [canonical_word (hread w List.mem_cons_self) hword] at hname ⊢
      exact .name w hword hname
    · have hreadw : Lexer.IsRead w := hread w (by simp)
      have htext : Signature.canonical (Token.sourceOf [k, w]) =
          String.ofList (k.text ++ (w.gap.filter (fun c => !Text.isBlank c) ++ w.text)) := by
        rw [← canonical_words hk hreadw hword, String.ofList_toList]
      rw [htext, isPlainName_joined hk, List.all_append, Bool.and_eq_true, List.all_eq_true,
        List.all_eq_true] at hname
      -- A comment in the gap would leave a slash between the words.
      have hslash : '/' ∉ w.gap := by
        intro hmem
        have hkept : '/' ∈ w.gap.filter fun c => !Text.isBlank c := List.mem_filter.mpr ⟨hmem, by decide⟩
        exact absurd (hname.1 '/' hkept) (by decide)
      have hgap := hreadw.gap hslash
      rw [htext, Text.filter_eq_nil_of_blank hgap, List.nil_append]
      exact .joined k w hk hword hgap hname.2

/-- The entities that some items of a source make. -/
def Parsed.entitiesOf (parsed : Parsed) (items : List Item) : List Entity :=
  (({} : Builder).build ⟨none, items.filterMap (Item.read? (Span.text parsed.tokens))⟩).1

/-- An inherent impl block goes to the struct of the name that its target is taken for, with all its functions
in their order, and makes no difference to any other entity. For most targets that name is the word that they
consist of. A word with a letter outside ASCII is taken for none, and `dyn` or `impl` with a word behind it for
the name that the two make together. -/
theorem entitiesOf_impl {source : String} {parsed : Parsed} (hparsed : parse? source = some parsed)
    {before after : List Item} {block : Syntax.Impl} (hitems : parsed.items = before ++ .impl block :: after)
    (hinherent : block.isTraitImpl = false) :
    (∀ s name, .struct s ∈ parsed.declarations → s.shape ≠ .tuple → s.name = name →
        TakenFor (block.target.tokens parsed.tokens) name →
        ∃ e ∈ parsed.entitiesOf parsed.items, e.kind = .struct ∧ e.displayName = name ∧
          (block.methods.map fun m => (Build.method (m.read (Span.text parsed.tokens))).1) <:+: e.members) ∧
      List.Forall₂ (fun e₀ e => e = e₀ ∨ TakenFor (block.target.tokens parsed.tokens) e.displayName)
        (parsed.entitiesOf (before ++ after)) (parsed.entitiesOf parsed.items) := by
  have hmem : .impl block ∈ parsed.items := hitems ▸ List.mem_append_right _ List.mem_cons_self
  have hread : ∀ t ∈ block.target.tokens parsed.tokens, Lexer.IsRead t := fun t ht =>
    Lexer.tokens?_isRead (parse?_tokens hparsed) t (List.mem_of_mem_drop (List.mem_of_mem_take ht))
  have htaken := takenFor_iff (parse?_target_isPlain hparsed hmem) hread
  have hmethods {name : String} (h : TakenFor (block.target.tokens parsed.tokens) name) :
      Merge.methodsFor name (.impl (block.read (Span.text parsed.tokens))) =
        block.methods.map fun m => (Build.method (m.read (Span.text parsed.tokens))).1 := by
    rw [Merge.methodsFor, if_pos ⟨hinherent, (htaken name).mp h⟩]
    simp [Syntax.Impl.read]
  constructor
  · rintro s _ hs hshape rfl htarget
    have hblock : .impl (block.read (Span.text parsed.tokens)) ∈ parsed.declarations :=
      List.mem_filterMap.mpr ⟨.impl block, hmem, rfl⟩
    obtain ⟨e, he, hkind, hname, hinfix⟩ := Merge.exists_struct_of_declared hs hshape hblock
    rw [hmethods htarget] at hinfix
    refine ⟨e, ?_, hkind, hname, hinfix⟩
    rw [Parsed.entitiesOf, Builder.build_fst]
    exact he
  · rw [Parsed.entitiesOf, Parsed.entitiesOf, Builder.build_fst, Builder.build_fst, hitems, List.filterMap_append,
      List.filterMap_append]
    refine (Merge.described_without false _ _ (block.read (Span.text parsed.tokens))).imp ?_
    rintro e₀ e (hsame | hadds)
    · exact .inl hsame
    · refine .inr ((htaken _).mpr ?_)
      rw [Merge.methodsFor] at hadds
      split at hadds
      · next h => exact h.2
      · exact absurd rfl hadds

/-- A struct with a raw name and an impl block for it, and a struct whose name is that of a trait after `dyn`
with an impl block for the trait. -/
def shapeSource : String :=
  "struct r#type;\nstruct dynShape;\nimpl r#type \x7b fn get(&self) \x7b\x7d \x7d\nimpl dyn Shape \x7b fn area(&self) \x7b\x7d \x7d\n"

/-- The impl block for the trait. -/
def shapeBlock : Syntax.Impl where
  target := ⟨12, 10⟩
  isTraitImpl := false
  methods := [{ name := "area", visibility := .hidden, parameters := [.receiver ⟨6, 4⟩] }]

/-- The items before it. -/
def shapeItems : List Item :=
  [.struct { name := "r#type", visibility := .hidden, shape := .unit },
    .struct { name := "dynShape", visibility := .hidden, shape := .unit },
    .impl { target := ⟨24, 23⟩, isTraitImpl := false, methods := [
      { name := "get", visibility := .hidden, parameters := [.receiver ⟨19, 17⟩] }] }]

/-- The source with its items. -/
def shapeParsed : Parsed where
  tokens := (Lexer.tokens? shapeSource).getD []
  items := shapeItems ++ [.impl shapeBlock]

theorem parse?_shapeSource : parse? shapeSource = some shapeParsed := by decide +kernel

theorem tokens_shapeBlock : shapeBlock.target.tokens shapeParsed.tokens =
    [⟨[' '], .word, "dyn".toList⟩, ⟨[' '], .word, "Shape".toList⟩] := by decide +kernel

/-- The function for the trait object ends up in the struct, whose name happens to be the words of the target in
one. -/
theorem entitiesOf_shapeSource :
    parse? shapeSource = some shapeParsed ∧
      TakenFor (shapeBlock.target.tokens shapeParsed.tokens) "dynShape" ∧
      ∃ e ∈ shapeParsed.entitiesOf shapeParsed.items, e.kind = .struct ∧ e.displayName = "dynShape" ∧
        [Entity.ofMethod "area" [] .hidden] <:+: e.members := by
  have htaken : TakenFor (shapeBlock.target.tokens shapeParsed.tokens) "dynShape" := by
    rw [tokens_shapeBlock]
    exact .joined _ _ (.inl rfl) rfl (Text.forall_of_all (by decide)) (Text.forall_of_all (by decide))
  have hitems : shapeParsed.items = shapeItems ++ .impl shapeBlock :: [] := rfl
  have hblocks := entitiesOf_impl parse?_shapeSource hitems rfl
  refine ⟨parse?_shapeSource, htaken, ?_⟩
  exact hblocks.1 { name := "dynShape", shape := .unit } _ (by decide +kernel) (by decide) rfl htaken

/-- A struct with a name outside ASCII and an impl block for it. -/
def scaleSource : String :=
  "struct Größe;\nimpl Größe \x7b fn f(&self) \x7b\x7d \x7d\n"

/-- The impl block. -/
def scaleBlock : Syntax.Impl where
  target := ⟨11, 10⟩
  isTraitImpl := false
  methods := [{ name := "f", visibility := .hidden, parameters := [.receiver ⟨6, 4⟩] }]

/-- The source with its items. -/
def scaleParsed : Parsed where
  tokens := (Lexer.tokens? scaleSource).getD []
  items := [.struct { name := "Größe", visibility := .hidden, shape := .unit }, .impl scaleBlock]

/-- Neither do all impl blocks whose target is a single word go to the struct of this name, nor do those whose
target is anything else make no difference. A struct with a letter outside ASCII refutes the first, and the
trait object the second. -/
theorem not_attached_by_token :
    (¬ ∀ source parsed before after block w s, parse? source = some parsed →
        parsed.items = before ++ .impl block :: after → block.isTraitImpl = false →
        block.target.tokens parsed.tokens = [w] → w.kind = .word → .struct s ∈ parsed.declarations →
        s.shape ≠ .tuple → s.name = String.ofList w.text →
        ∃ e ∈ parsed.entitiesOf parsed.items, e.displayName = s.name ∧
          (block.methods.map fun m => (Build.method (m.read (Span.text parsed.tokens))).1) <:+: e.members) ∧
      ¬ ∀ source parsed before after block, parse? source = some parsed →
        parsed.items = before ++ .impl block :: after → block.isTraitImpl = false →
        (∀ w, block.target.tokens parsed.tokens ≠ [w]) →
        parsed.entitiesOf parsed.items = parsed.entitiesOf (before ++ after) := by
  constructor
  · intro hall
    have hparsed : parse? scaleSource = some scaleParsed := by decide +kernel
    obtain ⟨e, he, _, hinfix⟩ := hall scaleSource scaleParsed [_] [] scaleBlock ⟨[' '], .word, "Größe".toList⟩
      { name := "Größe", shape := .unit } hparsed rfl rfl (by decide +kernel) rfl (by decide +kernel) (by decide) rfl
    have hnone : (scaleParsed.entitiesOf scaleParsed.items).all (·.members.isEmpty) = true := by decide +kernel
    have hempty : e.members = [] := by simpa using List.all_eq_true.mp hnone e he
    rw [hempty, List.infix_nil] at hinfix
    cases hinfix
  · intro hall
    have hsame := hall shapeSource shapeParsed shapeItems [] shapeBlock parse?_shapeSource rfl rfl
      (by simp [tokens_shapeBlock])
    have hlengths := congrArg (List.map fun e : Entity => e.members.length) hsame
    exact absurd hlengths (by decide +kernel)

end Rust

end ClassDiagram
