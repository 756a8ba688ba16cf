import ClassDiagram.Proofs.Build.Members
import ClassDiagram.Proofs.Signature.Tokens

namespace ClassDiagram

/-- The text holds a comma or an angle bracket. -/
def Signature.HasDelimiter (text : String) : Prop :=
  ',' ∈ text.toList ∨ '<' ∈ text.toList ∨ '>' ∈ text.toList

/-- A type is compound if and only if a delimiter occurs in it, and then and only then its references are listed
below the field. -/
theorem Signature.isCompound_iff {text : String} : isCompound text = true ↔ HasDelimiter text := by
  simp only [isCompound, isDelimiter, List.any_eq_true, Bool.or_eq_true, beq_iff_eq, HasDelimiter]
  constructor
  · rintro ⟨c, hc, (rfl | rfl) | rfl⟩
    · exact .inl hc
    · exact .inr (.inl hc)
    · exact .inr (.inr hc)
  · rintro (hc | hc | hc)
    · exact ⟨_, hc, .inl (.inl rfl)⟩
    · exact ⟨_, hc, .inl (.inr rfl)⟩
    · exact ⟨_, hc, .inr rfl⟩

namespace Entity

/-- A word of ASCII letters, digits and underscores that starts with no digit. -/
def IsWord (cs : List Char) : Prop :=
  ∃ first rest, cs = first :: rest ∧ (first.isAlpha = true ∨ first = '_') ∧
    ∀ c ∈ rest, c.isAlphanum = true ∨ c = '_'

/-- A word, perhaps in raw form, that is not the lone underscore. -/
def IsIdentifier (name : String) : Prop :=
  name ≠ "_" ∧ ∃ word, (name.toList = word ∨ name.toList = 'r' :: '#' :: word) ∧ IsWord word

/-- A nameless field that refers to one type. -/
structure IsReference (e : Entity) : Prop where
  kind : e.kind = .field
  nameless : e.name = ""
  isHidden : e.visibility = .hidden
  isChildless : e.members = []
  refers : e.displayName ≠ ""
  blankFree : Text.BlankFree e.displayName
  undivided : ¬ Signature.HasDelimiter e.displayName

/-- The struct that lists the references of a compound type. -/
structure IsListing (type : String) (e : Entity) : Prop where
  kind : e.kind = .struct
  displayName : e.displayName = type
  isHidden : e.visibility = .hidden
  references : ∀ reference ∈ e.members, reference.IsReference

/-- A field: its type without blanks, and one listing if the type is compound. -/
structure IsField (e : Entity) : Prop where
  kind : e.kind = .field
  blankFree : Text.BlankFree e.displayName
  listing : Signature.HasDelimiter e.displayName →
    ∃ listing, e.members = [listing] ∧ listing.IsListing e.displayName
  isChildless : ¬ Signature.HasDelimiter e.displayName → e.members = []

/-- A parameter: an identifier, and its type without blanks. -/
structure IsParameter (e : Entity) : Prop where
  kind : e.kind = .parameter
  isHidden : e.visibility = .hidden
  isChildless : e.members = []
  identifier : IsIdentifier e.name
  blankFree : Text.BlankFree e.displayName

/-- A method: its name twice, and parameters. -/
structure IsMethod (e : Entity) : Prop where
  kind : e.kind = .method
  displayName : e.displayName = e.name
  parameters : ∀ p ∈ e.members, p.IsParameter

/-- A type at the top level: a struct with fields and then methods, or an enum with nothing. -/
inductive IsType (e : Entity) : Prop
  | struct (hkind : e.kind = .struct) (fields methods : List Entity) (hmembers : e.members = fields ++ methods)
      (hfields : ∀ f ∈ fields, f.IsField) (hmethods : ∀ m ∈ methods, m.IsMethod)
  | enum (hkind : e.kind = .enum) (hmembers : e.members = [])

end Entity

namespace Build

open Entity

theorem isNameStart_iff {c : Char} : isNameStart c = true ↔ c.isAlpha = true ∨ c = '_' := by
  have hupper : c.isUpper = ('A' ≤ c && c ≤ 'Z') := Bool.decide_and ('A' ≤ c) (c ≤ 'Z')
  have hletter : c.isAlpha = (('A' ≤ c && c ≤ 'Z') || ('a' ≤ c && c ≤ 'z')) := congrArg (· || c.isLower) hupper
  rw [isNameStart, ← hletter, Bool.or_eq_true, beq_iff_eq]

theorem isNameChar_iff {c : Char} : isNameChar c = true ↔ c.isAlphanum = true ∨ c = '_' := by
  have hdigit : c.isAlphanum = (c.isAlpha || ('0' ≤ c && c ≤ '9')) := rfl
  rw [isNameChar, hdigit, Bool.or_eq_true, Bool.or_eq_true, isNameStart_iff, or_right_comm]

/-- The test goes through the characters of a word; this is the grammar that it decides. -/
theorem isWord_iff {cs : List Char} : isWord cs = true ↔ IsWord cs := by
  cases cs with
  | nil => simp [isWord, IsWord]
  | cons first rest =>
    simp only [isWord, Bool.and_eq_true, List.all_eq_true, isNameStart_iff, isNameChar_iff, IsWord]
    constructor
    · rintro ⟨hfirst, hrest⟩
      exact ⟨first, rest, rfl, hfirst, hrest⟩
    · rintro ⟨_, _, hcs, hfirst, hrest⟩
      cases hcs
      exact ⟨hfirst, hrest⟩

/-- A plain name is an identifier in the sense of the shape below, so members that bind plain names have names
of this form. -/
theorem isIdentifier_of_isPlainName {name : String} (hplain : isPlainName name = true) : IsIdentifier name := by
  rw [isPlainName, Bool.and_eq_true, decide_eq_true_eq] at hplain
  obtain ⟨hne, hword⟩ := hplain
  refine ⟨hne, ?_⟩
  split at hword
  · next rest hraw => exact ⟨rest, .inr hraw, isWord_iff.mp hword⟩
  · exact ⟨_, .inl rfl, isWord_iff.mp hword⟩

/-- The references of a compound type are listed below a struct that carries the full text of the type; each is
a nameless field with one token for its type. -/
theorem isListing_dependencies (type : String) : (dependencies type).IsListing type := by
  refine ⟨rfl, rfl, rfl, fun reference hreference => ?_⟩
  obtain ⟨token, htoken, rfl⟩ := List.mem_map.mp hreference
  have hdelimiter := Signature.not_isDelimiter_of_mem_tokens htoken
  refine ⟨rfl, rfl, rfl, rfl, (Signature.mem_tokens.mp htoken).1, Signature.tokens_blankFree htoken, ?_⟩
  rw [← Signature.isCompound_iff, Signature.isCompound, List.any_eq_true]
  rintro ⟨c, hc, hcut⟩
  exact absurd hcut (by simp [hdelimiter c hc])

/-- A built field has the shape of fields: its type is canonical, and a listing stands below it exactly if the
type is compound. -/
theorem isField_field (d : FieldDeclaration) : (field d).IsField := by
  rw [field]
  refine ⟨rfl, Signature.canonical_blankFree d.type, fun hcompound => ?_, fun hsimple => ?_⟩
  · dsimp only [ofField] at hcompound ⊢
    rw [if_pos (Signature.isCompound_iff.mpr hcompound)]
    exact ⟨_, rfl, isListing_dependencies _⟩
  · dsimp only [ofField] at hsimple ⊢
    rw [if_neg (Signature.isCompound_iff.not.mpr hsimple)]

/-- A built method carries its name in both places and nothing below it but parameters, each an identifier with
a canonical type. -/
theorem isMethod_method (d : MethodDeclaration) : (method d).1.IsMethod := by
  refine ⟨rfl, rfl, fun p hp => ?_⟩
  obtain ⟨declared, _, name, hplain, rfl⟩ := mem_parameters hp
  exact ⟨rfl, rfl, rfl, isIdentifier_of_isPlainName hplain, Signature.canonical_blankFree declared.type⟩

end Build

/-- An entity that is made from declarations has the shape of a type. Fields stand before methods because
methods are attached behind what the first pass made. -/
theorem Entity.MadeFrom.isType {ds : List Declaration} {e : Entity} (hmade : e.MadeFrom ds) : e.IsType := by
  cases hmade with
  | struct d methods _ _ =>
    refine .struct rfl _ _ rfl ?_ ?_
    · intro f hf
      obtain ⟨declared, _, rfl⟩ := List.mem_map.mp hf
      exact Build.isField_field declared
    · intro m hm
      obtain ⟨declared, _, rfl⟩ := List.mem_map.mp hm
      exact Build.isMethod_method declared
  | enum d _ => exact .enum rfl rfl

/-- Every entity of a unit has the shape of a type, and no two of them share a name, whatever the builder built
before. A type lists fields and then methods; a field carries the references of its type if the type is
compound, and these carry nothing more; a method carries parameters. -/
theorem Builder.build_isType (b : Builder) (unit : SourceUnit) :
    (∀ e ∈ (b.build unit).1, e.IsType) ∧ ((b.build unit).1.map (·.displayName)).Nodup := by
  rw [build_fst]
  refine ⟨fun e he => (Merge.madeFrom_of_mem_described he).isType, ?_⟩
  rw [Merge.described, Merge.map_displayName_describedWith]
  exact Merge.typeNames_nodup _ _

end ClassDiagram
