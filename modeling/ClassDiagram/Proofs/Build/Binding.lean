import ClassDiagram.Proofs.Build.Layout
import ClassDiagram.Proofs.Build.Shape
import ClassDiagram.Proofs.Diagram.Reading
import ClassDiagram.Proofs.Ignore.Pattern
import ClassDiagram.Proofs.Rust.Words

namespace ClassDiagram

namespace Text

/-- What stripping takes off is blank: the text is what is left of it with blanks on either side. The statement
is the other half of `Surrounds.stripChars_eq`. -/
theorem surrounds_stripChars (text : String) : Surrounds text (stripChars text.toList) := by
  have hblank (cs : List Char) : AreBlank (cs.takeWhile isBlank) := fun _ hc => List.mem_takeWhile_imp hc
  have hcut (cs : List Char) : cs = cs.takeWhile isBlank ++ dropLeadingBlanks cs :=
    List.takeWhile_append_dropWhile.symm
  refine ⟨text.toList.takeWhile isBlank, ((dropLeadingBlanks text.toList).reverse.takeWhile isBlank).reverse,
    hblank _, fun c hc => hblank _ c (List.mem_reverse.mp hc), ?_⟩
  have hback : dropLeadingBlanks text.toList = stripChars text.toList ++
      ((dropLeadingBlanks text.toList).reverse.takeWhile isBlank).reverse := by
    rw [stripChars, ← List.reverse_append, ← hcut, List.reverse_reverse]
  rw [List.append_assoc, ← hback, ← hcut]

theorem dropLeadingBlanks_eq_self {cs : List Char} (hcs : ∀ c ∈ cs, isBlank c = false) :
    dropLeadingBlanks cs = cs :=
  dropLeadingBlanks_eq_self_iff.mpr fun c hc => hcs c (List.mem_of_mem_head? hc)

/-- A text without blanks is left as it is. Names hold no blanks, so a pattern that is a bare name is its own
stripped form. -/
theorem stripChars_eq_self {cs : List Char} (hcs : ∀ c ∈ cs, isBlank c = false) : stripChars cs = cs :=
  stripChars_eq_self_iff.mpr
    ⟨fun c hc => hcs c (List.mem_of_mem_head? hc), fun c hc => hcs c (List.mem_of_mem_getLast? hc)⟩

theorem dropTrailingBlanks_eq_self {cs : List Char} (hcs : ∀ c ∈ cs, isBlank c = false) :
    dropTrailingBlanks cs = cs := by
  have hstrip := stripChars_eq_self hcs
  rwa [stripChars_eq, dropLeadingBlanks_eq_self hcs] at hstrip

/-- The last character that stripping leaves is no blank. The test for plain names overlooks a line feed at the
very end, and this shows that none can be there. -/
theorem not_isBlank_getLast_stripChars (cs : List Char) : ∀ c ∈ (stripChars cs).getLast?, isBlank c = false := by
  intro c hc
  rw [stripChars, List.getLast?_reverse] at hc
  have hfirst := List.head?_dropWhile_not isBlank (dropLeadingBlanks cs).reverse
  rw [dropLeadingBlanks] at hc
  rw [Option.mem_def.mp hc] at hfirst
  simpa using hfirst

end Text

namespace Build

open Entity (IsIdentifier)
open Text (AreBlank Surrounds isBlank)

/-- The pattern is the name, perhaps with a `mut` and blanks in front of it, and there may be blanks around all of
this. -/
inductive Binds (pattern name : String) : Prop
  | plain (hpattern : Surrounds pattern name.toList)
  | mutable (gap : List Char) (hne : gap ≠ []) (hgap : AreBlank gap)
      (hpattern : Surrounds pattern ("mut".toList ++ gap ++ name.toList))

variable {d : ParameterDeclaration} {name pattern : String}

/-- The test of the builder is the grammar of identifiers: a word of ASCII letters, digits and underscores,
perhaps behind `r#`, that starts with no digit. A lone underscore binds nothing and is none. -/
theorem isPlainName_iff : isPlainName name = true ↔ IsIdentifier name := by
  refine ⟨isIdentifier_of_isPlainName, ?_⟩
  rintro ⟨hne, word, hword, hisWord⟩
  rw [isPlainName, Bool.and_eq_true, decide_eq_true_eq]
  refine ⟨hne, ?_⟩
  obtain hplain | hraw := hword
  · split
    · next rest hhash =>
      -- The second character of a word is no `#`.
      obtain ⟨first, more, rfl, _, hmore⟩ := hisWord
      rw [hplain, List.cons.injEq] at hhash
      have hbad := hmore '#' (by simp [hhash.2])
      exact absurd hbad (by decide)
    · rw [hplain]
      exact isWord_iff.mpr hisWord
  · rw [hraw]
    exact isWord_iff.mpr hisWord

/-- No character of an identifier is a blank. It makes the reading of a pattern unambiguous: where the name
ends, blanks begin, and nothing else can follow. -/
theorem not_isBlank_of_isIdentifier (hname : IsIdentifier name) : ∀ c ∈ name.toList, isBlank c = false := by
  have hnone : ∀ c ∈ Text.blanks, isNameChar c = false ∧ c ≠ '#' := Text.forall_of_all (by decide)
  intro c hc
  by_contra hblank
  obtain ⟨hchar, hhash⟩ := hnone c (Text.mem_blanks (by simpa using hblank))
  have hin := (PlantUml.isPlainName_chars (isPlainName_iff.mpr hname)).2 c hc
  simp [hchar, hhash] at hin

/-- A leading `mut` is dropped with the blanks behind it, or nothing is. There have to be such blanks: `mutable`
is a name and keeps its first three letters. -/
theorem dropMut_cases (cs : List Char) :
    dropMut cs = cs ∨ ∃ gap, gap ≠ [] ∧ AreBlank gap ∧ cs = "mut".toList ++ gap ++ dropMut cs := by
  fun_cases dropMut cs with
  | case1 c rest hc =>
    refine .inr ⟨c :: rest.takeWhile isBlank, List.cons_ne_nil _ _, ?_, ?_⟩
    · intro b hb
      obtain rfl | hb := List.mem_cons.mp hb
      · exact hc
      · exact List.mem_takeWhile_imp hb
    · simp [Text.dropLeadingBlanks]
  | case2 c rest hc => exact .inl rfl
  | case3 => exact .inl rfl

theorem dropMut_eq_self {cs : List Char} (hcs : ∀ c ∈ cs, isBlank c = false) : dropMut cs = cs := by
  obtain hsame | ⟨gap, hne, hgap, hcut⟩ := dropMut_cases cs
  · exact hsame
  · obtain ⟨c, gap, rfl⟩ := List.exists_cons_of_ne_nil hne
    have hblank := hgap c List.mem_cons_self
    rw [hcs c (by rw [hcut]; simp)] at hblank
    cases hblank

/-- A pattern binds what is left of it without the blanks around it and a leading `mut`, and no other
identifier. The relation says which texts there are, the equation computes the one. -/
theorem binds_iff (hname : IsIdentifier name) :
    Binds pattern name ↔ String.ofList (dropMut (Text.stripChars pattern.toList)) = name := by
  have hblank := not_isBlank_of_isIdentifier hname
  constructor
  · intro hbinds
    have hleft : dropMut (Text.stripChars pattern.toList) = name.toList := by
      cases hbinds with
      | plain hpattern => rw [hpattern.stripChars_eq, Text.stripChars_eq_self hblank, dropMut_eq_self hblank]
      | mutable gap hne hgap hpattern =>
        have hsome : ¬ AreBlank name.toList := by
          intro hall
          obtain ⟨c, hc⟩ := List.exists_mem_of_ne_nil _ (PlantUml.isPlainName_chars (isPlainName_iff.mpr hname)).1
          have hboth := hall c hc
          rw [hblank c hc] at hboth
          cases hboth
        rw [hpattern.stripChars_eq, dropMut_stripChars_mut hne hgap, if_neg hsome]
        rw [Text.dropTrailingBlanks_eq_self hblank, Text.dropLeadingBlanks_eq_self hblank]
    rw [hleft, String.ofList_toList]
  · intro hname'
    have hleft : dropMut (Text.stripChars pattern.toList) = name.toList := by rw [← hname', String.toList_ofList]
    have hpattern := Text.surrounds_stripChars pattern
    obtain hsame | ⟨gap, hne, hgap, hcut⟩ := dropMut_cases (Text.stripChars pattern.toList)
    · rw [← hsame, hleft] at hpattern
      exact .plain hpattern
    · rw [hcut, hleft] at hpattern
      exact .mutable gap hne hgap hpattern

/-- What is left of a pattern ends in no blank, so a test that overlooks a line feed at the end is no weaker for
it. -/
theorem not_isBlank_getLast_dropMut (cs : List Char) :
    ∀ c ∈ (dropMut (Text.stripChars cs)).getLast?, isBlank c = false := by
  intro c hc
  have hends := Text.not_isBlank_getLast_stripChars cs c
  obtain hsame | ⟨gap, hne, hgap, hcut⟩ := dropMut_cases (Text.stripChars cs)
  · rw [hsame] at hc
    exact hends hc
  · apply hends
    have hsome : dropMut (Text.stripChars cs) ≠ [] := by
      intro hnil
      rw [hnil] at hc
      cases hc
    rw [hcut, List.getLast?_append_of_ne_nil _ hsome]
    exact hc

/-- How a parameter with a type is read: its pattern is cleaned, and what is left has to be a plain name.
Otherwise it is what the skip shows. -/
theorem parameter_of_typed (htyped : d.isReceiver = false) :
    parameter d =
      let name := String.ofList (dropMut (Text.stripChars d.pattern.toList))
      if isPlainName name then .ok (.ofParameter name (Signature.canonical d.type))
      else .error ⟨.nonIdentifierBinding, name⟩ := by
  rw [parameter, if_neg (by simp [htyped])]

/-- A parameter is kept if and only if there is an identifier that its pattern binds; it is then kept under this
identifier with its type in canonical form. -/
theorem parameter_eq_ok_iff {e : Entity} (htyped : d.isReceiver = false) :
    parameter d = .ok e ↔ ∃ name, IsIdentifier name ∧ Binds d.pattern name ∧
      e = .ofParameter name (Signature.canonical d.type) := by
  rw [parameter_of_typed htyped]
  dsimp only
  constructor
  · intro hkept
    split at hkept
    · next hplain =>
      have hname := isPlainName_iff.mp hplain
      cases hkept
      exact ⟨_, hname, (binds_iff hname).mpr rfl, rfl⟩
    · cases hkept
  · rintro ⟨name, hname, hbinds, rfl⟩
    rw [(binds_iff hname).mp hbinds, if_pos (isPlainName_iff.mpr hname)]

/-- A parameter that is no receiver is kept under a name exactly if this is an identifier that its pattern binds, and
a pattern binds one identifier at most. Any other pattern is skipped for not binding one; what the skip shows of it
ends in no blank. A name that is kept holds no blank at all. -/
theorem parameter_binds_iff (htyped : d.isReceiver = false) :
    (∀ name, (∃ e, parameter d = .ok e ∧ e.kind = .parameter ∧ e.name = name) ↔
      IsIdentifier name ∧ Binds d.pattern name) ∧
    (∀ name other, IsIdentifier name ∧ Binds d.pattern name → IsIdentifier other ∧ Binds d.pattern other →
      name = other) ∧
    ((¬ ∃ name, IsIdentifier name ∧ Binds d.pattern name) →
      ∃ subject, parameter d = .error ⟨.nonIdentifierBinding, subject⟩ ∧
        ∀ c ∈ subject.toList.getLast?, isBlank c = false) ∧
    ∀ e, parameter d = .ok e → e.IsParameter ∧ Text.BlankFree e.name := by
  refine ⟨fun name => ⟨?_, ?_⟩, ?_, fun hnone => ?_, fun e hkept => ?_⟩
  · rintro ⟨e, hkept, _, rfl⟩
    obtain ⟨name, hname, hbinds, rfl⟩ := (parameter_eq_ok_iff htyped).mp hkept
    exact ⟨hname, hbinds⟩
  · rintro ⟨hname, hbinds⟩
    exact ⟨_, (parameter_eq_ok_iff htyped).mpr ⟨name, hname, hbinds, rfl⟩, rfl, rfl⟩
  · rintro name other ⟨hname, hbinds⟩ ⟨hother, hbinds'⟩
    rw [← (binds_iff hname).mp hbinds, (binds_iff hother).mp hbinds']
  · refine ⟨String.ofList (dropMut (Text.stripChars d.pattern.toList)), ?_, ?_⟩
    · rw [parameter_of_typed htyped]
      dsimp only
      rw [if_neg]
      intro hplain
      have hname := isPlainName_iff.mp hplain
      exact hnone ⟨_, hname, (binds_iff hname).mpr rfl⟩
    · rw [String.toList_ofList]
      exact not_isBlank_getLast_dropMut _
  · obtain ⟨name, hname, _, rfl⟩ := (parameter_eq_ok_iff htyped).mp hkept
    exact ⟨⟨rfl, rfl, rfl, hname, Signature.canonical_blankFree d.type⟩, not_isBlank_of_isIdentifier hname⟩

/-- A parameter with a raw name behind `mut`, and blanks of several kinds around and between. -/
def rawParameter : ParameterDeclaration where
  pattern := " \u3000mut\t\nr#type\r\n"
  type := "& str"

/-- The parameter is kept under its raw name and no other, with the marks of the raw name: they belong to the
identifier as it is written. -/
theorem parameter_rawParameter :
    rawParameter.isReceiver = false ∧ IsIdentifier "r#type" ∧ Binds rawParameter.pattern "r#type" ∧
      ∃ e, parameter rawParameter = .ok e ∧ e.kind = .parameter ∧ e.name = "r#type" := by
  have hname : IsIdentifier "r#type" := isPlainName_iff.mp (by decide)
  have hpattern : Surrounds rawParameter.pattern ("mut".toList ++ ['\t', '\n'] ++ "r#type".toList) :=
    ⟨[' ', '\u3000'], ['\r', '\n'], by decide, by decide, rfl⟩
  have hbinds : Binds rawParameter.pattern "r#type" := .mutable ['\t', '\n'] (by simp) (by decide) hpattern
  exact ⟨rfl, hname, hbinds, ((parameter_binds_iff rfl).1 "r#type").mpr ⟨hname, hbinds⟩⟩

end Build

end ClassDiagram
