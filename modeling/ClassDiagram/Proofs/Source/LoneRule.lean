import ClassDiagram.Proofs.Ignore.WholePath
import ClassDiagram.Proofs.Source.SlashFree

namespace ClassDiagram

namespace IgnoreRule

/-- The rule speaks of the file at the place or of a directory on the way there. -/
def Catches (rule : IgnoreRule) (place : List String) : Prop :=
  ∃ way, way ≠ [] ∧ way <+: place ∧ rule.accepts (FileTree.relativeText way) (decide (way ≠ place)) = true

/-- The names on the way to a place that a rule can speak of: all of them, or those of directories. -/
def namesOnWay (place : List String) (directoryOnly : Bool) : List String :=
  if directoryOnly then place.dropLast else place

theorem prefix_dropLast_of_proper {way place : List String} (hinit : way <+: place) (hproper : way ≠ place) :
    way <+: place.dropLast := by
  obtain rfl | ⟨above, last, rfl⟩ := List.eq_nil_or_concat place
  · exact absurd (List.prefix_nil.mp hinit) hproper
  · rw [List.concat_eq_append] at hinit hproper ⊢
    rw [List.dropLast_concat]
    exact FileTree.prefix_above_of_proper hinit hproper

/-- A rule without a slash catches a place if its glob matches a name on the way. A rule for directories is not
asked about the last name, as this is a file's. -/
theorem catches_iff_names {rule : IgnoreRule} (hfree : rule.IsSlashFree) {place : List String}
    (hplace : ∀ name ∈ place, IsFileName name) :
    rule.Catches place ↔ ∃ name ∈ namesOnWay place rule.directoryOnly, Glob.accepts rule.pattern name = true := by
  have haccepts {way : List String} (hne : way ≠ []) (hinit : way <+: place) :
      rule.accepts (FileTree.relativeText way) (decide (way ≠ place)) = true ↔
        (∃ name ∈ way, Glob.accepts rule.pattern name = true) ∧ (rule.directoryOnly = true → way ≠ place) := by
    rw [accepts_iff_names hfree hne fun name hname => hplace name (hinit.subset hname)]
    simp only [Names, decide_eq_true_iff]
    constructor
    · rintro ⟨name, hmem, hmatches, hproper⟩
      exact ⟨⟨name, hmem, hmatches⟩, hproper⟩
    · rintro ⟨⟨name, hmem, hmatches⟩, hproper⟩
      exact ⟨name, hmem, hmatches, hproper⟩
  constructor
  · rintro ⟨way, hne, hinit, hspeaks⟩
    obtain ⟨⟨name, hmem, hmatches⟩, hproper⟩ := (haccepts hne hinit).mp hspeaks
    refine ⟨name, ?_, hmatches⟩
    rw [namesOnWay]
    split
    · next hdirectory => exact (prefix_dropLast_of_proper hinit (hproper hdirectory)).subset hmem
    · exact hinit.subset hmem
  · rintro ⟨name, hmem, hmatches⟩
    rw [namesOnWay] at hmem
    split at hmem
    · next hdirectory =>
      have hne : place.dropLast ≠ [] := List.ne_nil_of_mem hmem
      have hinit : place.dropLast <+: place := List.dropLast_prefix place
      refine ⟨place.dropLast, hne, hinit, (haccepts hne hinit).mpr ⟨⟨name, hmem, hmatches⟩, fun _ hsame => ?_⟩⟩
      have hlength := congrArg List.length hsame
      have hpos := List.length_pos_of_ne_nil hne
      rw [List.length_dropLast] at hlength hpos
      omega
    · next hdirectory =>
      have hinit : place <+: place := List.prefix_refl place
      have hne : place ≠ [] := List.ne_nil_of_mem hmem
      exact ⟨place, hne, hinit, (haccepts hne hinit).mpr ⟨⟨name, hmem, hmatches⟩, fun hback => absurd hback hdirectory⟩⟩

/-- A rule that is not negated ignores what it speaks of, wherever it stands among rules of this kind. -/
theorem ignores_insert (own : List IgnoreRule) {rule : IgnoreRule} {more : List IgnoreRule}
    (hrule : rule.negate = false) (hmore : ∀ other ∈ more, other.negate = false) (path : String)
    (isDirectory : Bool) :
    ignores (own ++ rule :: more) path isDirectory =
      (ignores (own ++ more) path isDirectory || rule.accepts path isDirectory) := by
  have hplain : ∀ other ∈ rule :: more, other.negate = false := List.forall_mem_cons.mpr ⟨hrule, hmore⟩
  rw [ignores_append hplain, ignores_append hmore, List.any_cons, Bool.or_assoc]
  exact congrArg _ (Bool.or_comm _ _)

end IgnoreRule

namespace FileTree

variable {tree : FileTree} {suffixes : List String} {own more : List IgnoreRule} {rule : IgnoreRule}

/-- With one more rule the files are selected that were and that it does not catch, be it by themselves or by a
directory above. -/
theorem selected_insert_iff (own : List IgnoreRule) (hrule : rule.negate = false)
    (hmore : ∀ other ∈ more, other.negate = false) (place : List String) :
    tree.Selected suffixes (own ++ rule :: more) place ↔
      tree.Selected suffixes (own ++ more) place ∧ ¬ rule.Catches place := by
  have hkept (path : String) (isDirectory : Bool) :
      IgnoreRule.ignores (own ++ rule :: more) path isDirectory = false ↔
        IgnoreRule.ignores (own ++ more) path isDirectory = false ∧ ¬ rule.accepts path isDirectory = true := by
    rw [IgnoreRule.ignores_insert own hrule hmore, Bool.or_eq_false_iff, Bool.not_eq_true]
  constructor
  · rintro ⟨hne, hfile, hsuffix, hignored, hbelow⟩
    rw [hkept] at hignored
    refine ⟨⟨hne, hfile, hsuffix, hignored.1, fun directory hdirectory hinit hproper => ?_⟩, ?_⟩
    · have habove := hbelow directory hdirectory hinit hproper
      rw [hkept] at habove
      exact ⟨habove.1, habove.2.1⟩
    · rintro ⟨way, hway, hinit, haccepts⟩
      by_cases hproper : way = place
      · subst hproper
        exact hignored.2 (by simpa using haccepts)
      · have habove := hbelow way hway hinit hproper
        rw [hkept] at habove
        exact habove.2.2 (by simpa [hproper] using haccepts)
  · rintro ⟨⟨hne, hfile, hsuffix, hignored, hbelow⟩, hcatches⟩
    refine ⟨hne, hfile, hsuffix, ?_, fun directory hdirectory hinit hproper => ?_⟩
    · rw [hkept]
      exact ⟨hignored, fun haccepts => hcatches ⟨place, hne, List.prefix_refl place, by simpa using haccepts⟩⟩
    · rw [hkept]
      obtain ⟨hentered, habove⟩ := hbelow directory hdirectory hinit hproper
      refine ⟨hentered, habove, fun haccepts => hcatches ⟨directory, hdirectory, hinit, ?_⟩⟩
      simpa [hproper] using haccepts

/-- One more rule takes the sources that it catches from those that are found without it, and leaves the others
in order. -/
theorem sources_insert (hdistinct : tree.NamesDistinct) (hrule : rule.negate = false)
    (hmore : ∀ other ∈ more, other.negate = false) (left : List String → Bool)
    (hleft : ∀ place, tree.Selected suffixes (own ++ more) place → (left place = true ↔ ¬ rule.Catches place)) :
    tree.sources suffixes (own ++ rule :: more) = (tree.sources suffixes (own ++ more)).filter left := by
  refine WalksBefore.eq_of_mem_iff (sources_pairwise _ _ hdistinct)
    ((sources_pairwise _ _ hdistinct).filter _) fun place => ?_
  rw [List.mem_filter, mem_sources hdistinct, mem_sources hdistinct, selected_insert_iff own hrule hmore]
  exact and_congr_right fun hselected => (hleft place hselected).symm

/-- The names on the way to a source are names that files can have. -/
theorem Selected.isFileName (hdistinct : tree.NamesDistinct) (hplain : tree.NamesPlain)
    {rules : List IgnoreRule} {place : List String} (hselected : tree.Selected suffixes rules place) :
    ∀ name ∈ place, IsFileName name :=
  hplain.isFileName_of_isFileAt hdistinct hselected.isFile

end FileTree

end ClassDiagram
