import ClassDiagram.Proofs.Ignore.Glob
import ClassDiagram.Proofs.Ignore.SlashFree

namespace ClassDiagram

namespace FileTree

theorem toList_relativeText_cons (name : String) {rest : List String} (hrest : rest ≠ []) :
    (relativeText (name :: rest)).toList = name.toList ++ '/' :: (relativeText rest).toList := by
  obtain ⟨next, rest, rfl⟩ := List.exists_cons_of_ne_nil hrest
  simp [relativeText, String.intercalate_cons_cons]

@[simp] theorem relativeText_singleton (name : String) : relativeText [name] = name := by
  simp [relativeText]

/-- The text of a place is that of a directory above it, a slash, and the text of what is below the directory. -/
theorem toList_relativeText_append {above rest : List String} (habove : above ≠ []) (hrest : rest ≠ []) :
    (relativeText (above ++ rest)).toList = (relativeText above).toList ++ '/' :: (relativeText rest).toList := by
  induction above with
  | nil => exact absurd rfl habove
  | cons name above ih =>
    have hmore : above ++ rest ≠ [] := by simp [hrest]
    rw [List.cons_append, toList_relativeText_cons name hmore]
    by_cases hnil : above = []
    · subst hnil
      rw [List.nil_append, relativeText_singleton]
    · rw [toList_relativeText_cons name hnil, ih hnil, List.append_assoc, List.cons_append]

/-- Two places of plain names with the same text are the same, so a rule that speaks of texts speaks of places. -/
theorem relativeText_inj {place other : List String} (hne : place ≠ []) (hne' : other ≠ [])
    (hnames : ∀ name ∈ place, IsFileName name) (hnames' : ∀ name ∈ other, IsFileName name)
    (hsame : relativeText place = relativeText other) : place = other := by
  have hparts : place.map String.toList = other.map String.toList := by
    rw [← IgnoreRule.components_relativeText hne hnames, ← IgnoreRule.components_relativeText hne' hnames', hsame]
  exact List.map_injective_iff.mpr (fun _ _ htext => String.toList_inj.mp htext) hparts

/-- Where the text of a place is cut at a slash, the place is cut as well: names hold no slash, so each slash
stands between two of them. -/
theorem exists_append_of_toList_relativeText {place : List String} (hnames : ∀ name ∈ place, IsFileName name)
    {before after : List Char} (hcut : (relativeText place).toList = before ++ '/' :: after) :
    ∃ above rest, above ≠ [] ∧ rest ≠ [] ∧ place = above ++ rest ∧ before = (relativeText above).toList ∧
      after = (relativeText rest).toList := by
  induction place generalizing before with
  | nil => simp [relativeText] at hcut
  | cons name place ih =>
    obtain ⟨hname, hplace⟩ := List.forall_mem_cons.mp hnames
    by_cases hnil : place = []
    · have hslash : '/' ∈ name.toList := by
        rw [hnil, relativeText_singleton] at hcut
        simp [hcut]
      exact absurd hslash hname.2
    · rw [toList_relativeText_cons name hnil, List.append_eq_append_iff] at hcut
      rcases hcut with ⟨more, hbefore, hrest⟩ | ⟨more, hname', hrest⟩
      · cases more with
        | nil =>
          obtain ⟨_, hrest⟩ := List.cons.inj hrest
          exact ⟨[name], place, by simp, hnil, rfl, by simpa using hbefore, hrest.symm⟩
        | cons c more =>
          obtain ⟨hc, hrest⟩ := List.cons.inj hrest
          obtain ⟨above, rest, habove, hne, hplace', hmore, hafter⟩ := ih hplace hrest
          refine ⟨name :: above, rest, by simp, hne, by rw [hplace', List.cons_append], ?_, hafter⟩
          rw [hbefore, ← hc, hmore, toList_relativeText_cons name habove]
      · cases more with
        | nil =>
          obtain ⟨_, hrest⟩ := List.cons.inj hrest
          exact ⟨[name], place, by simp, hnil, rfl, by simpa using hname'.symm, hrest⟩
        | cons c more =>
          obtain ⟨hc, _⟩ := List.cons.inj hrest
          exact absurd (by simp [hname', ← hc]) hname.2

theorem toList_relativeText_ne_nil {names : List String} (hne : names ≠ [])
    (hnames : ∀ name ∈ names, IsFileName name) : (relativeText names).toList ≠ [] := by
  intro hnil
  have hparts := IgnoreRule.components_relativeText hne hnames
  rw [hnil] at hparts
  obtain ⟨name, rest, rfl⟩ := List.exists_cons_of_ne_nil hne
  obtain ⟨hempty, _⟩ := List.cons.inj hparts
  exact (hnames name (by simp)).1 (String.toList_eq_nil_iff.mp hempty.symm)

/-- The text of a place starts as its first name does, hence with no slash. -/
theorem head?_relativeText {name : String} (hname : IsFileName name) (rest : List String) :
    (relativeText (name :: rest)).toList.head? = name.toList.head? := by
  have hchars : name.toList ≠ [] := mt String.toList_eq_nil_iff.mp hname.1
  by_cases hrest : rest = []
  · rw [hrest, relativeText_singleton]
  · rw [toList_relativeText_cons name hrest, List.head?_append_of_ne_nil _ hchars]

/-- The text of a place ends as its last name does, hence with no slash. -/
theorem getLast?_relativeText {name : String} (hname : IsFileName name) (above : List String) :
    (relativeText (above ++ [name])).toList.getLast? = name.toList.getLast? := by
  have hchars : name.toList ≠ [] := mt String.toList_eq_nil_iff.mp hname.1
  by_cases habove : above = []
  · rw [habove, List.nil_append, relativeText_singleton]
  · rw [toList_relativeText_append habove (List.cons_ne_nil name []), relativeText_singleton,
      List.getLast?_append_of_ne_nil _ (List.cons_ne_nil _ _), List.getLast?_cons_of_ne_nil hchars]

/-- The text of a place below a directory holds a slash, which makes a pattern that spells it one for whole
paths. -/
theorem slash_mem_relativeText {names : List String} (hlong : 2 ≤ names.length) :
    '/' ∈ (relativeText names).toList := by
  match names, hlong with
  | name :: next :: rest, _ => simp [toList_relativeText_cons name (List.cons_ne_nil next rest)]

/-- A text with a slash behind it starts the text of a place if it is that of a directory above the place. The
slash is what keeps `src` from standing for `srcs` as well. -/
theorem relativeText_slash_prefix_iff {names way : List String} (hne : names ≠ [])
    (hnames : ∀ name ∈ names, IsFileName name) (hway : ∀ name ∈ way, IsFileName name) :
    (relativeText names ++ "/").toList <+: (relativeText way).toList ↔ names <+: way ∧ names ≠ way := by
  rw [String.toList_append]
  constructor
  · rintro ⟨after, hcut⟩
    rw [List.append_assoc] at hcut
    obtain ⟨above, rest, habove, hrest, rfl, hsame, _⟩ :=
      exists_append_of_toList_relativeText hway hcut.symm
    obtain rfl := relativeText_inj hne habove hnames
      (fun name hname => hway name (List.mem_append_left _ hname)) (String.toList_inj.mp hsame)
    exact ⟨List.prefix_append names rest, by simpa using hrest⟩
  · rintro ⟨⟨rest, rfl⟩, hproper⟩
    have hrest : rest ≠ [] := by simpa using hproper
    rw [toList_relativeText_append hne hrest]
    exact ⟨(relativeText rest).toList, by simp⟩

end FileTree

namespace IgnoreRule

/-- The rule is matched against whole paths. -/
def IsWhole (rule : IgnoreRule) : Prop :=
  rule.anchored = true ∨ rule.hasSlash = true

/-- A rule for whole paths speaks of the paths that its glob matches, and one for directories also of what is
below a directory with the name of the glob. For this the glob counts as a plain text, and the path has to be
one of a directory, too. -/
theorem accepts_whole_iff {rule : IgnoreRule} (hwhole : rule.IsWhole) (hne : rule.pattern ≠ "") (path : String)
    (isDirectory : Bool) :
    rule.accepts path isDirectory = true ↔ (rule.directoryOnly = true → isDirectory = true) ∧
      (Glob.accepts rule.pattern path = true ∨
        rule.directoryOnly = true ∧ (rule.pattern ++ "/").toList <+: path.toList) := by
  have hmatched : (rule.anchored || rule.hasSlash) = true := by simpa [IsWhole] using hwhole
  rw [accepts, if_neg hne, hmatched]
  by_cases hdirectory : rule.directoryOnly = true → isDirectory = true
  · have hpass : (rule.directoryOnly && !isDirectory) = false := by cases isDirectory <;> simp_all
    simp only [hpass, Bool.false_eq_true, if_false, if_true, Bool.or_eq_true, Bool.and_eq_true,
      List.isPrefixOf_iff_prefix]
    exact ⟨fun hmatches => ⟨hdirectory, hmatches⟩, And.right⟩
  · have hstop : (rule.directoryOnly && !isDirectory) = true := by cases isDirectory <;> simp_all
    simp [hstop, hdirectory]

end IgnoreRule

end ClassDiagram
