import ClassDiagram.Files.Walk
import ClassDiagram.Proofs.Ignore.Verdict

namespace ClassDiagram

/-- A name that a file can have. -/
def IsFileName (name : String) : Prop :=
  name ≠ "" ∧ '/' ∉ name.toList

theorem Glob.eq_empty_of_accepts {name : String} (haccepts : accepts "" name = true) : name = "" := by
  have htext : name.toList = [] := by
    cases hname : name.toList with
    | nil => rfl
    | cons c rest => simp [accepts, parse, parseFrom, hname, matchSuffixes, matchCons] at haccepts
  exact String.toList_eq_nil_iff.mp htext

namespace IgnoreRule

theorem components_ne_nil (cs : List Char) : components cs ≠ [] := by
  cases cs with
  | nil => simp [components]
  | cons c rest =>
    rw [components]
    split
    · simp
    · split <;> simp

/-- A text is cut at its first slash, and what follows is cut in the same way. -/
theorem components_append {cs : List Char} (hfree : '/' ∉ cs) (rest : List Char) :
    components (cs ++ '/' :: rest) = cs :: components rest := by
  induction cs with
  | nil =>
    obtain ⟨piece, pieces, hrest⟩ := List.exists_cons_of_ne_nil (components_ne_nil rest)
    simp [components, hrest]
  | cons c cs ih =>
    obtain ⟨hc, hcs⟩ : '/' ≠ c ∧ '/' ∉ cs := by simpa using hfree
    rw [List.cons_append, components, ih hcs]
    simp [Ne.symm hc]

theorem components_eq_singleton {cs : List Char} (hfree : '/' ∉ cs) : components cs = [cs] := by
  induction cs with
  | nil => rfl
  | cons c cs ih =>
    obtain ⟨hc, hcs⟩ : '/' ≠ c ∧ '/' ∉ cs := by simpa using hfree
    rw [components, ih hcs]
    simp [Ne.symm hc]

/-- The components of a place are its names. The text of a place is put together from names and taken apart
again to match them, and names hold no slash. -/
theorem components_relativeText {place : List String} (hne : place ≠ [])
    (hnames : ∀ name ∈ place, IsFileName name) :
    components (FileTree.relativeText place).toList = place.map String.toList := by
  induction place with
  | nil => exact absurd rfl hne
  | cons name rest ih =>
    obtain ⟨hname, hrest⟩ := List.forall_mem_cons.mp hnames
    cases rest with
    | nil => simpa [FileTree.relativeText] using components_eq_singleton hname.2
    | cons next rest =>
      have htext : (FileTree.relativeText (name :: next :: rest)).toList =
          name.toList ++ '/' :: (FileTree.relativeText (next :: rest)).toList := by
        simp [FileTree.relativeText, String.intercalate_cons_cons]
      rw [htext, components_append hname.2, ih (by simp) hrest]
      rfl

/-- The rule has no slash, except perhaps one at its end. -/
structure IsSlashFree (rule : IgnoreRule) : Prop where
  notAnchored : rule.anchored = false
  noSlash : rule.hasSlash = false

/-- The rule speaks of a name: its glob matches it, and a rule for directories speaks of directories only. -/
def Names (rule : IgnoreRule) (name : String) (isDirectory : Bool) : Prop :=
  Glob.accepts rule.pattern name = true ∧ (rule.directoryOnly = true → isDirectory = true)

/-- A rule without a slash is matched against every name on the way to a place, and not against its last one
alone. -/
theorem accepts_iff_names {rule : IgnoreRule} (hfree : rule.IsSlashFree) {place : List String} (hne : place ≠ [])
    (hnames : ∀ name ∈ place, IsFileName name) (isDirectory : Bool) :
    rule.accepts (FileTree.relativeText place) isDirectory = true ↔
      ∃ name ∈ place, rule.Names name isDirectory := by
  rw [accepts, hfree.notAnchored, hfree.noSlash, components_relativeText hne hnames]
  by_cases hempty : rule.pattern = ""
  · have hnone : ¬ ∃ name ∈ place, rule.Names name isDirectory := by
      rintro ⟨name, hname, haccepts, _⟩
      rw [hempty] at haccepts
      exact (hnames name hname).1 (Glob.eq_empty_of_accepts haccepts)
    simp [hempty, hnone]
  · by_cases hdirectory : rule.directoryOnly = true → isDirectory = true
    · have hpass : (rule.directoryOnly && !isDirectory) = false := by
        cases isDirectory <;> simp_all
      rw [if_neg hempty, hpass]
      simp only [Bool.false_eq_true, if_false, Bool.or_self, List.any_map, List.any_eq_true,
        Function.comp_apply, String.ofList_toList]
      constructor
      · rintro ⟨name, hname, haccepts⟩
        exact ⟨name, hname, haccepts, hdirectory⟩
      · rintro ⟨name, hname, haccepts, _⟩
        exact ⟨name, hname, haccepts⟩
    · have hstop : (rule.directoryOnly && !isDirectory) = true := by
        cases isDirectory <;> simp_all
      simp [hempty, hstop, Names, hdirectory]

/-- The last rule that speaks of a name on the way to the place, its own included, is not negated. -/
def DropsOnWay (rules : List IgnoreRule) (place : List String) (isDirectory : Bool) : Prop :=
  Drops (fun rule => ∃ name ∈ place, rule.Names name isDirectory) rules

/-- How ignore files are read: a place is ignored if the last rule that speaks of its own name is not negated,
or if a directory above it is ignored. -/
inductive Ignored (rules : List IgnoreRule) : List String → Bool → Prop
  | named {above : List String} {name : String} {isDirectory : Bool}
      (hdrops : Drops (·.Names name isDirectory) rules) : Ignored rules (above ++ [name]) isDirectory
  | under {above rest : List String} {isDirectory : Bool} (habove : above ≠ []) (hrest : rest ≠ [])
      (hignored : Ignored rules above true) : Ignored rules (above ++ rest) isDirectory

/-- Under rules without slashes a place is ignored if the last rule that speaks of any name on the way to it is
not negated. This is the program's reading of such rules. -/
theorem ignores_iff_dropsOnWay {rules : List IgnoreRule} (hfree : ∀ rule ∈ rules, rule.IsSlashFree)
    {place : List String} (hne : place ≠ []) (hnames : ∀ name ∈ place, IsFileName name) (isDirectory : Bool) :
    ignores rules (FileTree.relativeText place) isDirectory = true ↔ DropsOnWay rules place isDirectory := by
  rw [ignores_iff_drops, DropsOnWay]
  exact drops_congr fun rule hrule => accepts_iff_names (hfree rule hrule) hne hnames isDirectory

/-- The customary reading of ignore files as a recursion over the directories above a place: only rules on the
last name speak of the place itself. -/
theorem ignored_concat_iff {rules : List IgnoreRule} {above : List String} {name : String} {isDirectory : Bool} :
    Ignored rules (above ++ [name]) isDirectory ↔
      Drops (·.Names name isDirectory) rules ∨ (above ≠ [] ∧ Ignored rules above true) := by
  constructor
  · generalize hplace : above ++ [name] = place
    intro hignored
    cases hignored with
    | named hdrops =>
      obtain ⟨_, hlast⟩ := List.append_inj' hplace rfl
      cases hlast
      exact .inl hdrops
    | @under higher rest _ hhigher hrest hignored =>
      obtain ⟨more, last, rfl⟩ := (List.eq_nil_or_concat rest).resolve_left hrest
      rw [List.concat_eq_append, ← List.append_assoc] at hplace
      obtain ⟨rfl, _⟩ := List.append_inj' hplace rfl
      refine .inr ⟨by simp [hhigher], ?_⟩
      by_cases hmore : more = []
      · rwa [hmore, List.append_nil]
      · exact .under hhigher hmore hignored
  · rintro (hdrops | ⟨habove, hignored⟩)
    · exact .named hdrops
    · exact .under habove (by simp) hignored

/-- No negated rule speaks of any of the names. -/
def IsClear (rules : List IgnoreRule) (names : List String) : Prop :=
  ∀ rule ∈ rules, rule.negate = true → ∀ name ∈ names, Glob.accepts rule.pattern name = false

/-- Some rule speaks of one of the names. -/
def AnyNamed (rules : List IgnoreRule) (names : List String) : Prop :=
  ∃ rule ∈ rules, ∃ name ∈ names, Glob.accepts rule.pattern name = true

section

variable {rules : List IgnoreRule} {names : List String}

/-- Among clear names only rules that ignore speak, whatever negated rules there are for other names. -/
theorem IsClear.negate_eq_false (hclear : IsClear rules names) {rule : IgnoreRule} (hrule : rule ∈ rules)
    {name : String} (hname : name ∈ names) (haccepts : Glob.accepts rule.pattern name = true) :
    rule.negate = false := by
  cases hnegate : rule.negate with
  | false => rfl
  | true =>
    rw [hclear rule hrule hnegate name hname] at haccepts
    cases haccepts

theorem IsClear.subset {fewer : List String} (hclear : IsClear rules names) (hsub : fewer ⊆ names) :
    IsClear rules fewer :=
  fun rule hrule hnegate name hname => hclear rule hrule hnegate name (hsub hname)

/-- Of rules that all ignore it does not matter which is the last, so dropping a name comes to some rule
speaking of it. -/
theorem IsClear.drops_name_iff (hclear : IsClear rules names) {name : String} (hname : name ∈ names) :
    Drops (·.Names name true) rules ↔ AnyNamed rules [name] := by
  constructor
  · intro hdrops
    obtain ⟨rule, hrule, haccepts, _⟩ := hdrops.exists_mem
    exact ⟨rule, hrule, name, by simp, haccepts⟩
  · rintro ⟨rule, hrule, other, hother, haccepts⟩
    rw [List.mem_singleton.mp hother] at haccepts
    refine drops_of_mem hrule ⟨haccepts, fun _ => rfl⟩ fun last hlast hnamed => ?_
    exact hclear.negate_eq_false hlast hname hnamed.1

/-- Both readings ignore a directory if any rule speaks of it or of a directory above it, given that no negated
rule speaks of these. -/
theorem IsClear.dropsOnWay_iff (hclear : IsClear rules names) :
    DropsOnWay rules names true ↔ AnyNamed rules names := by
  constructor
  · intro hdrops
    obtain ⟨rule, hrule, name, hname, haccepts, _⟩ := hdrops.exists_mem
    exact ⟨rule, hrule, name, hname, haccepts⟩
  · rintro ⟨rule, hrule, name, hname, haccepts⟩
    refine drops_of_mem hrule ⟨name, hname, haccepts, fun _ => rfl⟩ ?_
    rintro last hlast ⟨other, hother, hnamed, _⟩
    exact hclear.negate_eq_false hlast hother hnamed

/-- The other half of the same: reading directory by directory comes to the same for clear names, by induction
on the way from the end. -/
theorem IsClear.ignored_iff (hclear : IsClear rules names) (hne : names ≠ []) :
    Ignored rules names true ↔ AnyNamed rules names := by
  induction names using List.reverseRecOn with
  | nil => exact absurd rfl hne
  | append_singleton above name ih =>
    have habove : IsClear rules above := hclear.subset (List.subset_append_left _ _)
    rw [ignored_concat_iff, hclear.drops_name_iff (by simp)]
    have hsplit : AnyNamed rules (above ++ [name]) ↔ AnyNamed rules [name] ∨ AnyNamed rules above := by
      simp only [AnyNamed, List.mem_append, List.mem_singleton, or_and_right, exists_or, and_or_left]
      exact or_comm
    rw [hsplit]
    by_cases hnil : above = []
    · simp [hnil, AnyNamed]
    · simp [hnil, ih habove hnil]

/-- A place that no rule speaks of but by its own name is dropped by the rules on its own name. -/
theorem dropsOnWay_concat_iff {above : List String} (hsilent : ¬ AnyNamed rules above) (name : String)
    (isDirectory : Bool) :
    DropsOnWay rules (above ++ [name]) isDirectory ↔ Drops (·.Names name isDirectory) rules := by
  refine drops_congr fun rule hrule => ?_
  constructor
  · rintro ⟨other, hother, hnamed⟩
    obtain habove | hlast := List.mem_append.mp hother
    · exact absurd ⟨rule, hrule, other, habove, hnamed.1⟩ hsilent
    · rwa [← List.mem_singleton.mp hlast]
  · intro hnamed
    exact ⟨name, by simp, hnamed⟩

/-- Where no negated rule speaks of a directory above a file, the file is left by both readings or by none. A
negated rule on a directory brings back the files in it under the program's reading only. -/
theorem IsClear.not_ignored_iff {above : List String} (hclear : IsClear rules above) (name : String) :
    ¬ Ignored rules (above ++ [name]) false ↔
      ¬ DropsOnWay rules (above ++ [name]) false ∧
        ∀ directory, directory ≠ [] → directory <+: above → ¬ DropsOnWay rules directory true := by
  rw [ignored_concat_iff, not_or]
  by_cases hnamed : AnyNamed rules above
  · -- A rule speaks of a directory above the file, and so both readings ignore this directory.
    have hne : above ≠ [] := by
      rintro rfl
      obtain ⟨_, _, _, hmem, _⟩ := hnamed
      cases hmem
    constructor
    · rintro ⟨_, hkept⟩
      exact absurd ⟨hne, (hclear.ignored_iff hne).mpr hnamed⟩ hkept
    · rintro ⟨_, hkept⟩
      exact absurd (hclear.dropsOnWay_iff.mpr hnamed) (hkept above hne (List.prefix_refl above))
  · rw [dropsOnWay_concat_iff hnamed]
    refine and_congr_right fun _ => ?_
    constructor
    · intro _ directory _ hinit hdrops
      obtain ⟨rule, hrule, other, hother, haccepts, _⟩ := hdrops.exists_mem
      exact hnamed ⟨rule, hrule, other, hinit.subset hother, haccepts⟩
    · rintro _ ⟨hne, hignored⟩
      exact hnamed ((hclear.ignored_iff hne).mp hignored)

end

end IgnoreRule

end ClassDiagram
