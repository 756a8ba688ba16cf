import ClassDiagram.Proofs.Ignore.Pattern
import ClassDiagram.Proofs.Source.Excludes
import ClassDiagram.Proofs.Source.LoneRule
import ClassDiagram.Proofs.Source.Root

namespace ClassDiagram

namespace IgnoreRule

open FileTree (relativeText)

/-- The names make a text that a pattern can be made of and in which no character stands for others. -/
structure IsLiteral (names : List String) : Prop where
  ne_nil : names ≠ []
  isFileName : ∀ name ∈ names, IsFileName name
  isPlain : Glob.IsPlain (relativeText names)
  isStripped : Text.strip (relativeText names) = relativeText names

/-- The rule of a literal pattern. -/
def literal (names : List String) (front back : Bool) : IgnoreRule :=
  ⟨relativeText names, back, front, false, (relativeText names).toList.contains '/'⟩

/-- A literal text is one between marks: it neither begins nor ends with a slash, because no name holds one. -/
theorem IsLiteral.isCore {names : List String} (hliteral : IsLiteral names) : IsCore (relativeText names) := by
  refine ⟨?_, hliteral.isStripped, ?_, ?_⟩
  · exact mt String.toList_eq_nil_iff.mpr (FileTree.toList_relativeText_ne_nil hliteral.ne_nil hliteral.isFileName)
  · obtain ⟨name, rest, rfl⟩ := List.exists_cons_of_ne_nil hliteral.ne_nil
    have hname := hliteral.isFileName name (by simp)
    rw [FileTree.head?_relativeText hname]
    exact fun hfirst => hname.2 (List.mem_of_head? hfirst)
  · obtain ⟨above, name, rfl⟩ := (List.eq_nil_or_concat names).resolve_left hliteral.ne_nil
    rw [List.concat_eq_append] at hliteral ⊢
    have hname := hliteral.isFileName name (by simp)
    rw [FileTree.getLast?_relativeText hname]
    exact fun hlast => hname.2 (List.mem_of_getLast? hlast)

theorem IsLiteral.ofPatterns_marked {names : List String} (hliteral : IsLiteral names) (front back : Bool) :
    ofPatterns [marked (relativeText names) front back] = [literal names front back] := by
  simp [ofPatterns, ofPattern?_marked hliteral.isCore, literal]

/-- Matched against whole paths, a literal pattern speaks of its own place, and with a slash at its end also of
the directories below. -/
theorem accepts_literal_iff {names : List String} (hliteral : IsLiteral names) {front back : Bool}
    (hwhole : (literal names front back).IsWhole) {way : List String} (hne : way ≠ [])
    (hway : ∀ name ∈ way, IsFileName name) (isDirectory : Bool) :
    (literal names front back).accepts (relativeText way) isDirectory = true ↔
      (back = true → isDirectory = true) ∧ (way = names ∨ back = true ∧ names <+: way ∧ names ≠ way) := by
  have hsame : relativeText way = relativeText names ↔ way = names :=
    ⟨FileTree.relativeText_inj hne hliteral.ne_nil hway hliteral.isFileName, fun hsame => by rw [hsame]⟩
  rw [accepts_whole_iff hwhole hliteral.isCore.ne_empty]
  simp only [literal, Glob.accepts_plain_iff hliteral.isPlain, hsame,
    FileTree.relativeText_slash_prefix_iff hliteral.ne_nil hliteral.isFileName hway]

/-- Such a pattern takes what is at its place or below; with a slash at its end it leaves a file at this place.
A file whose name only begins as the place does is left, too. -/
theorem catches_literal_iff {names : List String} (hliteral : IsLiteral names) {front back : Bool}
    (hwhole : (literal names front back).IsWhole) {place : List String} (hplace : ∀ name ∈ place, IsFileName name) :
    (literal names front back).Catches place ↔ names <+: place ∧ (back = true → names ≠ place) := by
  constructor
  · rintro ⟨way, hne, hinit, haccepts⟩
    rw [accepts_literal_iff hliteral hwhole hne (fun name hname => hplace name (hinit.subset hname)),
      decide_eq_true_iff] at haccepts
    obtain ⟨hdirectory, rfl | ⟨hback, hbelow, hproper⟩⟩ := haccepts
    · exact ⟨hinit, hdirectory⟩
    · refine ⟨hbelow.trans hinit, ?_⟩
      rintro _ rfl
      exact hproper (hbelow.eq_of_length_le hinit.length_le)
  · rintro ⟨hinit, hproper⟩
    refine ⟨names, hliteral.ne_nil, hinit, ?_⟩
    rw [accepts_literal_iff hliteral hwhole hliteral.ne_nil hliteral.isFileName, decide_eq_true_iff]
    exact ⟨hproper, .inl rfl⟩

/-- One name without a slash in front takes everything of this name; with a slash at its end it leaves files. -/
theorem catches_name_iff {name : String} (hliteral : IsLiteral [name]) {back : Bool} {place : List String}
    (hplace : ∀ name ∈ place, IsFileName name) :
    (literal [name] false back).Catches place ↔ name ∈ namesOnWay place back := by
  have hname := hliteral.isFileName name (by simp)
  have hfree : (literal [name] false back).IsSlashFree := by
    refine ⟨rfl, ?_⟩
    simpa [literal] using hname.2
  have hplain := hliteral.isPlain
  rw [FileTree.relativeText_singleton] at hplain
  rw [catches_iff_names hfree hplace]
  simp [literal, Glob.accepts_plain_iff hplain]

end IgnoreRule

namespace Scan

variable {w : Workspace} {p : Path} {tree : FileTree}

/-- Without an ignore file and a settings file a scan goes by its exclude patterns alone, whether or not it
would look up settings. -/
theorem outcome_rules_of_no_files (scan : Scan) {source : String} (hproper : w.files.IsProper)
    (hhome : w.files.expandHome (Path.parse source) = .ok p) (hdirectory : w.files.isDirectory p = true)
    (htree : w.files.tree.get? (w.files.resolve p) = some tree) (hignore : tree.get? [IgnoreRule.fileName] = none)
    (hsettings : tree.get? [Settings.fileName] = none) :
    (scan.rules (w.files.resolve p)).outcome w = (.ok (IgnoreRule.ofPatterns scan.excludePaths), w) := by
  have hload : Settings.load w.files (.absolute (w.files.resolve p)) = .ok { root := w.files.resolve p } :=
    (Settings.load_resolve hproper hhome hdirectory).trans
      (Settings.load_of_no_file hproper hhome hdirectory htree hsettings)
  have hpatterns : (if scan.readsSettings then settingsPatterns (w.files.resolve p) else pure []).outcome w =
      (.ok [], w) := by
    cases scan.readsSettings with
    | false => rfl
    | true => exact outcome_settingsPatterns_of_load hload
  rw [outcome_rules_of_load (IgnoreRule.load_of_no_file hproper htree hignore) hpatterns]
  simp [Except.map]

/-- One more pattern leaves of a scan what passes the test. -/
def LeavesWith (scan : Scan) (source : String) (w : Workspace) (root : List String) (found : List (List String))
    (pattern : String) (left : List String → Bool) : Prop :=
  (((scan.excluding (scan.excludePaths ++ [pattern])).run source).outcome w).1 =
    .ok ((found.filter left).map fun place => Path.absolute (root ++ place))

section

variable {scan : Scan} {source : String} {root : List String} (hdistinct : tree.NamesDistinct)
  (hplain : tree.NamesPlain)
  (hrun : ∀ patterns, (((scan.excluding patterns).run source).outcome w).1 =
    .ok ((tree.sources (scan.suffixes.map Text.lower) (IgnoreRule.ofPatterns patterns)).map fun place =>
      Path.absolute (root ++ place)))

include hdistinct hplain hrun

/-- A pattern more is one rule more, at the end, and takes what this rule catches. It is stated by a test on
places, since each form of a pattern has a test of its own. -/
theorem leavesWith_marked {names : List String} (hliteral : IgnoreRule.IsLiteral names) (front back : Bool)
    (left : List String → Bool) (hleft : ∀ place, (∀ name ∈ place, IsFileName name) →
      (left place = true ↔ ¬ (IgnoreRule.literal names front back).Catches place)) :
    scan.LeavesWith source w root
      (tree.sources (scan.suffixes.map Text.lower) (IgnoreRule.ofPatterns scan.excludePaths))
      (IgnoreRule.marked (FileTree.relativeText names) front back) left := by
  have hrules : IgnoreRule.ofPatterns
      (scan.excludePaths ++ [IgnoreRule.marked (FileTree.relativeText names) front back]) =
      IgnoreRule.ofPatterns scan.excludePaths ++ [IgnoreRule.literal names front back] := by
    rw [← hliteral.ofPatterns_marked]
    exact List.filterMap_append
  rw [LeavesWith, hrun, hrules, FileTree.sources_insert hdistinct rfl (by simp) left, List.append_nil]
  exact fun place hselected => hleft place (hselected.isFileName hdistinct hplain)

/-- A lone name as one more pattern. It is matched against every name on the way to a file, or to the directory
of the file if a slash follows it. -/
theorem leavesWith_name {name : String} (hliteral : IgnoreRule.IsLiteral [name]) (back : Bool) :
    scan.LeavesWith source w root
      (tree.sources (scan.suffixes.map Text.lower) (IgnoreRule.ofPatterns scan.excludePaths))
      (IgnoreRule.marked name false back) fun place => name ∉ IgnoreRule.namesOnWay place back := by
  have hmarked := leavesWith_marked hdistinct hplain hrun hliteral false back fun place =>
    name ∉ IgnoreRule.namesOnWay place back
  rw [FileTree.relativeText_singleton] at hmarked
  refine hmarked fun place hplace => ?_
  rw [decide_eq_true_iff, IgnoreRule.catches_name_iff hliteral hplace]

/-- A path as one more pattern, which is matched against whole paths for a slash in front or between its names. -/
theorem leavesWith_place {names : List String} (hliteral : IgnoreRule.IsLiteral names) (front back : Bool)
    (hpath : front = true ∨ 2 ≤ names.length) :
    scan.LeavesWith source w root
      (tree.sources (scan.suffixes.map Text.lower) (IgnoreRule.ofPatterns scan.excludePaths))
      (IgnoreRule.marked (FileTree.relativeText names) front back)
      fun place => ¬ (names <+: place ∧ (back = true → names ≠ place)) := by
  have hwhole : (IgnoreRule.literal names front back).IsWhole :=
    hpath.imp id fun hlong => by simpa [IgnoreRule.literal] using FileTree.slash_mem_relativeText hlong
  refine leavesWith_marked hdistinct hplain hrun hliteral front back _ fun place hplace => ?_
  rw [decide_eq_true_iff, IgnoreRule.catches_literal_iff hliteral hwhole hplace]

end

/-- What literal patterns take from a scan of a directory without an ignore file and without settings. A name takes
every file with the name on its way, and with a slash at its end every file below a directory of the name. A path
takes the file that it leads to and all files below the directory that it leads to, and with a slash at its end the
latter alone; a slash in front makes one name a path. -/
theorem run_excluding_literal (scan : Scan) (source : String) (w : Workspace) {p : Path} {tree : FileTree}
    (hproper : w.files.IsProper) (hhome : w.files.expandHome (Path.parse source) = .ok p)
    (hdirectory : w.files.isDirectory p = true) (htree : w.files.tree.get? (w.files.resolve p) = some tree)
    (hplain : tree.NamesPlain) (hignore : tree.get? [IgnoreRule.fileName] = none)
    (hsettings : tree.get? [Settings.fileName] = none) :
    ∃ found : List (List String),
      ((scan.run source).outcome w).1 =
        .ok (found.map fun place => Path.absolute (w.files.resolve p ++ place)) ∧
      (∀ name, IgnoreRule.IsLiteral [name] →
        scan.LeavesWith source w (w.files.resolve p) found name (fun place => name ∉ place) ∧
          scan.LeavesWith source w (w.files.resolve p) found (name ++ "/") fun place => name ∉ place.dropLast) ∧
      ∀ names, IgnoreRule.IsLiteral names →
        scan.LeavesWith source w (w.files.resolve p) found ("/" ++ FileTree.relativeText names)
            (fun place => ¬ names <+: place) ∧
          scan.LeavesWith source w (w.files.resolve p) found ("/" ++ FileTree.relativeText names ++ "/")
            (fun place => ¬ (names <+: place ∧ names ≠ place)) ∧
          (2 ≤ names.length →
            scan.LeavesWith source w (w.files.resolve p) found (FileTree.relativeText names)
                (fun place => ¬ names <+: place) ∧
              scan.LeavesWith source w (w.files.resolve p) found (FileTree.relativeText names ++ "/")
                fun place => ¬ (names <+: place ∧ names ≠ place)) := by
  have hdistinct : tree.NamesDistinct := hproper.distinct.of_get? htree
  have hrun (patterns : List String) : (((scan.excluding patterns).run source).outcome w).1 =
      .ok ((tree.sources (scan.suffixes.map Text.lower) (IgnoreRule.ofPatterns patterns)).map fun place =>
        Path.absolute (w.files.resolve p ++ place)) :=
    (scan.excluding patterns).outcome_run_directory hhome hdirectory
      ((scan.excluding patterns).outcome_rules_of_no_files hproper hhome hdirectory htree hignore hsettings) htree
  refine ⟨tree.sources (scan.suffixes.map Text.lower) (IgnoreRule.ofPatterns scan.excludePaths),
    hrun scan.excludePaths, fun name hliteral => ⟨?_, ?_⟩, fun names hliteral => ⟨?_, ?_, fun hlong => ⟨?_, ?_⟩⟩⟩
  · simpa [IgnoreRule.marked, IgnoreRule.namesOnWay] using leavesWith_name hdistinct hplain hrun hliteral false
  · simpa [IgnoreRule.marked, IgnoreRule.namesOnWay] using leavesWith_name hdistinct hplain hrun hliteral true
  · simpa [IgnoreRule.marked] using leavesWith_place hdistinct hplain hrun hliteral true false (.inl rfl)
  · simpa [IgnoreRule.marked] using leavesWith_place hdistinct hplain hrun hliteral true true (.inl rfl)
  · simpa [IgnoreRule.marked] using leavesWith_place hdistinct hplain hrun hliteral false false (.inr hlong)
  · simpa [IgnoreRule.marked] using leavesWith_place hdistinct hplain hrun hliteral false true (.inr hlong)

/-- A directory with a file whose name starts as that of the directory beside it does. -/
def twinCrate : FileTree :=
  .directory [("a", .directory [("b.rs", .file []), ("b", .directory [("x.rs", .file [])])])]

/-- The files from which the directory is seen. -/
def twinWorkspace : Workspace := { files := { tree := .directory [("crate", twinCrate)] } }

theorem twinWorkspace_isProper : twinWorkspace.files.IsProper :=
  FileSystem.isProper_of_listsAll rfl List.not_mem_nil

theorem twinCrate_namesPlain : twinCrate.NamesPlain :=
  FileTree.namesPlain_of_listsAll rfl

/-- The pattern `a/b` takes what is in the directory, and leaves the file `a/b.rs`, whose path begins alike. -/
theorem run_twinCrate :
    twinWorkspace.files.IsProper ∧ twinCrate.NamesPlain ∧ twinCrate.get? [IgnoreRule.fileName] = none ∧
      twinCrate.get? [Settings.fileName] = none ∧ IgnoreRule.IsLiteral ["a", "b"] ∧
      ((run {} "crate").outcome twinWorkspace).1.toOption =
        some [Path.absolute ["crate", "a", "b.rs"], Path.absolute ["crate", "a", "b", "x.rs"]] ∧
      ((run { excludePaths := ["a/b"] } "crate").outcome twinWorkspace).1.toOption =
        some [Path.absolute ["crate", "a", "b.rs"]] ∧
      ∃ found : List (List String), ((run {} "crate").outcome twinWorkspace).1 =
          .ok (found.map fun place => Path.absolute ("crate" :: place)) ∧
        ((run { excludePaths := ["a/b"] } "crate").outcome twinWorkspace).1 =
          .ok ((found.filter fun place => ¬ ["a", "b"] <+: place).map fun place =>
            Path.absolute ("crate" :: place)) := by
  have hliteral : IgnoreRule.IsLiteral ["a", "b"] :=
    ⟨by simp, by simp [IsFileName], by decide +kernel, by decide +kernel⟩
  have hhome : twinWorkspace.files.expandHome (Path.parse "crate") = .ok (Path.parse "crate") := rfl
  have htree : twinWorkspace.files.tree.get? (twinWorkspace.files.resolve (Path.parse "crate")) = some twinCrate := rfl
  obtain ⟨found, hrun, _, hpaths⟩ := run_excluding_literal {} "crate" twinWorkspace twinWorkspace_isProper hhome
    (by decide +kernel) htree twinCrate_namesPlain rfl rfl
  refine ⟨twinWorkspace_isProper, twinCrate_namesPlain, rfl, rfl, hliteral, by decide +kernel, by decide +kernel,
    found, hrun, ?_⟩
  exact ((hpaths ["a", "b"] hliteral).2.2 (by simp)).1

end Scan

end ClassDiagram
