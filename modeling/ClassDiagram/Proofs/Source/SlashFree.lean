import ClassDiagram.Proofs.Ignore.SlashFree
import ClassDiagram.Proofs.Pipeline.Stages
import ClassDiagram.Proofs.Source.Scan

namespace ClassDiagram

namespace FileTree

/-- Every name in the tree is one that a file can have. -/
inductive NamesPlain : FileTree → Prop
  | file (bytes : List UInt8) : NamesPlain (.file bytes)
  | directory (entries : List (String × FileTree)) (hnames : ∀ entry ∈ entries, IsFileName entry.1)
      (hbelow : ∀ entry ∈ entries, NamesPlain entry.2) : NamesPlain (.directory entries)

theorem namesPlain_of_listsAll {tree : FileTree}
    (htree : tree.listsAll (fun names => decide (∀ name ∈ names, name ≠ "" ∧ '/' ∉ name.toList)) = true) :
    tree.NamesPlain := by
  refine of_listsAll .file (fun entries hnames => .directory entries fun entry hmem => ?_) tree htree
  exact of_decide_eq_true hnames _ (List.mem_map_of_mem hmem)

theorem NamesPlain.isFileName_of_isFileAt {tree : FileTree} (hplain : tree.NamesPlain)
    (hdistinct : tree.NamesDistinct) {place : List String} (hfile : tree.IsFileAt place) :
    ∀ name ∈ place, IsFileName name := by
  induction place generalizing tree with
  | nil => simp
  | cons name place ih =>
    cases hdistinct with
    | file bytes => exact absurd hfile (not_isFileAt_file_cons bytes name place)
    | directory entries hnames hbelow =>
      obtain ⟨found, hmem, hfound⟩ := (isFileAt_cons_iff hnames name place).mp hfile
      cases hplain with
      | directory _ hplain hplainBelow =>
        rw [List.forall_mem_cons]
        exact ⟨hplain _ hmem, ih (hplainBelow _ hmem) (hbelow _ hmem) hfound⟩

/-- The files with one of the suffixes that are not ignored, in a given sense, and stand below no directory that
is ignored or always left out. -/
structure LeftBy (ignored : List String → Bool → Prop) (suffixes : List String) (tree : FileTree)
    (place : List String) : Prop where
  isBelow : place ≠ []
  isFile : tree.IsFileAt place
  hasSuffix : Text.lower (Path.suffixOfName (place.getLastD "")) ∈ suffixes
  notIgnored : ¬ ignored place false
  notBelowIgnored : ∀ directory, directory ≠ [] → directory <+: place → directory ≠ place →
    directory.getLastD "" ∉ excludedDirectories ∧ ¬ ignored directory true

variable {suffixes : List String} {rules : List IgnoreRule} {tree : FileTree} {place : List String}

/-- A scan goes by all names on the way to a file, so it leaves the files that no rule drops on their way. -/
theorem selected_iff_leftBy (hfree : ∀ rule ∈ rules, rule.IsSlashFree) (hplain : tree.NamesPlain)
    (hdistinct : tree.NamesDistinct) :
    tree.Selected suffixes rules place ↔ tree.LeftBy (IgnoreRule.DropsOnWay rules) suffixes place := by
  have hkept {directory : List String} (hfile : tree.IsFileAt place) (hne : directory ≠ [])
      (hinit : directory <+: place) (isDirectory : Bool) :
      IgnoreRule.ignores rules (relativeText directory) isDirectory = false ↔
        ¬ IgnoreRule.DropsOnWay rules directory isDirectory := by
    have hnames := hplain.isFileName_of_isFileAt hdistinct hfile
    rw [← IgnoreRule.ignores_iff_dropsOnWay hfree hne (fun name hname => hnames name (hinit.subset hname)),
      Bool.not_eq_true]
  constructor
  · rintro ⟨hne, hfile, hsuffix, hignored, hbelow⟩
    refine ⟨hne, hfile, hsuffix, (hkept hfile hne (List.prefix_refl place) false).mp hignored, ?_⟩
    intro directory hdirectory hinit hproper
    obtain ⟨hentered, habove⟩ := hbelow directory hdirectory hinit hproper
    exact ⟨hentered, (hkept hfile hdirectory hinit true).mp habove⟩
  · rintro ⟨hne, hfile, hsuffix, hignored, hbelow⟩
    refine ⟨hne, hfile, hsuffix, (hkept hfile hne (List.prefix_refl place) false).mpr hignored, ?_⟩
    intro directory hdirectory hinit hproper
    obtain ⟨hentered, habove⟩ := hbelow directory hdirectory hinit hproper
    exact ⟨hentered, (hkept hfile hdirectory hinit true).mpr habove⟩

theorem prefix_above_of_proper {above directory : List String} {name : String}
    (hinit : directory <+: above ++ [name]) (hproper : directory ≠ above ++ [name]) : directory <+: above := by
  rw [List.prefix_concat_iff] at hinit
  exact hinit.resolve_left hproper

/-- Where no negated rule speaks of a directory above a file, the two readings leave the same. -/
theorem leftBy_dropsOnWay_iff (hclear : IgnoreRule.IsClear rules place.dropLast) :
    tree.LeftBy (IgnoreRule.DropsOnWay rules) suffixes place ↔
      tree.LeftBy (IgnoreRule.Ignored rules) suffixes place := by
  obtain rfl | ⟨above, name, rfl⟩ := List.eq_nil_or_concat place
  · exact ⟨fun hleft => absurd rfl hleft.isBelow, fun hleft => absurd rfl hleft.isBelow⟩
  · rw [List.concat_eq_append] at hclear ⊢
    rw [List.dropLast_concat] at hclear
    have hreadings := hclear.not_ignored_iff name
    constructor
    · rintro ⟨hne, hfile, hsuffix, hkept, hbelow⟩
      have hignored := hreadings.mpr ⟨hkept, fun directory hdirectory hinit =>
        (hbelow directory hdirectory (hinit.trans (List.prefix_append above [name]))
          (fun hsame => absurd (hsame ▸ hinit.length_le) (by simp))).2⟩
      refine ⟨hne, hfile, hsuffix, hignored, fun directory hdirectory hinit hproper => ?_⟩
      refine ⟨(hbelow directory hdirectory hinit hproper).1, fun habove => hignored ?_⟩
      obtain ⟨rest, hrest⟩ := hinit
      rw [← hrest]
      refine .under hdirectory ?_ habove
      rintro rfl
      exact hproper (by simpa using hrest)
    · rintro ⟨hne, hfile, hsuffix, hignored, hbelow⟩
      obtain ⟨hkept, habove⟩ := hreadings.mp hignored
      refine ⟨hne, hfile, hsuffix, hkept, fun directory hdirectory hinit hproper => ?_⟩
      refine ⟨(hbelow directory hdirectory hinit hproper).1, ?_⟩
      exact habove directory hdirectory (prefix_above_of_proper hinit hproper)

end FileTree

namespace Scan

/-- The rules of a scan are those of the ignore file, then its exclude patterns, then those of the settings. -/
theorem outcome_rules_of_load {scan : Scan} {root : List String} {w w' : Workspace} {own : List IgnoreRule}
    {read : Except Failure (List String)} (hload : IgnoreRule.load w.files (Pipeline.ignoreFile root) = .ok own)
    (hsettings : (if scan.readsSettings then settingsPatterns root else pure []).outcome w = (read, w')) :
    (scan.rules root).outcome w =
      (read.map fun patterns => own ++ IgnoreRule.ofPatterns (scan.excludePaths ++ patterns), w') := by
  have hown := Job.outcome_reading (IgnoreRule.load · (Pipeline.ignoreFile root)) w
  rw [hload] at hown
  rw [rules, ← Pipeline.ignoreFile, Job.outcome_bind_of_ok hown]
  cases hreads : scan.readsSettings with
  | false =>
    rw [hreads] at hsettings
    cases hsettings
    rfl
  | true =>
    rw [hreads, if_pos rfl] at hsettings
    simp only [if_true]
    cases read with
    | error failure => exact Job.outcome_bind_of_error hsettings _
    | ok patterns => exact Job.outcome_bind_of_ok hsettings _

/-- Without exclude patterns the rules of a scan are those of the ignore file. -/
theorem outcome_rules_own {scan : Scan} {root : List String} {w w' : Workspace} {own : List IgnoreRule}
    (hload : IgnoreRule.load w.files (Pipeline.ignoreFile root) = .ok own) (hexcludes : scan.excludePaths = [])
    (hsettings : (if scan.readsSettings then settingsPatterns root else pure []).outcome w = (.ok [], w')) :
    (scan.rules root).outcome w = (.ok own, w') := by
  rw [outcome_rules_of_load hload hsettings, hexcludes]
  simp [IgnoreRule.ofPatterns, Except.map]

/-- Under an ignore file whose rules have no slashes, a scan leaves out the files of which the last rule that
speaks of any name on their way is not negated, and what is below directories of this kind. Where no negated
rule speaks of a directory above a file, the scan gives the file exactly if the usual reading of the ignore
file leaves it. -/
theorem run_slashFree (scan : Scan) (source : String) (w : Workspace) {w' : Workspace} {p : Path}
    {own : List IgnoreRule} {tree : FileTree} (hhome : w.files.expandHome (Path.parse source) = .ok p)
    (hdirectory : w.files.isDirectory p = true)
    (hload : IgnoreRule.load w.files (Pipeline.ignoreFile (w.files.resolve p)) = .ok own)
    (hexcludes : scan.excludePaths = [])
    (hsettings : (if scan.readsSettings then settingsPatterns (w.files.resolve p) else pure []).outcome w =
      (.ok [], w'))
    (htree : w'.files.tree.get? (w.files.resolve p) = some tree) (hdistinct : tree.NamesDistinct)
    (hplain : tree.NamesPlain) (hfree : ∀ rule ∈ own, rule.IsSlashFree) :
    ∃ found : List (List String), ((scan.run source).outcome w).1 =
        .ok (found.map fun place => Path.absolute (w.files.resolve p ++ place)) ∧
      (∀ place, place ∈ found ↔ tree.LeftBy (IgnoreRule.DropsOnWay own) (scan.suffixes.map Text.lower) place) ∧
      ∀ place, IgnoreRule.IsClear own place.dropLast →
        (place ∈ found ↔ tree.LeftBy (IgnoreRule.Ignored own) (scan.suffixes.map Text.lower) place) := by
  have hrules := outcome_rules_own hload hexcludes hsettings
  have hmem (place : List String) : place ∈ tree.sources (scan.suffixes.map Text.lower) own ↔
      tree.LeftBy (IgnoreRule.DropsOnWay own) (scan.suffixes.map Text.lower) place := by
    rw [FileTree.mem_sources hdistinct]
    exact FileTree.selected_iff_leftBy hfree hplain hdistinct
  refine ⟨_, scan.outcome_run_directory hhome hdirectory hrules htree, hmem, fun place hclear => ?_⟩
  rw [hmem]
  exact FileTree.leftBy_dropsOnWay_iff hclear

/-- A directory whose ignore file leaves out all sources but `lib.rs`, and all directories `gen`. -/
def libraryCrate : FileTree :=
  .directory [(".gitignore", .file (Text.encodeUtf8 "*.rs\n!lib.rs\ngen/\n")),
    ("src", .directory [("lib.rs", .file []), ("gen", .directory [("lib.rs", .file [])])])]

/-- The rules of this ignore file. -/
def libraryRules : List IgnoreRule :=
  [⟨"*.rs", false, false, false, false⟩, ⟨"lib.rs", false, false, true, false⟩, ⟨"gen", true, false, false, false⟩]

/-- The files from which the directory is seen. -/
def libraryWorkspace : Workspace := { files := { tree := .directory [("crate", libraryCrate)] } }

theorem libraryCrate_namesDistinct : libraryCrate.NamesDistinct :=
  FileTree.namesDistinct_of_listsAll rfl

theorem libraryCrate_namesPlain : libraryCrate.NamesPlain :=
  FileTree.namesPlain_of_listsAll rfl

/-- The negated rule speaks of files only, so the scan gives what the usual reading leaves. -/
theorem run_libraryCrate :
    libraryCrate.NamesDistinct ∧ libraryCrate.NamesPlain ∧
      IgnoreRule.load libraryWorkspace.files (Pipeline.ignoreFile ["crate"]) = .ok libraryRules ∧
      (∀ rule ∈ libraryRules, rule.IsSlashFree) ∧
      ∃ found : List (List String), ((run {} "crate").outcome libraryWorkspace).1 =
          .ok (found.map fun place => Path.absolute ("crate" :: place)) ∧
        (["src", "lib.rs"] ∈ found ↔
          libraryCrate.LeftBy (IgnoreRule.Ignored libraryRules) [".rs"] ["src", "lib.rs"]) ∧
        (["src", "gen", "lib.rs"] ∈ found ↔
          libraryCrate.LeftBy (IgnoreRule.Ignored libraryRules) [".rs"] ["src", "gen", "lib.rs"]) := by
  have hload : IgnoreRule.load libraryWorkspace.files (Pipeline.ignoreFile ["crate"]) = .ok libraryRules :=
    eq_ok_of_toOption (by decide +kernel)
  have hfree : ∀ rule ∈ libraryRules, rule.IsSlashFree := by
    simp only [libraryRules, List.forall_mem_cons, List.not_mem_nil, false_implies, implies_true, and_true]
    exact ⟨⟨rfl, rfl⟩, ⟨rfl, rfl⟩, ⟨rfl, rfl⟩⟩
  have hclear : IgnoreRule.IsClear libraryRules ["src", "gen"] := by
    simp only [IgnoreRule.IsClear, libraryRules, List.forall_mem_cons, List.not_mem_nil, false_implies,
      implies_true, and_true]
    exact ⟨nofun, fun _ => ⟨by decide +kernel, by decide +kernel⟩, nofun⟩
  have hsuffixes : ({} : Scan).suffixes.map Text.lower = [".rs"] := by decide +kernel
  have hhome : libraryWorkspace.files.expandHome (Path.parse "crate") = .ok (Path.parse "crate") := rfl
  obtain ⟨found, hrun, _, hmem⟩ := run_slashFree {} "crate" libraryWorkspace hhome (by decide) hload rfl rfl rfl
    libraryCrate_namesDistinct libraryCrate_namesPlain hfree
  rw [hsuffixes] at hmem
  refine ⟨libraryCrate_namesDistinct, libraryCrate_namesPlain, hload, hfree, found, hrun, ?_, ?_⟩
  · exact hmem _ (hclear.subset (by simp))
  · exact hmem _ hclear

/-- A directory whose ignore file leaves out all sources and then asks to keep what is called `api`. -/
def apiCrate : FileTree :=
  .directory [(".gitignore", .file (Text.encodeUtf8 "*.rs\n!api\n")), ("api", .directory [("x.rs", .file [])])]

/-- The rules of this ignore file. -/
def apiRules : List IgnoreRule :=
  [⟨"*.rs", false, false, false, false⟩, ⟨"api", false, false, true, false⟩]

/-- The file is given because of the name of its directory, although it is ignored by the usual reading: the
last rule that speaks of its own name is not negated. -/
theorem run_apiCrate :
    ((run {} "crate").outcome { files := { tree := .directory [("crate", apiCrate)] } }).1.toOption =
        some [Path.absolute ["crate", "api", "x.rs"]] ∧
      IgnoreRule.parse "*.rs\n!api\n" = apiRules ∧ (∀ rule ∈ apiRules, rule.IsSlashFree) ∧
      ¬ apiCrate.LeftBy (IgnoreRule.Ignored apiRules) [".rs"] ["api", "x.rs"] := by
  refine ⟨by decide +kernel, by decide +kernel, ?_, fun hleft => hleft.notIgnored ?_⟩
  · simp only [apiRules, List.forall_mem_cons, List.not_mem_nil, false_implies, implies_true, and_true]
    exact ⟨⟨rfl, rfl⟩, ⟨rfl, rfl⟩⟩
  · change IgnoreRule.Ignored apiRules (["api"] ++ ["x.rs"]) false
    refine .named ⟨[], _, _, rfl, ⟨by decide +kernel, nofun⟩, rfl, ?_⟩
    simp only [List.forall_mem_cons, List.not_mem_nil, false_implies, implies_true, and_true]
    rintro ⟨haccepts, _⟩
    exact absurd haccepts (by decide +kernel)

end Scan

end ClassDiagram
