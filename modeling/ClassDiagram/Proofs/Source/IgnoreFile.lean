import ClassDiagram.Proofs.Pipeline.Locality
import ClassDiagram.Proofs.Source.Excludes
import ClassDiagram.Proofs.Source.Root
import ClassDiagram.Proofs.Source.SlashFree

namespace ClassDiagram

/-- A place in a directory has room for a file where there is no directory. -/
theorem FileTree.hasRoomAt_child {tree : FileTree} {names : List String} {name : String}
    (habove : tree.IsDirectoryAt names) (hfree : ¬ tree.IsDirectoryAt (names ++ [name])) :
    tree.HasRoomAt (names ++ [name]) := by
  obtain ⟨entries, hget⟩ := habove
  cases hthere : tree.get? (names ++ [name]) with
  | none => exact .made hget hthere
  | some found =>
    cases found with
    | file bytes => exact .replaced hthere
    | directory below => exact absurd ⟨below, hthere⟩ hfree

/-- The directory with these bytes in its ignore file. -/
def Workspace.withIgnoreFile (w : Workspace) (root : List String) (bytes : List UInt8) : Workspace :=
  w.put (root ++ [IgnoreRule.fileName]) (.file bytes)

/-- The bytes spell a text of one line. -/
def FileSystem.IsLine (bytes : List UInt8) (line : String) : Prop :=
  ∃ text, textOf bytes = .ok text ∧ Text.lines text = [line]

namespace Workspace

variable {w : Workspace} {root : List String} {p : Path}

/-- The directory is still a directory after its ignore file was written, however the path spells it. -/
theorem isDirectory_withIgnoreFile (hdirectory : w.files.isDirectory p = true)
    (hfree : ¬ w.files.tree.IsDirectoryAt (w.files.resolve p ++ [IgnoreRule.fileName])) (bytes : List UInt8) :
    (w.withIgnoreFile (w.files.resolve p) bytes).files.isDirectory p = true := by
  have hroom := FileTree.hasRoomAt_child (Pipeline.get?_of_isDirectory hdirectory) hfree
  have hkeeps := FileTree.keeps_put bytes hroom
  rw [FileSystem.isDirectory, FileSystem.lookup?, FileTree.lookup?] at hdirectory ⊢
  cases hlocate : w.files.tree.locate w.files.current p with
  | error fault => simp [hlocate] at hdirectory
  | ok place =>
    rw [hlocate] at hdirectory
    have hlocate' : (w.withIgnoreFile (w.files.resolve p) bytes).files.tree.locate
        (w.withIgnoreFile (w.files.resolve p) bytes).files.current p = .ok place := hkeeps.locate_eq_ok hlocate
    rw [hlocate']
    cases hget : w.files.tree.get? place with
    | none => simp [hget] at hdirectory
    | some found =>
      obtain ⟨found', hget', hkind⟩ := hkeeps place found hget
      have hthere : (w.withIgnoreFile (w.files.resolve p) bytes).files.tree.get? place = some found' := hget'
      simpa [hget, hthere, hkind] using hdirectory

/-- The rules of the directory are those of the text that the bytes spell. -/
theorem load_withIgnoreFile (hplain : ".." ∉ root) {bytes : List UInt8} {text : String}
    (htext : FileSystem.textOf bytes = .ok text) :
    IgnoreRule.load (w.withIgnoreFile root bytes).files (Pipeline.ignoreFile root) = .ok (IgnoreRule.parse text) := by
  have hget : (w.withIgnoreFile root bytes).files.tree.get? (root ++ [IgnoreRule.fileName]) = some (.file bytes) :=
    FileTree.get?_put_self _ _ _
  have hchild : ".." ∉ root ++ [IgnoreRule.fileName] := by
    simpa [hplain] using (by decide : ".." ≠ IgnoreRule.fileName)
  have hlocate := FileTree.locate_absolute (by rw [hget]; rfl) hchild (w.withIgnoreFile root bytes).files.current
  have hpath : Pipeline.ignoreFile root = .absolute (root ++ [IgnoreRule.fileName]) := rfl
  have hthere : (w.withIgnoreFile root bytes).files.contains (Pipeline.ignoreFile root) = true := by
    rw [hpath, FileSystem.contains, FileSystem.lookup?, FileTree.lookup?, hlocate]
    simp [hget]
  have hread : (w.withIgnoreFile root bytes).files.readText (Pipeline.ignoreFile root) = .ok text := by
    rw [hpath, FileSystem.readText, FileSystem.readBytes, FileTree.read_of_locate hlocate, hget]
    simp [Except.mapError, htext, bind, Except.bind]
  rw [IgnoreRule.load, hthere, hread]
  rfl

/-- Whatever the ignore file holds, all other files hold the same, and paths lead to the same places. -/
theorem agrees_withIgnoreFile (w : Workspace) (root : List String) (bytes bytes' : List UInt8) :
    Agrees (fun p => w.files.resolve p ≠ root ++ [IgnoreRule.fileName]) (w.withIgnoreFile root bytes)
      (w.withIgnoreFile root bytes') := by
  refine ⟨rfl, rfl, rfl, rfl, rfl, rfl, ?_, fun p hread => ?_⟩
  · exact FileTree.SamePaths.put (fun _ => rfl) _ bytes bytes'
  · have hresolve : (w.withIgnoreFile root bytes).files.resolve p = w.files.resolve p := rfl
    rw [hresolve, withIgnoreFile, withIgnoreFile, put, put, FileTree.bytesAt_put, FileTree.bytesAt_put, if_neg hread,
      if_neg hread]

/-- The settings of any path are the same, since the ignore file is no file of settings. -/
theorem settings_withIgnoreFile (w : Workspace) (root : List String) (bytes bytes' : List UInt8) (source : Path) :
    Settings.load (w.withIgnoreFile root bytes).files source =
      Settings.load (w.withIgnoreFile root bytes').files source := by
  refine (agrees_withIgnoreFile w root bytes bytes').settings_eq fun directory _ hsame => ?_
  have hfile : w.files.resolve ((Path.absolute directory).child Settings.fileName) =
      w.files.resolve (.absolute directory) ++ [Settings.fileName] := by
    simp [FileSystem.resolve, Path.resolve, Path.child, Path.absolute, List.foldl_append, Path.extend,
      (by decide : Settings.fileName ≠ "..")]
  rw [hfile] at hsame
  have hnames := (List.append_inj' hsame rfl).2
  exact absurd hnames (by decide)

end Workspace

namespace Scan

/-- What a scan makes of the settings is told by what loading them gives; settings that cannot be used give no
patterns and a record. -/
theorem outcome_settingsPatterns_of (root : List String) (loaded : Except Failure Settings) :
    ∃ result records, ∀ w : Workspace, Settings.load w.files (.absolute root) = loaded →
      (settingsPatterns root).outcome w = (result, w.noteAll records) := by
  cases loaded with
  | ok settings => exact ⟨.ok settings.excludePaths, [], fun w hload => outcome_settingsPatterns_of_load hload⟩
  | error failure =>
    by_cases hunusable : ∃ error, failure = .settings error
    · obtain ⟨error, rfl⟩ := hunusable
      let warning : Record :=
        { logger := loggerName part
          level := .warning
          message := "Ignoring exclude_paths from invalid config: " ++ error.message }
      refine ⟨.ok [], [warning], fun w hload => ?_⟩
      rw [settingsPatterns, Job.outcome_bind_of_ok (Job.outcome_get w), hload]
      rfl
    · refine ⟨.error failure, [], fun w hload => ?_⟩
      rw [settingsPatterns, Job.outcome_bind_of_ok (Job.outcome_get w), hload]
      cases failure with
      | settings error => exact absurd ⟨error, rfl⟩ hunusable
      | _ => exact Job.outcome_throw _ _

/-- What a scan of a directory gives, by the rules of its ignore file and what loading its settings gives.
Nothing else of the workspace enters but the tree that is walked. -/
theorem outcome_run_of_own (scan : Scan) (root : List String) (loaded : Except Failure Settings) :
    ∃ read : Except Failure (List String × List Record), ∀ (source : String) (w : Workspace) (p : Path)
      (own : List IgnoreRule), w.files.expandHome (Path.parse source) = .ok p → w.files.isDirectory p = true →
      w.files.resolve p = root → Settings.load w.files (.absolute root) = loaded →
      IgnoreRule.load w.files (Pipeline.ignoreFile root) = .ok own →
      ((scan.run source).outcome w).1 = read.map fun found => scan.sourcesBelow (w.noteAll found.2).files root
        (own ++ IgnoreRule.ofPatterns (scan.excludePaths ++ found.1)) := by
  obtain ⟨result, records, hpatterns⟩ : ∃ result records, ∀ w : Workspace,
      Settings.load w.files (.absolute root) = loaded →
      (if scan.readsSettings then settingsPatterns root else pure []).outcome w = (result, w.noteAll records) := by
    cases scan.readsSettings with
    | false => exact ⟨.ok [], [], fun w _ => Job.outcome_pure _ _⟩
    | true => exact outcome_settingsPatterns_of root loaded
  refine ⟨result.map (·, records), ?_⟩
  rintro source w p own hhome hdirectory rfl hload hown
  have hthere := FileSystem.contains_of_isDirectory hdirectory
  rw [outcome_run_of_home _ hhome, hthere]
  simp only [Bool.true_eq_false, if_false, hdirectory, if_true]
  have hrules := outcome_rules_of_load hown (hpatterns w hload)
  rw [directory]
  cases result with
  | error failure => rw [Job.outcome_bind_of_error hrules]; rfl
  | ok patterns =>
    rw [Job.outcome_bind_of_ok hrules, Job.outcome_bind_of_ok (Job.outcome_get _),
      Job.outcome_bind_of_ok (Job.outcome_note _ _ _ _)]
    rfl

/-- Scans of one directory with various ignore files fail alike, or walk one tree under the rules of the ignore
file and other rules that are the same for all of them. Two ignore files can therefore be compared by their
rules. -/
theorem outcome_run_withIgnoreFile (scan : Scan) (source : String) {w : Workspace} {p : Path}
    (hproper : w.files.IsProper) (hhome : w.files.expandHome (Path.parse source) = .ok p)
    (hdirectory : w.files.isDirectory p = true)
    (hfree : ¬ w.files.tree.IsDirectoryAt (w.files.resolve p ++ [IgnoreRule.fileName])) :
    (∃ failure, ∀ bytes text, FileSystem.textOf bytes = .ok text →
        ((scan.run source).outcome (w.withIgnoreFile (w.files.resolve p) bytes)).1 = .error failure) ∨
      ∃ (tree : FileTree) (more : List IgnoreRule), tree.NamesDistinct ∧ (∀ rule ∈ more, rule.negate = false) ∧
        ∀ bytes text, FileSystem.textOf bytes = .ok text →
          ((scan.run source).outcome (w.withIgnoreFile (w.files.resolve p) bytes)).1 =
            .ok ((tree.sources (scan.suffixes.map Text.lower) (IgnoreRule.parse text ++ more)).map fun place =>
              Path.absolute (w.files.resolve p ++ place)) := by
  generalize hroot : w.files.resolve p = root at hfree
  have hdistinct (bytes : List UInt8) (records : List Record) :
      ((w.withIgnoreFile root bytes).noteAll records).files.tree.NamesDistinct :=
    Workspace.namesDistinct_noteAll (hproper.distinct.put (.file bytes) _) records
  obtain ⟨read, hread⟩ :=
    scan.outcome_run_of_own root (Settings.load (w.withIgnoreFile root []).files (.absolute root))
  have hrun (bytes : List UInt8) (text : String) (htext : FileSystem.textOf bytes = .ok text) :=
    hread source (w.withIgnoreFile root bytes) p _ hhome
      (hroot ▸ Workspace.isDirectory_withIgnoreFile hdirectory (hroot ▸ hfree) bytes) hroot
      (w.settings_withIgnoreFile root bytes [] _)
      (Workspace.load_withIgnoreFile (hroot ▸ hproper.not_mem_resolve p) htext)
  cases read with
  | error failure => exact .inl ⟨failure, hrun⟩
  | ok found =>
    refine .inr ⟨(((w.withIgnoreFile root []).noteAll found.2).files.tree.get? root).getD (.directory []),
      IgnoreRule.ofPatterns (scan.excludePaths ++ found.1), ?_, fun rule => IgnoreRule.negate_of_mem_ofPatterns,
      fun bytes text htext => ?_⟩
    · cases hget : ((w.withIgnoreFile root []).noteAll found.2).files.tree.get? root with
      | none => exact FileTree.namesDistinct_empty
      | some tree => exact (hdistinct [] found.2).of_get? hget
    · have hagrees := (w.agrees_withIgnoreFile root [] bytes).noteAll found.2
      rw [hrun bytes text htext, Except.map, sourcesBelow,
        hagrees.sources_eq (hdistinct [] found.2) (hdistinct bytes found.2)]

end Scan

end ClassDiagram
