import ClassDiagram.Proofs.Pipeline.Apart
import ClassDiagram.Proofs.Source.Scan

namespace ClassDiagram

namespace FileSystem

variable {files : FileSystem} {p : Path}

/-- The place of a directory, spelled out, leads to the directory. This holds since no name in the tree is two
dots. -/
theorem IsProper.isDirectory_resolve (hproper : files.IsProper) (hdirectory : files.isDirectory p = true) :
    files.isDirectory (.absolute (files.resolve p)) = true := by
  obtain ⟨entries, hget⟩ := Pipeline.get?_of_isDirectory hdirectory
  have hthere : (files.tree.get? (files.resolve p)).isSome = true := by rw [hget]; rfl
  rw [isDirectory, lookup?, FileTree.lookup?,
    FileTree.locate_absolute hthere (hproper.not_mem_resolve p)]
  simp [hget, FileTree.isDirectory]

/-- A name of a directory leads to what the directory has under it. Two dots are no such name; they lead out of
the directory. -/
theorem IsProper.contains_child (hproper : files.IsProper) {tree : FileTree}
    (hget : files.tree.get? (files.resolve p) = some tree) {name : String} (hname : name ≠ "..") :
    files.contains ((Path.absolute (files.resolve p)).child name) = (tree.get? [name]).isSome := by
  have hchild : (Path.absolute (files.resolve p)).child name = .absolute (files.resolve p ++ [name]) := rfl
  have hbelow : files.tree.get? (files.resolve p ++ [name]) = tree.get? [name] := by
    rw [FileTree.get?_append, hget, Option.bind_some]
  have hplain : ".." ∉ files.resolve p ++ [name] := by
    simpa [hproper.not_mem_resolve p] using Ne.symm hname
  rw [contains, hchild, lookup?, FileTree.lookup?]
  cases hthere : tree.get? [name] with
  | some found =>
    have hsome : (files.tree.get? (files.resolve p ++ [name])).isSome = true := by rw [hbelow, hthere]; rfl
    rw [FileTree.locate_absolute hsome hplain]
    simp [hbelow, hthere]
  | none =>
    cases hlocate : files.tree.locate files.current (.absolute (files.resolve p ++ [name])) with
    | error fault => rfl
    | ok place =>
      obtain rfl : place = files.resolve p ++ [name] := by
        rw [FileTree.eq_resolve_of_locate hlocate]
        exact files.resolve_absolute hplain
      simp [hbelow, hthere]

end FileSystem

namespace Settings

variable {files : FileSystem} {source p : Path}

/-- The settings of a directory are the same for the place of the directory and for a path that leads there. A
scan asks with the first and a pipeline with the second. -/
theorem load_resolve (hproper : files.IsProper) (hhome : files.expandHome source = .ok p)
    (hdirectory : files.isDirectory p = true) :
    load files (.absolute (files.resolve p)) = load files source := by
  have hplace : files.expandHome (.absolute (files.resolve p)) = .ok (.absolute (files.resolve p)) := rfl
  have hroot : directoryFor files (.absolute (files.resolve p)) = directoryFor files source := by
    rw [directoryFor, directoryFor, hplace, hhome]
    simp only [bind, Except.bind, hproper.isDirectory_resolve hdirectory, hdirectory, if_true,
      files.resolve_absolute (hproper.not_mem_resolve p)]
  rw [load, load, hroot]

/-- A directory without a settings file has the default settings, and itself for their root. -/
theorem load_of_no_file (hproper : files.IsProper) (hhome : files.expandHome source = .ok p)
    (hdirectory : files.isDirectory p = true) {tree : FileTree}
    (hget : files.tree.get? (files.resolve p) = some tree) (hnone : tree.get? [fileName] = none) :
    load files source = .ok { root := files.resolve p } := by
  have hroot : directoryFor files source = .ok (files.resolve p) := by
    simp [directoryFor, hhome, hdirectory, bind, Except.bind, pure, Except.pure]
  have hmissing := hproper.contains_child hget (by decide : fileName ≠ "..")
  rw [hnone] at hmissing
  rw [load, hroot]
  simp [bind, Except.bind, hmissing, pure, Except.pure]

end Settings

/-- A directory without an ignore file has no rules of its own. That there is none is no failure. -/
theorem IgnoreRule.load_of_no_file {files : FileSystem} {p : Path} (hproper : files.IsProper) {tree : FileTree}
    (hget : files.tree.get? (files.resolve p) = some tree) (hnone : tree.get? [fileName] = none) :
    load files (Pipeline.ignoreFile (files.resolve p)) = .ok [] := by
  have hmissing := hproper.contains_child hget (by decide : fileName ≠ "..")
  rw [hnone] at hmissing
  rw [load, Pipeline.ignoreFile, hmissing]
  rfl

namespace Scan

variable {w : Workspace} {settings : Settings}

/-- The scan that is told the exclude patterns of the settings and does not look them up itself. -/
def told (scan : Scan) (patterns : List String) : Scan :=
  { scan with excludePaths := scan.excludePaths ++ patterns, readsSettings := false }

/-- Settings that can be used give their exclude patterns and leave no record; a record tells of those that
cannot. -/
theorem outcome_settingsPatterns_of_load {root : List String}
    (hload : Settings.load w.files (.absolute root) = .ok settings) :
    (settingsPatterns root).outcome w = (.ok settings.excludePaths, w) := by
  rw [settingsPatterns, Job.outcome_bind_of_ok (Job.outcome_get w), hload]
  rfl

/-- Looking the settings up gives the rules that a scan has when it is told. -/
theorem outcome_rules_told (scan : Scan) (hreads : scan.readsSettings = true) {root : List String}
    (hload : Settings.load w.files (.absolute root) = .ok settings) :
    (scan.rules root).outcome w = ((scan.told settings.excludePaths).rules root).outcome w := by
  have hsettings := outcome_settingsPatterns_of_load hload
  have hown := Job.outcome_reading (IgnoreRule.load · (Pipeline.ignoreFile root)) w
  rw [rules, rules, ← Pipeline.ignoreFile]
  cases hrules : IgnoreRule.load w.files (Pipeline.ignoreFile root) with
  | error failure =>
    rw [hrules] at hown
    rw [Job.outcome_bind_of_error hown, Job.outcome_bind_of_error hown]
  | ok own =>
    rw [hrules] at hown
    rw [Job.outcome_bind_of_ok hown, Job.outcome_bind_of_ok hown]
    simp only [hreads, told, if_true, Bool.false_eq_true, if_false, pure_bind, List.append_nil]
    rw [Job.outcome_bind_of_ok hsettings]

/-- A scan of a directory whose settings can be used finds what it finds when it is told them. -/
theorem outcome_run_told (scan : Scan) (hreads : scan.readsSettings = true) {source : String} {p : Path}
    (hproper : w.files.IsProper) (hhome : w.files.expandHome (Path.parse source) = .ok p)
    (hdirectory : w.files.isDirectory p = true)
    (hload : Settings.load w.files (Path.parse source) = .ok settings) :
    (scan.run source).outcome w = ((scan.told settings.excludePaths).run source).outcome w := by
  have hplace : Settings.load w.files (.absolute (w.files.resolve p)) = .ok settings :=
    (Settings.load_resolve hproper hhome hdirectory).trans hload
  rw [outcome_run_of_home _ hhome, outcome_run_of_home _ hhome, if_pos hdirectory, if_pos hdirectory,
    directory, directory, Job.outcome_bind, Job.outcome_bind, scan.outcome_rules_told hreads hplace]
  rfl

/-- A scan of a directory does not depend on how its path spells the directory. All that it does is told by the
place that the path leads to. -/
theorem outcome_run_of_resolve (scan : Scan) {source other : String} {p q : Path}
    (hhome : w.files.expandHome (Path.parse source) = .ok p) (hdirectory : w.files.isDirectory p = true)
    (hhome' : w.files.expandHome (Path.parse other) = .ok q) (hdirectory' : w.files.isDirectory q = true)
    (hsame : w.files.resolve q = w.files.resolve p) :
    (scan.run other).outcome w = (scan.run source).outcome w := by
  have hthere := FileSystem.contains_of_isDirectory hdirectory
  have hthere' := FileSystem.contains_of_isDirectory hdirectory'
  rw [outcome_run_of_home _ hhome, outcome_run_of_home _ hhome', hthere, hthere', hsame]
  simp only [Bool.true_eq_false, if_false, hdirectory, hdirectory', if_true]

end Scan

end ClassDiagram
