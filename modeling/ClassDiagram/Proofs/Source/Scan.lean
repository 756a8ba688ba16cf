import ClassDiagram.Source.Scan
import ClassDiagram.Proofs.Files.Walk
import ClassDiagram.Proofs.Workspace.Job

namespace ClassDiagram.Scan

/-- A scan of a directory reads the rules that hold for it and lists the sources of its tree, as the tree is
after the records of reading them. -/
theorem outcome_run_directory (scan : Scan) {source : String} {p : Path} {w w' : Workspace}
    {rules : List IgnoreRule} {tree : FileTree} (hhome : w.files.expandHome (Path.parse source) = .ok p)
    (hdirectory : w.files.isDirectory p = true)
    (hrules : (scan.rules (w.files.resolve p)).outcome w = (.ok rules, w'))
    (htree : w'.files.tree.get? (w.files.resolve p) = some tree) :
    ((scan.run source).outcome w).1 =
      .ok ((tree.sources (scan.suffixes.map Text.lower) rules).map fun place =>
        Path.absolute (w.files.resolve p ++ place)) := by
  have hcontains : w.files.contains p = true := by
    rw [FileSystem.contains]
    cases hlookup : w.files.lookup? p with
    | none => simp [FileSystem.isDirectory, hlookup] at hdirectory
    | some found => rfl
  have hread :
      Job.outcome (Job.reading fun files => files.expandHome (Path.parse source)) w = (.ok p, w) := by
    rw [Job.outcome_reading, hhome]
  rw [run, Job.outcome_bind_of_ok hread, Job.outcome_bind_of_ok (Job.outcome_get w)]
  simp only [hcontains, hdirectory, Bool.not_true, Bool.false_eq_true, if_false, if_true]
  rw [directory, Job.outcome_bind_of_ok hrules, Job.outcome_bind_of_ok (Job.outcome_get w')]
  simp only [htree, Option.getD_some]
  rw [Job.outcome_bind_of_ok (Job.outcome_note _ _ _ _), Job.outcome_pure]

/-- A walk that passes over directories selects what a filter of all files selects: each file once, in the order
of walks, and the same whatever the order of the listings. A scan of a directory gives these files for the rules
that it reads. The filter asks about each file on its own and about the directories above it, which is how one
would say what is left out. -/
theorem sources_eq_selected (scan : Scan) (rules : List IgnoreRule) (tree : FileTree)
    (hdistinct : tree.NamesDistinct) :
    (∀ place, place ∈ tree.sources (scan.suffixes.map Text.lower) rules ↔
        tree.Selected (scan.suffixes.map Text.lower) rules place) ∧
      (tree.sources (scan.suffixes.map Text.lower) rules).Nodup ∧
      (tree.sources (scan.suffixes.map Text.lower) rules).Pairwise FileTree.WalksBefore ∧
      (∀ other, tree.Relisted other → other.sources (scan.suffixes.map Text.lower) rules =
        tree.sources (scan.suffixes.map Text.lower) rules) ∧
      ∀ (source : String) (p : Path) (w w' : Workspace), w.files.expandHome (Path.parse source) = .ok p →
        w.files.isDirectory p = true → (scan.rules (w.files.resolve p)).outcome w = (.ok rules, w') →
        w'.files.tree.get? (w.files.resolve p) = some tree →
        ((scan.run source).outcome w).1 =
          .ok ((tree.sources (scan.suffixes.map Text.lower) rules).map fun place =>
            Path.absolute (w.files.resolve p ++ place)) := by
  refine ⟨FileTree.mem_sources hdistinct, FileTree.sources_nodup _ _ hdistinct,
    FileTree.sources_pairwise _ _ hdistinct, ?_, ?_⟩
  · intro other hlisted
    exact hlisted.sources_eq hdistinct _ _
  · intro source p w w' hhome hdirectory hrules htree
    exact scan.outcome_run_directory hhome hdirectory hrules htree

/-- A directory with an ignore file that names the directory `old`. -/
def crate : FileTree :=
  .directory [("b.rs", .file []), ("target", .directory [("t.rs", .file [])]), ("a.RS", .file []),
    (".gitignore", .file [0x6f, 0x6c, 0x64, 0x0a]),
    ("src", .directory [("old", .directory [("x.rs", .file [])]), ("lib.rs", .file [])])]

/-- A scan that leaves out one more file. -/
def crateScan : Scan := { excludePaths := ["/b.rs"], readsSettings := false }

/-- The rules of the ignore file and of the scan. -/
def crateRules : List IgnoreRule :=
  [⟨"old", false, false, false, false⟩, ⟨"b.rs", false, true, false, false⟩]

/-- The files from which the directory is seen. -/
def crateWorkspace : Workspace := { files := { tree := .directory [("crate", crate)] } }

theorem sources_of_crate :
    crate.NamesDistinct ∧
      (crateScan.rules ["crate"]).outcome crateWorkspace = (.ok crateRules, crateWorkspace) ∧
      ((crateScan.run "crate/").outcome crateWorkspace).1 =
        .ok ((crate.sources [".rs"] crateRules).map fun place => Path.absolute ("crate" :: place)) ∧
      ["a.RS"] ∈ crate.sources [".rs"] crateRules ∧
      ["src", "old", "x.rs"] ∉ crate.sources [".rs"] crateRules := by
  have hdistinct : crate.NamesDistinct := by
    refine .directory _ (by decide) ?_
    simp only [List.forall_mem_cons, List.not_mem_nil, false_implies, implies_true, and_true]
    refine ⟨.file _, .directory _ (by decide) ?_, .file _, .file _, .directory _ (by decide) ?_⟩
    · simpa using .file _
    · simp only [List.forall_mem_cons, List.not_mem_nil, false_implies, implies_true, and_true]
      exact ⟨.directory _ (by decide) (by simpa using .file _), .file _⟩
  have hsuffixes : crateScan.suffixes.map Text.lower = [".rs"] := by decide +kernel
  have hrules : (crateScan.rules ["crate"]).outcome crateWorkspace = (.ok crateRules, crateWorkspace) := by
    rfl
  obtain ⟨hmem, _, _, _, hrun⟩ := sources_eq_selected crateScan crateRules crate hdistinct
  rw [hsuffixes] at hmem hrun
  refine ⟨hdistinct, hrules, hrun "crate/" (Path.parse "crate") _ _ rfl (by decide) hrules rfl, ?_, ?_⟩
  · rw [hmem]
    refine ⟨by simp, ⟨[], rfl⟩, by decide +kernel, by decide +kernel, ?_⟩
    intro directory hne hprefix hproper
    have hreached := FileTree.isReached_singleton crateRules [] "a.RS"
    exact FileTree.isEntered_iff.mp (hreached directory hne hprefix hproper)
  · rw [hmem]
    intro hselected
    have hignored := (hselected.notBelowIgnored ["src", "old"] (by simp) ⟨["x.rs"], rfl⟩ (by simp)).2
    exact absurd hignored (by decide +kernel)

end ClassDiagram.Scan
