import ClassDiagram.Proofs.Source.Root

namespace ClassDiagram.Pipeline

/-- The entities of sources that are parsed one after the other and built by one builder. -/
def parseInTurn (includeEnums : Bool) (sources : List Path) : Job (List Entity) := do
  let found ← (sources.mapM entitiesOf).run' ({ includeEnums } : Builder)
  return found.flatten

variable {w : Workspace} {source : String} {p : Path} {settings : Settings}

/-- A pipeline that is given a scan with the outcome of its own one parses and builds the same sources in the
same order, with the same reports. -/
theorem outcome_collectWith_scan (pipeline : Pipeline) {scan : Scan}
    (hscan : ((pipeline.scanFor settings).run source).outcome w = (scan.run source).outcome w) :
    (pipeline.collectWith settings source).outcome w =
      (scan.run source >>= parseInTurn settings.includeEnums).outcome w :=
  Job.outcome_bind_congr hscan rfl

/-- A scan that reads the settings of a directory itself finds the files that a pipeline without settings of its
own parses there, in the same order: both fail alike where the ignore file cannot be read, and a pipeline does
the same, step for step, whether it makes its scan from the settings or is given one that reads them. Exclude
patterns given to a scan stand before those that it reads, and only add to what is left out. All this holds of
every spelling of the path, because the scan looks for settings at the place that it walks and the pipeline at
the path it was given, and the two are one directory. -/
theorem parses_what_scan_finds (w : Workspace) (source : String) {p : Path} {settings : Settings}
    (hproper : w.files.IsProper) (hhome : w.files.expandHome (Path.parse source) = .ok p)
    (hdirectory : w.files.isDirectory p = true)
    (hload : Settings.load w.files (Path.parse source) = .ok settings) :
    (Scan.run {} source).outcome w = ((scanFor {} settings).run source).outcome w ∧
      (collect {} source).outcome w = (Scan.run {} source >>= parseInTurn settings.includeEnums).outcome w ∧
      (∀ renderer, (run { renderer } source).outcome w = (run { scan := some {}, renderer } source).outcome w) ∧
      (∀ (patterns suffixes : List String),
        (Scan.run { suffixes, excludePaths := patterns } source).outcome w =
          (Scan.run { suffixes, excludePaths := patterns ++ settings.excludePaths, readsSettings := false }
            source).outcome w) ∧
      ∀ (other : String) (q : Path), w.files.expandHome (Path.parse other) = .ok q →
        w.files.isDirectory q = true → w.files.resolve q = w.files.resolve p →
        (Scan.run {} other).outcome w = ((scanFor {} settings).run source).outcome w := by
  have htold (scan : Scan) (hreads : scan.readsSettings = true) :=
    scan.outcome_run_told hreads hproper hhome hdirectory hload
  have hscan : ((scanFor {} settings).run source).outcome w = (Scan.run {} source).outcome w := (htold {} rfl).symm
  have hsettings (scan : Option Scan) (renderer : Option Renderer) :
      (settingsFor { scan, renderer } source).outcome w = (.ok settings, w) := by
    have hread := Job.outcome_reading (Settings.load · (Path.parse source)) w
    rwa [hload] at hread
  refine ⟨hscan.symm, ?_, fun renderer => ?_, fun patterns suffixes => htold _ rfl, ?_⟩
  · rw [collect, Job.outcome_bind_of_ok (hsettings none none)]
    exact outcome_collectWith_scan {} hscan
  · have hmade : (collectWith { renderer } settings source).outcome w =
        (Scan.run {} source >>= parseInTurn settings.includeEnums).outcome w :=
      outcome_collectWith_scan { renderer } hscan
    have hgiven : (collectWith { scan := some {}, renderer } settings source).outcome w =
        (Scan.run {} source >>= parseInTurn settings.includeEnums).outcome w :=
      outcome_collectWith_scan { scan := some {}, renderer } rfl
    rw [run, run, Job.outcome_bind_of_ok (hsettings none renderer),
      Job.outcome_bind_of_ok (hsettings (some {}) renderer)]
    exact Job.outcome_bind_congr (hmade.trans hgiven.symm) rfl
  · intro other q hhome' hdirectory' hsame
    rw [hscan]
    exact Scan.outcome_run_of_resolve {} hhome hdirectory hhome' hdirectory' hsame

/-- A directory whose settings leave out the directories `old` in it. -/
def settledCrate : FileTree :=
  .directory [(".ruml.yml", .file (Text.encodeUtf8 "exclude_paths: [old/]\n")),
    ("src", .directory [("x.rs", .file []), ("old", .directory [("y.rs", .file [])])])]

/-- The files from which the directory is seen. -/
def settledWorkspace : Workspace := { files := { tree := .directory [("crate", settledCrate)] } }

/-- The settings of the directory. -/
def settledSettings : Settings := { root := ["crate"], excludePaths := ["old/"] }

theorem settledWorkspace_isProper : settledWorkspace.files.IsProper :=
  FileSystem.isProper_of_listsAll rfl List.not_mem_nil

/-- The directory is spelled with a dot at its end, and the settings leave out the directory `old` below it.
Both ways find the one source that remains. -/
theorem parses_settledCrate :
    settledWorkspace.files.IsProper ∧
      settledWorkspace.files.expandHome (Path.parse "crate/.") = .ok (Path.parse "crate") ∧
      settledWorkspace.files.isDirectory (Path.parse "crate") = true ∧
      Settings.load settledWorkspace.files (Path.parse "crate/.") = .ok settledSettings ∧
      ((Scan.run {} "crate/.").outcome settledWorkspace).1.toOption =
        some [Path.absolute ["crate", "src", "x.rs"]] ∧
      (Scan.run {} "crate/.").outcome settledWorkspace =
        ((scanFor {} settledSettings).run "crate/.").outcome settledWorkspace := by
  have hhome : settledWorkspace.files.expandHome (Path.parse "crate/.") = .ok (Path.parse "crate") := rfl
  have hdirectory : settledWorkspace.files.isDirectory (Path.parse "crate") = true := by decide +kernel
  have hload : Settings.load settledWorkspace.files (Path.parse "crate/.") = .ok settledSettings :=
    eq_ok_of_toOption (by decide +kernel)
  obtain ⟨hsame, _⟩ :=
    parses_what_scan_finds settledWorkspace "crate/." settledWorkspace_isProper hhome hdirectory hload
  exact ⟨settledWorkspace_isProper, hhome, hdirectory, hload, by decide +kernel, hsame⟩

end ClassDiagram.Pipeline
