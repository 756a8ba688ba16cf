import ClassDiagram.Proofs.Files.Apart
import ClassDiagram.Proofs.Files.Walk
import ClassDiagram.Proofs.Pipeline.Failures

namespace ClassDiagram.Pipeline

/-- The sources that a path leads to, as the files stand. -/
def sourcesFor (files : FileSystem) (excludePaths : List String) (source : String) :
    Except Failure (List Path) := do
  let p ← files.expandHome (Path.parse source)
  if files.contains p = false then .error (.inputMissing source)
  else if files.isDirectory p = true then
    let own ← IgnoreRule.load files (ignoreFile (files.resolve p))
    return sourcesBelow files (files.resolve p) (own ++ IgnoreRule.ofPatterns excludePaths)
  else return [p]

/-- The diagram of a path, as the files stand. -/
def diagramOf (settings : Settings) (source : String) (files : FileSystem) (plugins : List Plugin) :
    Except Failure String := do
  let sources ← sourcesFor files settings.excludePaths source
  let units ← sources.mapM (SourceUnit.readFrom files)
  let renderer ← (rendererNamed plugins settings).mapError .renderer
  return renderer.render (entitiesOfUnits settings.includeEnums units)

variable {files other : FileSystem} {spared : Option (List String)} {source : String} {excludePaths : List String}
  {p q : Path} {sources : List Path}

/-- What a run finds, told as a function of the files alone. The relation is what the stages of a run give; the
function is what two sets of files can be compared by. -/
theorem Finds.sourcesFor_eq (hhome : files.expandHome (Path.parse source) = .ok p)
    (hfinds : Finds files excludePaths p sources) : sourcesFor files excludePaths source = .ok sources := by
  rw [sourcesFor, hhome]
  cases hfinds with
  | file hthere hfile => simp [bind, Except.bind, hthere, hfile, pure, Except.pure]
  | directory hdirectory hrules =>
    have hthere := FileSystem.contains_of_isDirectory hdirectory
    simp [bind, Except.bind, hthere, hdirectory, hrules, pure, Except.pure]

/-- Sources that the files have for a path can be found by a run. -/
theorem exists_finds_of_sourcesFor (hfound : sourcesFor files excludePaths source = .ok sources) :
    ∃ p, files.expandHome (Path.parse source) = .ok p ∧ Finds files excludePaths p sources := by
  rw [sourcesFor] at hfound
  cases hhome : files.expandHome (Path.parse source) with
  | error failure => simp [hhome, bind, Except.bind] at hfound
  | ok p =>
    simp only [hhome, bind, Except.bind] at hfound
    refine ⟨p, rfl, ?_⟩
    by_cases hmissing : files.contains p = false
    · simp [hmissing] at hfound
    · rw [if_neg hmissing] at hfound
      by_cases hdirectory : files.isDirectory p = true
      · rw [if_pos hdirectory] at hfound
        cases hrules : IgnoreRule.load files (ignoreFile (files.resolve p)) with
        | error failure => simp [hrules] at hfound
        | ok own =>
          rw [hrules] at hfound
          cases hfound
          exact .directory hdirectory hrules
      · rw [if_neg hdirectory] at hfound
        cases hfound
        exact .file (by simpa using hmissing) (by simpa using hdirectory)

theorem get?_of_isDirectory (hdirectory : files.isDirectory p = true) :
    ∃ entries, files.tree.get? (files.resolve p) = some (.directory entries) := by
  rw [FileSystem.isDirectory, FileSystem.lookup?, FileTree.lookup?] at hdirectory
  cases hlocate : files.tree.locate files.current p with
  | error fault => simp [hlocate] at hdirectory
  | ok place =>
    rw [hlocate] at hdirectory
    rw [FileSystem.resolve, ← FileTree.eq_resolve_of_locate hlocate]
    cases hget : files.tree.get? place with
    | none => simp [hget] at hdirectory
    | some found =>
      cases found with
      | file bytes => simp [hget, FileTree.isDirectory] at hdirectory
      | directory entries => exact ⟨entries, rfl⟩

/-- A source that is a directory has its settings in itself, and not in the directory that it is in. -/
theorem directoryFor_of_isDirectory (hhome : files.expandHome (Path.parse source) = .ok p)
    (hdirectory : files.isDirectory p = true) :
    Settings.directoryFor files (Path.parse source) = .ok (files.resolve p) := by
  simp [Settings.directoryFor, hhome, hdirectory, bind, Except.bind, pure, Except.pure]

/-- The walk of the source's directory passes nowhere through a place apart from it, so it returns the same
sources in files that differ there. -/
theorem sourcesBelow_eq (halike : files.AlikeExcept spared other) (hproper : files.IsProper)
    {root : List String} (hroot : ∃ entries, files.tree.get? root = some (.directory entries))
    (hapart : ∀ below ≠ [], spared ≠ some (root ++ below)) (rules : List IgnoreRule) :
    sourcesBelow other root rules = sourcesBelow files root rules := by
  obtain ⟨entries, hget⟩ := hroot
  obtain ⟨entries', hget'⟩ := (halike.tree.directories root).mp ⟨entries, hget⟩
  have hfiles (below : List String) :
      (FileTree.directory entries).IsFileAt below ↔ (FileTree.directory entries').IsFileAt below := by
    by_cases hbelow : below = []
    · subst hbelow
      simp [FileTree.IsFileAt, FileTree.get?]
    · have hsame := halike.tree.elsewhere (root ++ below) (hapart below hbelow)
      rw [FileTree.get?_append, FileTree.get?_append, hget, hget', Option.bind_some, Option.bind_some] at hsame
      rw [FileTree.IsFileAt, FileTree.IsFileAt]
      rcases hthere : (FileTree.directory entries).get? below with _ | _ | _ <;>
        rcases hthere' : (FileTree.directory entries').get? below with _ | _ | _ <;>
        simp_all [FileTree.content]
  rw [sourcesBelow, sourcesBelow, hget, hget', Option.getD_some, Option.getD_some,
    FileTree.sources_eq_of_isFileAt_iff (hproper.distinct.of_get? hget) (halike.distinct.of_get? hget') hfiles]

/-- Files that differ only apart from the source have the same sources for it. The rules and the settings come
from its directory, too. -/
theorem sourcesFor_eq (halike : files.AlikeExcept spared other) (hproper : files.IsProper)
    (hapart : ∀ place ∈ spared, files.IsApart (Path.parse source) place) :
    sourcesFor other excludePaths source = sourcesFor files excludePaths source := by
  rw [sourcesFor, sourcesFor, halike.expandHome_eq]
  cases hhome : files.expandHome (Path.parse source) with
  | error failure => rfl
  | ok p =>
    have hp : spared ≠ some (files.resolve p) := fun hsame => (hapart _ hsame).notSource p hhome rfl
    simp only [bind, Except.bind, halike.contains_eq hp, halike.isDirectory_eq hp, halike.resolve_eq]
    by_cases hdirectory : files.isDirectory p = true
    · have hroot := directoryFor_of_isDirectory hhome hdirectory
      have hrules := halike.rules_eq hproper hapart hroot
      have hwalk := sourcesBelow_eq halike hproper (get?_of_isDirectory hdirectory)
        fun below hbelow hsame => (hapart _ hsame).notInside _ hroot below hbelow rfl
      rw [ignoreFile, hrules]
      simp only [hwalk]
    · simp only [hdirectory, Bool.false_eq_true, if_false]

/-- Every source that is found can be read, and stands at no place apart from the source. So nothing that is
written elsewhere changes what is read. -/
theorem exists_read_of_mem (hproper : files.IsProper)
    (hfound : sourcesFor files excludePaths source = .ok sources) (hmem : q ∈ sources) :
    (∃ bytes, files.tree.read files.current q = .ok bytes) ∧
      ∀ place, files.IsApart (Path.parse source) place → files.resolve q ≠ place := by
  obtain ⟨p, hhome, hfinds⟩ := exists_finds_of_sourcesFor hfound
  cases hfinds with
  | file hthere hfile =>
    obtain rfl := List.mem_singleton.mp hmem
    refine ⟨?_, fun place hapart => hapart.notSource _ hhome⟩
    rw [FileSystem.contains, FileSystem.lookup?, FileTree.lookup?] at hthere
    rw [FileSystem.isDirectory, FileSystem.lookup?, FileTree.lookup?] at hfile
    cases hlocate : files.tree.locate files.current q with
    | error fault => simp [hlocate] at hthere
    | ok place =>
      rw [FileTree.read_of_locate hlocate]
      rcases hget : files.tree.get? place with _ | _ | _ <;> simp_all [FileTree.isDirectory]
  | directory hdirectory hrules =>
    obtain ⟨below, hbelow, rfl⟩ := List.mem_map.mp hmem
    obtain ⟨entries, hget⟩ := get?_of_isDirectory hdirectory
    rw [hget, Option.getD_some, FileTree.mem_sources (hproper.distinct.of_get? hget)] at hbelow
    obtain ⟨bytes, hbytes⟩ := hbelow.isFile
    have hplace : files.tree.get? (files.resolve p ++ below) = some (.file bytes) := by
      rw [FileTree.get?_append, hget, Option.bind_some, hbytes]
    have hthere : (files.tree.get? (files.resolve p ++ below)).isSome = true := by rw [hplace]; rfl
    have hplain := hproper.noDots _ hthere
    refine ⟨⟨bytes, ?_⟩, fun place hapart => ?_⟩
    · rw [FileTree.read_of_locate (FileTree.locate_absolute hthere hplain _), hplace]
    · rw [files.resolve_absolute hplain]
      exact hapart.notInside _ (directoryFor_of_isDirectory hhome hdirectory) below hbelow.isBelow

variable {w : Workspace} {settings : Settings}

/-- A source is read with the same result before and after any records that change nothing at its place. -/
theorem Gives.eq_readFrom {result : Except Failure SourceUnit}
    (halike : ∀ records, files.AlikeExcept spared (w.noteAll records).files)
    (hread : ∃ bytes, files.tree.read files.current q = .ok bytes) (hq : spared ≠ some (files.resolve q))
    (hgives : Gives w q result) : result = SourceUnit.readFrom files q := by
  have hsame (records : List Record) :
      SourceUnit.readFrom (w.noteAll records).files q = SourceUnit.readFrom files q := by
    obtain ⟨bytes, hbytes⟩ := hread
    apply SourceUnit.readFrom_congr
    rw [(halike records).current, hbytes, (halike records).tree.read_eq_ok hq hbytes]
  cases hgives with
  | atStart => exact hsame []
  | afterRecords hlog records => exact hsame records

/-- Sources that are each read as the files had them at first are read so together. The first that fails ends
the run in both. -/
theorem GivesAll.eq_mapM {result : Except Failure (List SourceUnit)} (hgives : GivesAll w sources result)
    (hsame : ∀ q ∈ sources, ∀ result, Gives w q result → result = SourceUnit.readFrom files q) :
    result = sources.mapM (SourceUnit.readFrom files) := by
  induction hgives with
  | done => rfl
  | stop hfails =>
    rw [List.mapM_cons, ← hsame _ List.mem_cons_self _ hfails]
    rfl
  | @next p rest unit result hunit hrest ih =>
    rw [List.forall_mem_cons] at hsame
    rw [List.mapM_cons, ← hsame.1 _ hunit, ← ih hsame.2]
    cases result <;> rfl

section Apart

variable (hproper : files.IsProper) (halike : ∀ records, files.AlikeExcept spared (w.noteAll records).files)
  (hapart : ∀ place ∈ spared, files.IsApart (Path.parse source) place)

include hproper halike hapart

/-- Once the sources are found, a run that tells nothing near them reads what stood there before it. The right
side goes through the stages in the order of a run: sources, renderer, diagram. -/
theorem diagramOf_eq_bind {result : Except Failure (List SourceUnit)}
    (hhome : w.files.expandHome (Path.parse source) = .ok p)
    (hfinds : Finds w.files settings.excludePaths p sources) (hgives : GivesAll w sources result) :
    diagramOf settings source files w.plugins = result.bind fun units =>
      ((rendererNamed w.plugins settings).mapError .renderer).map fun renderer =>
        renderer.render (entitiesOfUnits settings.includeEnums units) := by
  have hsources : sourcesFor files settings.excludePaths source = .ok sources :=
    (sourcesFor_eq (halike []) hproper hapart).symm.trans (hfinds.sourcesFor_eq hhome)
  have hread : result = sources.mapM (SourceUnit.readFrom files) := by
    refine hgives.eq_mapM fun q hmem result hq => ?_
    obtain ⟨hbytes, hplace⟩ := exists_read_of_mem hproper hsources hmem
    exact hq.eq_readFrom halike hbytes fun hsame => hplace _ (hapart _ hsame) rfl
  rw [diagramOf, hsources, hread]
  rfl

/-- A run that tells nothing near the source ends as the files say that stood before it. The records of a run
and the log that they reach have no part in its result, which is a pure function of settings, files and plugins. -/
theorem Ends.eq_diagramOf {result : Except Failure String} (hends : Ends (some settings) source w result) :
    result = diagramOf settings source files w.plugins := by
  have hfound : sourcesFor w.files settings.excludePaths source = sourcesFor files settings.excludePaths source :=
    sourcesFor_eq (halike []) hproper hapart
  cases hends with
  | settings hchosen => cases hchosen
  | home hchosen hhome =>
    cases hchosen
    rw [diagramOf, ← hfound, sourcesFor, hhome]
    rfl
  | missing hchosen hhome hmissing =>
    cases hchosen
    rw [diagramOf, ← hfound, sourcesFor, hhome]
    simp [bind, Except.bind, hmissing]
  | ignoreFile hchosen hhome hdirectory hrules =>
    cases hchosen
    have hthere := FileSystem.contains_of_isDirectory hdirectory
    rw [diagramOf, ← hfound, sourcesFor, hhome]
    simp [bind, Except.bind, hthere, hdirectory, hrules]
  | source hchosen hhome hfinds hfails =>
    cases hchosen
    exact (diagramOf_eq_bind hproper halike hapart hhome hfinds hfails).symm
  | renderer hchosen hhome hfinds hgives hrenderer =>
    cases hchosen
    rw [diagramOf_eq_bind hproper halike hapart hhome hfinds hgives, hrenderer]
    rfl
  | drawn hchosen hhome hfinds hgives hrenderer =>
    cases hchosen
    rw [diagramOf_eq_bind hproper halike hapart hhome hfinds hgives, hrenderer]
    rfl

end Apart

end ClassDiagram.Pipeline
