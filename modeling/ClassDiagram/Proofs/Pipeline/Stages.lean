import ClassDiagram.Pipeline
import ClassDiagram.Proofs.Workspace.Notes

namespace ClassDiagram

/-- What the file at a path gives: its declarations, or why there are none. -/
def SourceUnit.readFrom (files : FileSystem) (p : Path) : Except Failure SourceUnit := do
  let text ← SourceUnit.readText files p
  (SourceUnit.parse (some p.text) text).mapError .source

theorem SourceUnit.readFrom_congr {files files' : FileSystem} {p : Path}
    (hsame : files.tree.read files.current p = files'.tree.read files'.current p) :
    readFrom files p = readFrom files' p := by
  simp only [readFrom, readText, FileSystem.readBytes, hsame]

namespace Pipeline

/-- The settings of a run: those that are given, or those that hold for the source. -/
def chosen (given : Option Settings) (source : String) (files : FileSystem) : Except Failure Settings :=
  match given with
  | some settings => .ok settings
  | none => Settings.load files (Path.parse source)

/-- The path of the ignore file of a directory. -/
def ignoreFile (root : List String) : Path :=
  (Path.absolute root).child IgnoreRule.fileName

/-- The sources below a directory that the rules leave, in the order of a walk. -/
def sourcesBelow (files : FileSystem) (root : List String) (rules : List IgnoreRule) : List Path :=
  (((files.tree.get? root).getD (.directory [])).sources (sourceSuffixes.map Text.lower) rules).map
    fun names => Path.absolute (root ++ names)

/-- The sources that a path leads to: the file itself, or those below the directory that are left by its
ignore file and the exclude patterns. -/
inductive Finds (files : FileSystem) (excludePaths : List String) (p : Path) : List Path → Prop
  | file (hthere : files.contains p = true) (hfile : files.isDirectory p = false) :
      Finds files excludePaths p [p]
  | directory {own : List IgnoreRule} (hdirectory : files.isDirectory p = true)
      (hrules : IgnoreRule.load files (ignoreFile (files.resolve p)) = .ok own) :
      Finds files excludePaths p
        (sourcesBelow files (files.resolve p) (own ++ IgnoreRule.ofPatterns excludePaths))

/-- What a source gives when its turn comes: what its file gave at the start, unless records of the run have
gone to a log file since. -/
inductive Gives (w : Workspace) (p : Path) : Except Failure SourceUnit → Prop
  | atStart : Gives w p (SourceUnit.readFrom w.files p)
  | afterRecords {place : List String} (hlog : w.log.file = some place) (records : List Record) :
      Gives w p (SourceUnit.readFrom (w.noteAll records).files p)

/-- What sources give one after the other, up to the first that fails. -/
inductive GivesAll (w : Workspace) : List Path → Except Failure (List SourceUnit) → Prop
  | done : GivesAll w [] (.ok [])
  | stop {p : Path} {rest : List Path} {failure : Failure} (hfails : Gives w p (.error failure)) :
      GivesAll w (p :: rest) (.error failure)
  | next {p : Path} {rest : List Path} {unit : SourceUnit} {result : Except Failure (List SourceUnit)}
      (hunit : Gives w p (.ok unit)) (hrest : GivesAll w rest result) :
      GivesAll w (p :: rest) (result.map (unit :: ·))

/-- The renderer that settings name. -/
def rendererNamed (plugins : List Plugin) (settings : Settings) : Except RendererError Renderer :=
  Renderer.ofName plugins (some settings.outputType)
    [(Renderer.visibilityOption, .flag settings.visibilityMarkers)]

/-- The entities of units, each built on its own. -/
def entitiesOfUnits (includeEnums : Bool) (units : List SourceUnit) : List Entity :=
  units.flatMap fun unit => (({ includeEnums } : Builder).build unit).1

/-- How a run ends: with the failure of the first stage that fails, or with a diagram of the entities of all
sources. -/
inductive Ends (given : Option Settings) (source : String) (w : Workspace) : Except Failure String → Prop
  | settings {failure : Failure} (hchosen : chosen given source w.files = .error failure) :
      Ends given source w (.error failure)
  | home {settings : Settings} {failure : Failure} (hchosen : chosen given source w.files = .ok settings)
      (hhome : w.files.expandHome (Path.parse source) = .error failure) : Ends given source w (.error failure)
  | missing {settings : Settings} {p : Path} (hchosen : chosen given source w.files = .ok settings)
      (hhome : w.files.expandHome (Path.parse source) = .ok p) (hmissing : w.files.contains p = false) :
      Ends given source w (.error (.inputMissing source))
  | ignoreFile {settings : Settings} {p : Path} {failure : Failure}
      (hchosen : chosen given source w.files = .ok settings)
      (hhome : w.files.expandHome (Path.parse source) = .ok p) (hdirectory : w.files.isDirectory p = true)
      (hrules : IgnoreRule.load w.files (Pipeline.ignoreFile (w.files.resolve p)) = .error failure) :
      Ends given source w (.error failure)
  | source {settings : Settings} {p : Path} {sources : List Path} {failure : Failure}
      (hchosen : chosen given source w.files = .ok settings)
      (hhome : w.files.expandHome (Path.parse source) = .ok p)
      (hfinds : Finds w.files settings.excludePaths p sources)
      (hfails : GivesAll w sources (.error failure)) : Ends given source w (.error failure)
  | renderer {settings : Settings} {p : Path} {sources : List Path} {units : List SourceUnit}
      {error : RendererError} (hchosen : chosen given source w.files = .ok settings)
      (hhome : w.files.expandHome (Path.parse source) = .ok p)
      (hfinds : Finds w.files settings.excludePaths p sources) (hunits : GivesAll w sources (.ok units))
      (hrenderer : rendererNamed w.plugins settings = .error error) :
      Ends given source w (.error (.renderer error))
  | drawn {settings : Settings} {p : Path} {sources : List Path} {units : List SourceUnit}
      {renderer : Renderer} (hchosen : chosen given source w.files = .ok settings)
      (hhome : w.files.expandHome (Path.parse source) = .ok p)
      (hfinds : Finds w.files settings.excludePaths p sources) (hunits : GivesAll w sources (.ok units))
      (hrenderer : rendererNamed w.plugins settings = .ok renderer) :
      Ends given source w (.ok (renderer.render (entitiesOfUnits settings.includeEnums units)))

/-- What a source gives after records of the run is one of the results that the relation allows for it. -/
theorem gives_of_noteAll (w : Workspace) (records : List Record) (p : Path) :
    Gives w p (SourceUnit.readFrom (w.noteAll records).files p) := by
  cases hlog : w.log.file with
  | none =>
    rw [Workspace.noteAll_files_of_none hlog]
    exact .atStart
  | some place => exact .afterRecords hlog records

/-- Records before a step count as records of the run, so the relation can be told from the start of the run. -/
theorem Gives.of_noteAll {w : Workspace} {records : List Record} {p : Path} {result : Except Failure SourceUnit}
    (hgives : Gives (w.noteAll records) p result) : Gives w p result := by
  cases hgives with
  | atStart => exact gives_of_noteAll w records p
  | afterRecords hlog more =>
    rw [← Workspace.noteAll_append]
    exact gives_of_noteAll w (records ++ more) p

/-- The same of sources one after the other; each may leave records for the next. -/
theorem GivesAll.of_noteAll {w : Workspace} {records : List Record} {sources : List Path}
    {result : Except Failure (List SourceUnit)} (hgives : GivesAll (w.noteAll records) sources result) :
    GivesAll w sources result := by
  induction hgives with
  | done => exact .done
  | stop hfails => exact .stop hfails.of_noteAll
  | next hunit _ ih => exact .next hunit.of_noteAll ih

end Pipeline

namespace Scan

open Pipeline (Finds)

/-- The rules of a directory are those of its ignore file and then the exclude patterns of the scan. Looking
them up leaves no record. -/
theorem outcome_rules {scan : Scan} (hreads : scan.readsSettings = false) (root : List String) (w : Workspace) :
    (scan.rules root).outcome w =
      ((IgnoreRule.load w.files (Pipeline.ignoreFile root)).map
        (· ++ IgnoreRule.ofPatterns scan.excludePaths), w) := by
  rw [rules, Job.outcome_bind, Job.outcome_reading, ← Pipeline.ignoreFile]
  cases IgnoreRule.load w.files (Pipeline.ignoreFile root) with
  | error failure => rfl
  | ok own =>
    simp only [hreads, Bool.false_eq_true, if_false, pure_bind, List.append_nil]
    rfl

/-- A scan goes by whether its path leads anywhere, and to what: nothing is a missing input, a directory is
walked, and a file is the only source, whatever its suffix. -/
theorem outcome_run_of_home (scan : Scan) {source : String} {p : Path} {w : Workspace}
    (hhome : w.files.expandHome (Path.parse source) = .ok p) :
    (scan.run source).outcome w =
      if w.files.contains p = false then (.error (.inputMissing source), w)
      else if w.files.isDirectory p = true then (scan.directory (w.files.resolve p)).outcome w
      else (.ok [p], w) := by
  have hread := Job.outcome_reading (·.expandHome (Path.parse source)) w
  rw [hhome] at hread
  rw [run, Job.outcome_bind_of_ok hread, Job.outcome_bind_of_ok (Job.outcome_get w)]
  cases hthere : w.files.contains p with
  | false => simp [hthere]
  | true => cases hdirectory : w.files.isDirectory p <;> simp [hthere, hdirectory]

/-- The record of what a scan found below a directory. -/
def discovered (root : List String) (found : List Path) : Record where
  logger := loggerName part
  level := .debug
  message := "Discovered " ++ toString found.length ++ " source files under " ++ (Path.absolute root).text

/-- A scan of a directory gives the sources that its ignore file and the exclude patterns leave, and one record
of how many there are. -/
theorem outcome_directory {scan : Scan} (hreads : scan.readsSettings = false)
    (hsuffixes : scan.suffixes = sourceSuffixes) (root : List String) (w : Workspace) :
    (scan.directory root).outcome w =
      match IgnoreRule.load w.files (Pipeline.ignoreFile root) with
      | .error failure => (.error failure, w)
      | .ok own =>
        let found := Pipeline.sourcesBelow w.files root (own ++ IgnoreRule.ofPatterns scan.excludePaths)
        (.ok found, w.emit (discovered root found)) := by
  have hrules := outcome_rules hreads root w
  rw [directory]
  cases hload : IgnoreRule.load w.files (Pipeline.ignoreFile root) with
  | error failure =>
    rw [hload] at hrules
    exact Job.outcome_bind_of_error hrules _
  | ok own =>
    rw [hload] at hrules
    rw [Job.outcome_bind_of_ok hrules, Job.outcome_bind_of_ok (Job.outcome_get w), hsuffixes]
    exact Job.outcome_bind_of_ok (Job.outcome_note _ _ _ _) _

/-- All that a scan for a path can do when it takes its exclude patterns as they are given. Later proofs go
through these cases and not through the steps of a scan. -/
theorem outcome_run_cases {scan : Scan} (hreads : scan.readsSettings = false)
    (hsuffixes : scan.suffixes = sourceSuffixes) (source : String) (w : Workspace) :
    (∃ failure, w.files.expandHome (Path.parse source) = .error failure ∧
      (scan.run source).outcome w = (.error failure, w)) ∨
    (∃ p, w.files.expandHome (Path.parse source) = .ok p ∧ w.files.contains p = false ∧
      (scan.run source).outcome w = (.error (.inputMissing source), w)) ∨
    (∃ p failure, w.files.expandHome (Path.parse source) = .ok p ∧ w.files.isDirectory p = true ∧
      IgnoreRule.load w.files (Pipeline.ignoreFile (w.files.resolve p)) = .error failure ∧
      (scan.run source).outcome w = (.error failure, w)) ∨
    (∃ p sources records, w.files.expandHome (Path.parse source) = .ok p ∧
      Finds w.files scan.excludePaths p sources ∧
      (scan.run source).outcome w = (.ok sources, w.noteAll records)) := by
  cases hhome : w.files.expandHome (Path.parse source) with
  | error failure =>
    have hread := Job.outcome_reading (·.expandHome (Path.parse source)) w
    rw [hhome] at hread
    exact .inl ⟨failure, rfl, by rw [run, Job.outcome_bind_of_error hread]⟩
  | ok p =>
    rw [outcome_run_of_home _ hhome]
    by_cases hthere : w.files.contains p = false
    · exact .inr (.inl ⟨p, rfl, hthere, if_pos hthere⟩)
    · rw [if_neg hthere]
      by_cases hdirectory : w.files.isDirectory p = true
      · rw [if_pos hdirectory, outcome_directory hreads hsuffixes]
        cases hload : IgnoreRule.load w.files (Pipeline.ignoreFile (w.files.resolve p)) with
        | error failure =>
          exact .inr (.inr (.inl ⟨p, failure, rfl, hdirectory, hload, rfl⟩))
        | ok own =>
          have hfinds : Finds w.files scan.excludePaths p _ := .directory hdirectory hload
          exact .inr (.inr (.inr ⟨p, _, [_], rfl, hfinds, rfl⟩))
      · rw [if_neg hdirectory]
        have hfinds : Finds w.files scan.excludePaths p [p] :=
          .file (by simpa using hthere) (by simpa using hdirectory)
        exact .inr (.inr (.inr ⟨p, [p], [], rfl, hfinds, rfl⟩))

end Scan

namespace Pipeline

theorem onlyNotes_liftM {α : Type} {job : Job α} {a : α} (hjob : job.OnlyNotes a) (b : Builder) :
    Job.OnlyNotes ((liftM job : StateT Builder Job α).run b) (a, b) :=
  hjob.bind (.pure (a, b))

theorem onlyNotes_forM {α : Type} {action : α → Job Unit} (hactions : ∀ a, (action a).OnlyNotes ())
    (items : List α) (b : Builder) :
    Job.OnlyNotes ((items.forM fun a => (action a : StateT Builder Job Unit)).run b) ((), b) := by
  induction items with
  | nil => exact .pure _
  | cons item items ih =>
    rw [List.forM_eq_forM, List.forM_cons, StateT.run_bind]
    exact .bind (onlyNotes_liftM (hactions item) b) ih

/-- Reporting on a unit leaves its entities and the builder as building gave them. -/
theorem onlyNotes_build (unit : SourceUnit) (b : Builder) :
    Job.OnlyNotes ((build unit).run b) (b.build unit) := by
  simp only [build, StateT.run_bind, StateT.run_get, StateT.run_set, pure_bind]
  refine .bind (onlyNotes_forM (fun _ => .note _ _ _) _ _) ?_
  exact .bind (onlyNotes_liftM (.note _ _ _) _) (.pure _)

/-- Reading a source gives what its file holds at that time, and leaves records of how it went but no other
trace. -/
theorem outcome_read (p : Path) (w : Workspace) :
    ∃ records, (SourceUnit.read p).outcome w = (SourceUnit.readFrom w.files p, w.noteAll records) := by
  have htext := Job.outcome_reading (SourceUnit.readText · p) w
  rw [SourceUnit.read]
  cases hread : SourceUnit.readText w.files p with
  | error failure =>
    rw [hread] at htext
    rw [SourceUnit.readFrom, hread]
    exact ⟨[], Job.outcome_bind_of_error htext _⟩
  | ok text =>
    rw [hread] at htext
    have hparsed : SourceUnit.readFrom w.files p =
        (SourceUnit.parse (some p.text) text).mapError Failure.source := by
      rw [SourceUnit.readFrom, hread]
      rfl
    have hunit := Job.outcome_ofExcept ((SourceUnit.parse (some p.text) text).mapError Failure.source) w
    rw [Job.outcome_bind_of_ok htext, hparsed]
    cases hparse : (SourceUnit.parse (some p.text) text).mapError Failure.source with
    | error failure =>
      rw [hparse] at hunit
      exact ⟨[], Job.outcome_bind_of_error hunit _⟩
    | ok unit =>
      rw [hparse] at hunit
      rw [Job.outcome_bind_of_ok hunit]
      exact ⟨[_], Job.outcome_bind_of_ok (Job.outcome_note _ _ _ _) _⟩

/-- A source gives its entities and a builder that built it last, or fails. The builder does not fail, so a
failure is one of reading. -/
theorem outcome_entitiesOf (p : Path) (b : Builder) (w : Workspace) :
    ∃ result records, Gives w p result ∧
      ((entitiesOf p).run b).outcome w = (result.map b.build, w.noteAll records) := by
  obtain ⟨first, hfirst⟩ := onlyNotes_liftM (.note "pipeline" .debug ("Parsing " ++ p.text)) b
  obtain ⟨second, hsecond⟩ := outcome_read p (w.noteAll first)
  have hgives := gives_of_noteAll w first p
  rw [entitiesOf, StateT.run_bind, Job.outcome_bind_of_ok (hfirst w), StateT.run_bind]
  cases hread : SourceUnit.readFrom (w.noteAll first).files p with
  | error failure =>
    rw [hread] at hsecond hgives
    have hfails := Job.outcome_bind_of_error hsecond fun unit => pure (unit, b)
    refine ⟨_, first ++ second, hgives, ?_⟩
    rw [Workspace.noteAll_append]
    exact Job.outcome_bind_of_error hfails _
  | ok unit =>
    rw [hread] at hsecond hgives
    obtain ⟨third, hthird⟩ := onlyNotes_build unit b
    have hunit := Job.outcome_bind_of_ok hsecond fun unit => pure (unit, b)
    refine ⟨_, first ++ second ++ third, hgives, ?_⟩
    rw [Workspace.noteAll_append, Workspace.noteAll_append]
    exact (Job.outcome_bind_of_ok hunit _).trans (hthird _)

/-- One builder builds all sources, and each as if it were the first. By induction on the sources, with the
builder and the workspace general, since both have changed when the next one is read. -/
theorem outcome_mapM_entitiesOf (sources : List Path) (b : Builder) (w : Workspace) :
    ∃ result last records, GivesAll w sources result ∧
      ((sources.mapM entitiesOf).run b).outcome w =
        (result.map fun units => (units.map fun unit => (b.build unit).1, last), w.noteAll records) := by
  induction sources generalizing b w with
  | nil => exact ⟨.ok [], b, [], .done, rfl⟩
  | cons p sources ih =>
    obtain ⟨result, first, hgives, hfirst⟩ := outcome_entitiesOf p b w
    rw [List.mapM_cons, StateT.run_bind]
    cases result with
    | error failure => exact ⟨.error failure, b, first, .stop hgives, Job.outcome_bind_of_error hfirst _⟩
    | ok unit =>
      -- A builder remembers only what it skipped last, so it builds the rest as `b` does.
      obtain ⟨results, last, second, hrest, hsecond⟩ := ih (b.build unit).2 (w.noteAll first)
      refine ⟨_, last, first ++ second, .next hgives hrest.of_noteAll, ?_⟩
      rw [Workspace.noteAll_append]
      refine (Job.outcome_bind_of_ok hfirst _).trans ?_
      rw [StateT.run_bind]
      cases results with
      | error failure => exact Job.outcome_bind_of_error hsecond _
      | ok units => exact Job.outcome_bind_of_ok hsecond _

theorem outcome_collectWith_of_error {given : Option Settings} {settings : Settings} {source : String}
    {failure : Failure} {w w' : Workspace}
    (hscan : (Scan.run (scanFor { settings := given } settings) source).outcome w = (.error failure, w')) :
    (collectWith { settings := given } settings source).outcome w = (.error failure, w') := by
  rw [collectWith, Job.outcome_bind_of_error hscan]

/-- The entities of the sources that a scan found, in the order of the sources, or the failure of the first that
cannot be read. -/
theorem outcome_collectWith_of_ok {given : Option Settings} {settings : Settings} {source : String}
    {sources : List Path} {w w' : Workspace}
    (hscan : (Scan.run (scanFor { settings := given } settings) source).outcome w = (.ok sources, w')) :
    ∃ result records, GivesAll w' sources result ∧
      (collectWith { settings := given } settings source).outcome w =
        (result.map (entitiesOfUnits settings.includeEnums), w'.noteAll records) := by
  obtain ⟨result, last, records, hgives, hbuilt⟩ :=
    outcome_mapM_entitiesOf sources { includeEnums := settings.includeEnums } w'
  refine ⟨result, records, hgives, ?_⟩
  rw [collectWith, Job.outcome_bind_of_ok hscan]
  simp only [StateT.run'_eq, map_eq_pure_bind, bind_assoc, pure_bind]
  cases result with
  | error failure => exact Job.outcome_bind_of_error hbuilt _
  | ok units =>
    refine (Job.outcome_bind_of_ok hbuilt _).trans ?_
    rw [Job.outcome_pure]
    rfl

theorem outcome_settingsFor (given : Option Settings) (source : String) (w : Workspace) :
    (settingsFor { settings := given } source).outcome w = (chosen given source w.files, w) := by
  cases given with
  | some settings => rfl
  | none => exact Job.outcome_reading (Settings.load · (Path.parse source)) w

theorem outcome_rendererFor (given : Option Settings) (settings : Settings) (w : Workspace) :
    (rendererFor { settings := given } settings).outcome w =
      ((rendererNamed w.plugins settings).mapError .renderer, w) := by
  rw [rendererFor, Job.outcome_bind_of_ok (Job.outcome_get w), Job.outcome_ofExcept]
  rfl

/-- The last stages of a run, once the entities are there: finding the renderer and drawing. A renderer that
cannot be had is found out only now, after all sources were read. -/
theorem outcome_run_of_collect {given : Option Settings} {settings : Settings} {source : String}
    {entities : List Entity} {w w' : Workspace} (hchosen : chosen given source w.files = .ok settings)
    (hcollect : (collectWith { settings := given } settings source).outcome w = (.ok entities, w')) :
    ∃ records, (run { settings := given } source).outcome w =
      (((rendererNamed w'.plugins settings).mapError .renderer).map (·.render entities),
        w'.noteAll records) := by
  have hsettings := outcome_settingsFor given source w
  have hrenderer := outcome_rendererFor given settings w'
  rw [hchosen] at hsettings
  rw [run, Job.outcome_bind_of_ok hsettings, Job.outcome_bind_of_ok hcollect]
  cases hnamed : rendererNamed w'.plugins settings with
  | error error =>
    rw [hnamed] at hrenderer
    exact ⟨[], Job.outcome_bind_of_error hrenderer _⟩
  | ok renderer =>
    rw [hnamed] at hrenderer
    rw [Job.outcome_bind_of_ok hrenderer]
    exact ⟨[_], Job.outcome_bind_of_ok (Job.outcome_note _ _ _ _) _⟩

theorem outcome_run_of_collect_error {given : Option Settings} {settings : Settings} {source : String}
    {failure : Failure} {w w' : Workspace} (hchosen : chosen given source w.files = .ok settings)
    (hcollect : (collectWith { settings := given } settings source).outcome w = (.error failure, w')) :
    (run { settings := given } source).outcome w = (.error failure, w') := by
  have hsettings := outcome_settingsFor given source w
  rw [hchosen] at hsettings
  rw [run, Job.outcome_bind_of_ok hsettings, Job.outcome_bind_of_error hcollect]

/-- A run ends with its first failing stage or with the diagram, and leaves nothing but records in the log.
`Ends` says this without jobs and without the builder that all sources share. -/
theorem outcome_run (given : Option Settings) (source : String) (w : Workspace) :
    ∃ result records, (run { settings := given } source).outcome w = (result, w.noteAll records) ∧
      Ends given source w result := by
  have hsettings := outcome_settingsFor given source w
  cases hchosen : chosen given source w.files with
  | error failure =>
    rw [hchosen] at hsettings
    exact ⟨_, [], Job.outcome_bind_of_error hsettings _, .settings hchosen⟩
  | ok settings =>
    rcases Scan.outcome_run_cases (rfl : (scanFor { settings := given } settings).readsSettings = false) rfl
      source w with ⟨failure, hhome, hscan⟩ | ⟨p, hhome, hmissing, hscan⟩ |
        ⟨p, failure, hhome, hdirectory, hrules, hscan⟩ | ⟨p, sources, first, hhome, hfinds, hscan⟩
    · have hcollect := outcome_collectWith_of_error hscan
      exact ⟨_, [], outcome_run_of_collect_error hchosen hcollect, .home hchosen hhome⟩
    · have hcollect := outcome_collectWith_of_error hscan
      exact ⟨_, [], outcome_run_of_collect_error hchosen hcollect, .missing hchosen hhome hmissing⟩
    · have hcollect := outcome_collectWith_of_error hscan
      exact ⟨_, [], outcome_run_of_collect_error hchosen hcollect,
        .ignoreFile hchosen hhome hdirectory hrules⟩
    · obtain ⟨result, second, hgives, hcollect⟩ := outcome_collectWith_of_ok hscan
      rw [← Workspace.noteAll_append] at hcollect
      cases result with
      | error failure =>
        exact ⟨_, first ++ second, outcome_run_of_collect_error hchosen hcollect,
          .source hchosen hhome hfinds hgives.of_noteAll⟩
      | ok units =>
        obtain ⟨third, hrun⟩ := outcome_run_of_collect hchosen hcollect
        rw [Workspace.noteAll_plugins, ← Workspace.noteAll_append] at hrun
        refine ⟨_, _, hrun, ?_⟩
        cases hrenderer : rendererNamed w.plugins settings with
        | error error => exact .renderer hchosen hhome hfinds hgives.of_noteAll hrenderer
        | ok renderer => exact .drawn hchosen hhome hfinds hgives.of_noteAll hrenderer

/-- Settings that are not given are those that are loaded, so all that is told of runs with given settings holds
of these, too. -/
theorem outcome_run_of_load {source : String} {w : Workspace} {settings : Settings}
    (hload : Settings.load w.files (Path.parse source) = .ok settings) :
    (run {} source).outcome w = (run { settings := some settings } source).outcome w := by
  have hsettings := outcome_settingsFor none source w
  rw [chosen, hload] at hsettings
  rw [run, run, Job.outcome_bind_of_ok hsettings]
  rfl

end Pipeline

end ClassDiagram
