import ClassDiagram.Proofs.CommandLine.Steps
import ClassDiagram.Proofs.Pipeline.Locality

namespace ClassDiagram.CommandLine

variable {a : Arguments} {w logged : Workspace}

/-- Every log that is set up to go to a file goes to one that is there, because the file is opened before
anything is told. -/
theorem isFileAt_of_setUpLog {place : List String} (hlog : (setUpLog a).outcome w = (.ok (), logged))
    (hfile : logged.log.file = some place) : logged.files.tree.IsFileAt place := by
  obtain ⟨_, _, _, htree⟩ := opens_of_setUpLog hlog hfile
  rw [htree]
  exact ⟨_, FileTree.get?_put_self _ _ _⟩

/-- A log that is set up goes to the error stream, and to the file that it has. The limit of the stream is that
of the switch for more, whatever the log was before. -/
theorem isConfigured_of_setUpLog (hlog : (setUpLog a).outcome w = (.ok (), logged)) :
    logged.log.IsConfigured (Log.streamLimit a.verbose) logged.log.file := by
  cases starts hlog with
  | streams =>
    have hstreamed := isConfigured_streamed a w
    rwa [← hstreamed.file_eq] at hstreamed
  | @opens text place hlogFile hplace =>
    have hattached := isConfigured_attached hlogFile w place
    rwa [← hattached.file_eq] at hattached

/-- A run ends with status 0 only by delivering a diagram: the log is set up, the settings are loaded and the
diagram is drawn before. -/
theorem exists_drawing_of_exit (hexit : ((perform a).run w).1.ending = .exit 0) :
    ∃ logged settings diagram drawn, Loaded a w logged settings ∧
      a.drawing settings logged = (.ok diagram, drawn) ∧ (perform a).run w = (deliver a diagram).run drawn := by
  cases course a w with
  | logFails _ hrun | loadFails _ _ _ hrun | settingsFail _ _ hrun =>
    rw [hrun] at hexit
    cases hexit
  | diagramFails _ _ hrun =>
    rw [hrun] at hexit
    split at hexit
    · cases hexit
    · cases hexit
  | delivers hloaded hdrawing hrun => exact ⟨_, _, _, _, hloaded, hdrawing, hrun⟩

/-- Settings as the arguments override them: an output type that is not empty replaces the loaded one, a flag
that is given counts as on, and the rest is as loaded. -/
structure Overrides (a : Arguments) (loaded settings : Settings) : Prop where
  outputType : settings.outputType = if a.outputType.getD "" = "" then loaded.outputType else a.outputType.getD ""
  includeEnums : settings.includeEnums = true ↔ a.includeEnums = true ∨ loaded.includeEnums = true
  visibilityMarkers :
    settings.visibilityMarkers = true ↔ a.visibilityMarkers = true ∨ loaded.visibilityMarkers = true
  excludePaths : settings.excludePaths = loaded.excludePaths
  root : settings.root = loaded.root

theorem overrides_override (a : Arguments) (loaded : Settings) : Overrides a loaded (a.override loaded) := by
  refine ⟨?_, ?_, ?_, rfl, rfl⟩
  · cases htype : a.outputType <;> simp [Arguments.override, htype]
  · exact Bool.or_eq_true_iff
  · exact Bool.or_eq_true_iff

/-- What the library gives for the input in a workspace: the settings, and a text for settings of which the
arguments override some. Where they override none, the settings need not be given. -/
structure LibraryGives (a : Arguments) (w : Workspace) (loaded settings : Settings) (text : String) : Prop where
  load : Settings.load w.files (Path.parse a.source) = .ok loaded
  run : ((Pipeline.run { settings := some settings } a.source).outcome w).1 = .ok text
  runPlain : a.outputType = none → a.includeEnums = false → a.visibilityMarkers = false →
    ((Pipeline.run {} a.source).outcome w).1 = .ok text

/-- A text is all of the standard output, or all that the output file holds in the end, except that the record
about the file follows if it is the log file too. -/
inductive Delivers (a : Arguments) (logged : Workspace) (text : String) : Result → Workspace → Prop
  | toOutput {result : Result} {final : Workspace} (houtput : a.output = none)
      (hresult : result.output = text ++ "\n") : Delivers a logged text result final
  | toFile {target : String} {result : Result} {final : Workspace} (houtput : a.output = some (.named target))
      (hresult : result.output = "")
      (hheld : final.files.readBytes (Path.parse target) = .ok (Text.encodeUtf8 (text ++ "\n") ++
        if logged.log.file = some (logged.files.resolve (Path.parse target)) then
          Text.encodeUtf8 ((written (Path.parse target)).fileLine logged.clock) else [])) :
      Delivers a logged text result final

/-- What is drawn inside a run is what the library gives for the same input in the workspace that the set-up of
the log leaves. -/
theorem libraryGives_of_drawing {settings : Settings} {diagram : String} {drawn : Workspace}
    (hloaded : Loaded a w logged settings) (hdrawing : a.drawing settings logged = (.ok diagram, drawn)) :
    LibraryGives a logged settings (a.override settings) diagram := by
  have hrun : ((Pipeline.run { settings := some (a.override settings) } a.source).outcome logged).1 =
      .ok diagram := congrArg Prod.fst hdrawing
  refine ⟨hloaded.load, hrun, fun htype henums hmarkers => ?_⟩
  have hsame : a.override settings = settings := by
    simp [Arguments.override, htype, henums, hmarkers]
  rw [Pipeline.outcome_run_of_load hloaded.load, ← hsame, hrun]

/-- Without a log file the library gives the same before the log is set up, since a run of the library does not
depend on what the error stream gets. -/
theorem LibraryGives.of_streamed {loaded settings : Settings} {text : String} (hfile : w.log.file = none)
    (hgives : LibraryGives a (a.streamed w) loaded settings text) : LibraryGives a w loaded settings text := by
  obtain ⟨hload, hrun, hplain⟩ := hgives
  have hstreamed := Log.isConfigured_streaming w.log a.verbose a.logFile.isSome
  have hfiled : w.log.filed = (w.log.streaming a.verbose a.logFile.isSome).filed := by
    funext clock r
    rw [Log.filed_eq_nil_of_file hfile, Log.filed_eq_nil_of_file hstreamed.file_eq]
  exact ⟨hload, (Pipeline.outcome_run_relogged _ _ _ hfiled).symm.trans hrun, fun htype henums hmarkers =>
    (Pipeline.outcome_run_relogged _ _ _ hfiled).symm.trans (hplain htype henums hmarkers)⟩

/-- The record of the written diagram goes to the log file. It is told after the diagram is written, so if both
go to one file it stands behind the diagram. -/
theorem filed_written (hlog : (setUpLog a).outcome w = (.ok (), logged)) (clock : String) (p : Path) :
    logged.log.filed clock (written p) =
      logged.log.file.toList.map fun names => (names, (written p).fileLine clock) := by
  have hpasses : (written p).level.passes .debug = true := rfl
  rw [(isConfigured_of_setUpLog hlog).filed_eq, if_pos hpasses]

/-- A delivery that ends with status 0 has shown the diagram, or has written it where the file can be found with
it. -/
theorem delivers_of_deliver {diagram : String} {drawn : Workspace} {records : List Record}
    (hlog : (setUpLog a).outcome w = (.ok (), logged)) (hdrawn : drawn = logged.noteAll records)
    (hexit : ((deliver a diagram).run drawn).1.ending = .exit 0) :
    Delivers a logged diagram ((deliver a diagram).run drawn).1 ((deliver a diagram).run drawn).2 := by
  subst hdrawn
  have hfiles (names : List String) (hmem : names ∈ logged.log.files) : logged.files.tree.IsFileAt names := by
    rw [(isConfigured_of_setUpLog hlog).files_eq, Option.mem_toList] at hmem
    exact isFileAt_of_setUpLog hlog hmem
  have hthere (names : List String) (hfile : (logged.noteAll records).log.file = some names) :
      (logged.noteAll records).files.tree.IsFileAt names := by
    rw [Workspace.noteAll_log_file] at hfile
    exact Workspace.isFileAt_noteAll hfiles (isFileAt_of_setUpLog hlog hfile) records
  rw [run_deliver] at hexit ⊢
  cases houtput : a.output with
  | none => exact .toOutput houtput rfl
  | some target =>
    rw [houtput] at hexit
    cases target with
    | nameless => cases hexit
    | named target =>
      dsimp only at hexit ⊢
      split at hexit
      · cases hexit
      · next place hplace =>
        have hfiled := filed_written hlog logged.clock (Path.parse target)
        rw [← Workspace.noteAll_log_filed logged records, ← Workspace.noteAll_log_file logged records,
          ← Workspace.noteAll_clock logged records] at hfiled
        have hheld := Workspace.readBytes_put_emit hthere hfiled hplace (Text.encodeUtf8 (diagram ++ "\n"))
        rw [Workspace.noteAll_log_file, Workspace.noteAll_clock, FileSystem.resolve,
          Workspace.noteAll_current] at hheld
        exact .toFile houtput rfl hheld

/-- A run that succeeds delivers what the library gives for the input, with the settings of the input as the
arguments override them. The library is called once the log is set up; without a log file this makes no
difference. -/
theorem run_delivers {words : List String} (hparse : Arguments.parse words = .ok a)
    (hexit : ((run words).run w).1.ending = .exit 0) :
    ∃ logged loaded settings text, (setUpLog a).outcome w = (.ok (), logged) ∧ Overrides a loaded settings ∧
      LibraryGives a logged loaded settings text ∧
      (a.logFile = none → w.log.file = none → LibraryGives a w loaded settings text) ∧
      Delivers a logged text ((run words).run w).1 ((run words).run w).2 := by
  rw [run_of_parse hparse] at hexit ⊢
  obtain ⟨logged, loaded, text, drawn, hloaded, hdrawing, hperform⟩ := exists_drawing_of_exit hexit
  have hgives := libraryGives_of_drawing hloaded hdrawing
  refine ⟨logged, loaded, a.override loaded, text, hloaded.log, overrides_override a loaded, hgives, ?_, ?_⟩
  · intro hnone hfile
    have hlog := outcome_setUpLog a w
    rw [hnone, hloaded.log] at hlog
    cases hlog
    exact hgives.of_streamed hfile
  · obtain ⟨result, records, hrun, _⟩ := Pipeline.outcome_run (some (a.override loaded)) a.source logged
    cases hdrawing.symm.trans hrun
    rw [hperform] at hexit ⊢
    exact delivers_of_deliver hloaded.log rfl hexit

/-- Does a run end with status 0? -/
def Ending.isSuccess : Ending → Bool
  | .exit 0 => true
  | _ => false

theorem eq_exit_of_isSuccess {ending : Ending} (hsuccess : ending.isSuccess = true) : ending = .exit 0 := by
  match ending with
  | .exit 0 => rfl
  | .exit (status + 1) => cases hsuccess
  | .failed failure => cases hsuccess

/-- A source that declares one type, `struct A;`. -/
def oneType : Workspace where
  files.tree := .directory [("lib.rs", .file [0x73, 0x74, 0x72, 0x75, 0x63, 0x74, 0x20, 0x41, 0x3b])]

/-- Arguments that ask for a file and for marks of visibility. -/
def markedIntoFile : Arguments :=
  { input := some "lib.rs", output := some (.named "out.txt"), visibilityMarkers := true }

/-- A run with an output file and marks of visibility: the text of the library is all that the file holds in the
end. -/
theorem run_oneType :
    Arguments.parse ["lib.rs", "-o", "out.txt", "--visibility-markers"] = .ok markedIntoFile ∧
      ((run ["lib.rs", "-o", "out.txt", "--visibility-markers"]).run oneType).1.ending = .exit 0 ∧
      ∃ logged loaded settings text, Overrides markedIntoFile loaded settings ∧
        LibraryGives markedIntoFile oneType loaded settings text ∧
        Delivers markedIntoFile logged text
          ((run ["lib.rs", "-o", "out.txt", "--visibility-markers"]).run oneType).1
          ((run ["lib.rs", "-o", "out.txt", "--visibility-markers"]).run oneType).2 := by
  have hparse : Arguments.parse ["lib.rs", "-o", "out.txt", "--visibility-markers"] = .ok markedIntoFile := rfl
  have hsuccess :
      ((run ["lib.rs", "-o", "out.txt", "--visibility-markers"]).run oneType).1.ending.isSuccess = true := by
    decide +kernel
  have hexit := eq_exit_of_isSuccess hsuccess
  obtain ⟨logged, loaded, settings, text, _, hoverrides, _, hgives, hdelivers⟩ := run_delivers hparse hexit
  exact ⟨hparse, hexit, logged, loaded, settings, text, hoverrides, hgives rfl rfl, hdelivers⟩

/-- A file that the log goes to as well holds more than the diagram in the end, namely the record that the
diagram was written. -/
theorem run_oneType_into_log :
    ((run ["lib.rs", "-o", "out.txt", "--log-file", "out.txt"]).run oneType).1.ending = .exit 0 ∧
      ((Pipeline.run {} "lib.rs").outcome oneType).1.toOption =
        some "@startuml\n\nclass \"A\" \x7b\n\x7d\n\n@enduml" ∧
      (((run ["lib.rs", "-o", "out.txt", "--log-file", "out.txt"]).run oneType).2.files.readBytes
          (Path.parse "out.txt")).toOption ≠
        some (Text.encodeUtf8 ("@startuml\n\nclass \"A\" \x7b\n\x7d\n\n@enduml" ++ "\n")) :=
  ⟨eq_exit_of_isSuccess (by decide +kernel), by decide +kernel, by decide +kernel⟩

end ClassDiagram.CommandLine
