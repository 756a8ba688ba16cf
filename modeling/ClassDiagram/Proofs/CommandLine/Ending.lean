import ClassDiagram.Proofs.CommandLine.Steps
import ClassDiagram.Proofs.Pipeline.Failures

namespace ClassDiagram.CommandLine

open Pipeline (ignoreFile)

/-- The failures that nothing takes care of. -/
inductive Escapes (a : Arguments) (w : Workspace) : Failure → Prop
  | logNameless (hlog : a.logFile = some .nameless) : Escapes a w .logNameless
  | logFile {text : String} {fault : FileFault} (hlog : a.logFile = some (.named text))
      (hplace : w.files.tree.placeForFile w.files.current (logPath w.files text) = .error fault) :
      Escapes a w (.file ⟨fault, (logPath w.files text).text⟩)
  | settings {logged : Workspace} {failure : Failure} (hlog : (setUpLog a).outcome w = (.ok (), logged))
      (hsettings : Settings.Unreadable logged.files (Path.parse a.source) failure) : Escapes a w failure
  | ignoreFile {logged : Workspace} {settings : Settings} {p : Path} {fault : Text.Utf8Fault}
      (hloaded : Loaded a w logged settings) (hhome : logged.files.expandHome (Path.parse a.source) = .ok p)
      (hdirectory : logged.files.isDirectory p = true)
      (hrules : IgnoreRule.load logged.files (ignoreFile (logged.files.resolve p)) = .error (.encoding fault)) :
      Escapes a w (.encoding fault)
  | outputNameless {logged drawn : Workspace} {settings : Settings} {diagram : String}
      (hloaded : Loaded a w logged settings) (hdrawing : a.drawing settings logged = (.ok diagram, drawn))
      (houtput : a.output = some .nameless) : Escapes a w .outputNameless

/-- The failures that are told on the error stream, with the text that tells them. -/
inductive Reports (a : Arguments) (w : Workspace) : String → Prop
  | settings {logged : Workspace} {error : SettingsError} (hlog : (setUpLog a).outcome w = (.ok (), logged))
      (hsettings : Settings.load logged.files (Path.parse a.source) = .error (.settings error)) :
      Reports a w (error.message ++ "\n")
  | inputMissing {logged drawn : Workspace} {settings : Settings} (hloaded : Loaded a w logged settings)
      (hdrawing : a.drawing settings logged = (.error (.inputMissing a.source), drawn)) :
      Reports a w ("Input path not found: " ++ a.source ++ "\n")
  | inputUnreadable {logged drawn : Workspace} {settings : Settings} {error : FileError}
      (hloaded : Loaded a w logged settings) (hdrawing : a.drawing settings logged = (.error (.file error), drawn)) :
      Reports a w (if error.fault = .missing then error.message ++ "\n"
        else "ruml failed to read input: " ++ error.message ++ "\n")
  | inputUnparseable {logged drawn : Workspace} {settings : Settings} {error : SourceError}
      (hloaded : Loaded a w logged settings) (hdrawing : a.drawing settings logged = (.error (.source error), drawn)) :
      Reports a w (error.message ++ "\n")
  | outputType {logged drawn : Workspace} {settings : Settings} {requested : String} {available : List String}
      (hloaded : Loaded a w logged settings)
      (hdrawing : a.drawing settings logged =
        (.error (.renderer (.unknownOutputType requested available)), drawn)) :
      Reports a w (RendererError.message (.unknownOutputType requested available) ++ "\n")
  | output {logged drawn : Workspace} {settings : Settings} {diagram target : String} {fault : FileFault}
      (hloaded : Loaded a w logged settings) (hdrawing : a.drawing settings logged = (.ok diagram, drawn))
      (houtput : a.output = some (.named target))
      (hplace : drawn.files.tree.placeForFile drawn.files.current (Path.parse target) = .error fault) :
      Reports a w ("ruml failed to write " ++ (Path.parse target).text ++ ": "
        ++ FileError.message ⟨fault, (Path.parse target).text⟩ ++ "\n")

variable {a : Arguments} {w logged : Workspace} {settings : Settings} {failure : Failure} {message : String}

/-- A path can be read once its settings are loaded, since its home directory had to be known for finding them. -/
theorem Loaded.expandHome (hloaded : Loaded a w logged settings) :
    ∃ p, logged.files.expandHome (Path.parse a.source) = .ok p := by
  cases hhome : logged.files.expandHome (Path.parse a.source) with
  | ok p => exact ⟨p, rfl⟩
  | error failure =>
    have hload := (Settings.load_error_iff ((Settings.Unreadable.home hhome).ne_settings)).mpr (.home hhome)
    cases hload.symm.trans hloaded.load

/-- Each of these failures ends a run, with itself: the cases go through the stages up to the one that fails. -/
theorem Escapes.ending (hescapes : Escapes a w failure) : ((perform a).run w).1.ending = .failed failure := by
  cases hescapes with
  | logNameless hlog => rw [run_perform_of_log_error (Starts.nameless hlog).outcome]
  | logFile hlog hplace => rw [run_perform_of_log_error (Starts.refused hlog hplace).outcome]
  | settings hlog hsettings =>
    have hload := (Settings.load_error_iff hsettings.ne_settings).mpr hsettings
    rw [run_perform_of_load_error hlog hload hsettings.ne_settings]
  | @ignoreFile logged settings p fault hloaded hhome hdirectory hrules =>
    obtain ⟨result, records, hrun, hends⟩ := Pipeline.outcome_run (some (a.override settings)) a.source logged
    obtain rfl := hends.eq_of_ignoreFile hhome hdirectory hrules
    rw [hloaded.run_perform_of_error hrun]
    rfl
  | outputNameless hloaded hdrawing houtput =>
    rw [hloaded.run_perform_of_ok hdrawing, run_deliver, houtput]

/-- Each failure that is told ends the run with its text on the error stream, after whatever was told before. -/
theorem Reports.run_perform (hreports : Reports a w message) :
    ∃ w', (perform a).run w = (stopWith 1 message).run w' := by
  cases hreports with
  | settings hlog hsettings => exact ⟨_, run_perform_of_settings_error hlog hsettings⟩
  | inputMissing hloaded hdrawing => exact ⟨_, hloaded.run_perform_of_error hdrawing⟩
  | inputUnreadable hloaded hdrawing => exact ⟨_, hloaded.run_perform_of_error hdrawing⟩
  | inputUnparseable hloaded hdrawing => exact ⟨_, hloaded.run_perform_of_error hdrawing⟩
  | outputType hloaded hdrawing => exact ⟨_, hloaded.run_perform_of_error hdrawing⟩
  | @output logged drawn settings diagram target fault hloaded hdrawing houtput hplace =>
    refine ⟨drawn, ?_⟩
    rw [hloaded.run_perform_of_ok hdrawing, run_deliver, houtput]
    dsimp only
    rw [hplace]

theorem Reports.ending (hreports : Reports a w message) : ((perform a).run w).1.ending = .exit 1 := by
  obtain ⟨w', hrun⟩ := hreports.run_perform
  rw [hrun, run_stopWith]

/-- No message is empty, so a run that ends with status 1 always leaves something on the error stream. -/
theorem Reports.ne_empty (hreports : Reports a w message) : message ≠ "" := by
  have hline (text : String) : text ++ "\n" ≠ "" := by simp
  cases hreports with
  | inputUnreadable hloaded hdrawing =>
    split
    · exact hline _
    · exact hline _
  | _ => exact hline _

/-- Setting the log up has nothing to do with plugins, so the renderers are those that there were at the start. -/
theorem plugins_of_setUpLog (hlog : (setUpLog a).outcome w = (.ok (), logged)) : logged.plugins = w.plugins := by
  cases starts hlog with
  | streams | opens => rfl

/-- A log that cannot be set up escapes: it is set up before anything is guarded. -/
theorem escapes_of_setUpLog (hlog : ((setUpLog a).outcome w).1 = .error failure) : Escapes a w failure := by
  rcases hset : (setUpLog a).outcome w with ⟨started, logged⟩
  rw [hset] at hlog
  obtain rfl : started = .error failure := hlog
  cases starts hset with
  | nameless hfile => exact .logNameless hfile
  | refused hfile hplace => exact .logFile hfile hplace

/-- A failure to make the diagram is told or escapes. It is told if it is about the input or the output type,
and it escapes where an ignore file is no text. -/
theorem Loaded.failure_cases {drawn : Workspace} (hloaded : Loaded a w logged settings)
    (hplugins : w.plugins = []) (hdrawing : a.drawing settings logged = (.error failure, drawn)) :
    (∃ failure, Escapes a w failure) ∨ ∃ message, Reports a w message := by
  obtain ⟨p, hhome⟩ := hloaded.expandHome
  obtain ⟨result, records, hrun, hends⟩ := Pipeline.outcome_run (some (a.override settings)) a.source logged
  cases hdrawing.symm.trans hrun
  have hnone := (plugins_of_setUpLog hloaded.log).trans hplugins
  rcases hends.error_cases hnone hhome with rfl | ⟨error, rfl⟩ | ⟨error, rfl⟩ |
    ⟨requested, available, rfl⟩ | ⟨fault, rfl, hdirectory, hrules⟩
  · exact .inr ⟨_, .inputMissing hloaded hdrawing⟩
  · exact .inr ⟨_, .inputUnparseable hloaded hdrawing⟩
  · exact .inr ⟨_, .inputUnreadable hloaded hdrawing⟩
  · exact .inr ⟨_, .outputType hloaded hdrawing⟩
  · exact .inl ⟨_, .ignoreFile hloaded hhome hdirectory hrules⟩

/-- A diagram is delivered, unless its file has no name or cannot be written. The first escapes and the second
is told. -/
theorem Loaded.deliver_cases {diagram : String} {drawn : Workspace} (hloaded : Loaded a w logged settings)
    (hdrawing : a.drawing settings logged = (.ok diagram, drawn)) :
    (∃ failure, Escapes a w failure) ∨ (∃ message, Reports a w message) ∨
      ((deliver a diagram).run drawn).1.ending = .exit 0 := by
  rw [run_deliver]
  cases houtput : a.output with
  | none => exact .inr (.inr rfl)
  | some target =>
    cases target with
    | nameless => exact .inl ⟨_, .outputNameless hloaded hdrawing houtput⟩
    | named target =>
      cases hplace : drawn.files.tree.placeForFile drawn.files.current (Path.parse target) with
      | error fault => exact .inr (.inl ⟨_, .output hloaded hdrawing houtput hplace⟩)
      | ok place =>
        dsimp only
        rw [hplace]
        exact .inr (.inr rfl)

/-- A run escapes, reports or succeeds. That no two of these happen at once is told by their endings, which
differ. -/
theorem perform_cases (a : Arguments) {w : Workspace} (hplugins : w.plugins = []) :
    (∃ failure, Escapes a w failure) ∨ (∃ message, Reports a w message) ∨
      ((perform a).run w).1.ending = .exit 0 := by
  cases course a w with
  | logFails hlog _ => exact .inl ⟨_, escapes_of_setUpLog (by rw [hlog])⟩
  | settingsFail hlog hload _ => exact .inr (.inl ⟨_, .settings hlog hload⟩)
  | loadFails hlog hload hother _ =>
    exact .inl ⟨_, .settings hlog ((Settings.load_error_iff hother).mp hload)⟩
  | diagramFails hloaded hdrawing _ => exact (hloaded.failure_cases hplugins hdrawing).imp_right .inl
  | delivers hloaded hdrawing hrun =>
    rw [hrun]
    exact hloaded.deliver_cases hdrawing

/-- A run for arguments that can be read ends with status 1 and a message for all that is told, with a failure
for all that escapes, and else with status 0. What goes wrong with the input and the output is told, and so are
documents that are no settings. A log file that cannot be opened, settings that cannot be read, an ignore file
that is no text and files without a name escape. -/
theorem run_ending_iff {words : List String} (hparse : Arguments.parse words = .ok a)
    (hplugins : w.plugins = []) :
    (∀ failure, ((run words).run w).1.ending = .failed failure ↔ Escapes a w failure) ∧
      (((run words).run w).1.ending = .exit 1 ↔ ∃ message, Reports a w message) ∧
      (((run words).run w).1.ending = .exit 0 ↔
        (∀ failure, ¬ Escapes a w failure) ∧ ∀ message, ¬ Reports a w message) ∧
      ∀ message, Reports a w message → message ≠ "" ∧ ((run words).run w).1.output = "" ∧
        ∃ before, ((run words).run w).2.log.errors = before ++ message := by
  rw [run_of_parse hparse]
  have hcases := perform_cases a hplugins
  refine ⟨fun failure => ⟨fun hfailed => ?_, Escapes.ending⟩,
    ⟨fun hexit => ?_, fun ⟨message, hreports⟩ => hreports.ending⟩,
    ⟨fun hexit => ⟨fun failure hescapes => ?_, fun message hreports => ?_⟩, fun ⟨hescapes, hreports⟩ => ?_⟩,
    fun message hreports => ?_⟩
  · rcases hcases with ⟨failure', hescapes⟩ | ⟨message, hreports⟩ | hexit
    · cases hfailed.symm.trans hescapes.ending
      exact hescapes
    · cases hfailed.symm.trans hreports.ending
    · cases hfailed.symm.trans hexit
  · rcases hcases with ⟨failure, hescapes⟩ | hreports | hzero
    · cases hexit.symm.trans hescapes.ending
    · exact hreports
    · cases hexit.symm.trans hzero
  · cases hexit.symm.trans hescapes.ending
  · cases hexit.symm.trans hreports.ending
  · rcases hcases with ⟨failure, hescape⟩ | ⟨message, hreport⟩ | hzero
    · exact absurd hescape (hescapes failure)
    · exact absurd hreport (hreports message)
    · exact hzero
  · obtain ⟨w', hrun⟩ := hreports.run_perform
    rw [hrun, run_stopWith]
    exact ⟨hreports.ne_empty, rfl, w'.log.errors, rfl⟩

/-- A source beside a directory that has the name of settings files. -/
def besideDirectory : Workspace :=
  { files := { tree := .directory [(Settings.fileName, .directory []), ("lib.rs", .file [])] } }

/-- A directory in the place of the settings file cannot be read as a file, and the failure to read it is that
of the run. -/
theorem run_besideDirectory :
    Arguments.parse ["lib.rs"] = .ok { input := some "lib.rs" } ∧ besideDirectory.plugins = [] ∧
      ((run ["lib.rs"]).run besideDirectory).1.ending = .failed (.file ⟨.isDirectory, "/.ruml.yml"⟩) := by
  have hparse : Arguments.parse ["lib.rs"] = .ok { input := some "lib.rs" } := rfl
  have hescapes : Escapes { input := some "lib.rs" } besideDirectory (.file ⟨.isDirectory, "/.ruml.yml"⟩) :=
    .settings rfl (.file rfl (by decide) rfl)
  exact ⟨hparse, rfl, ((run_ending_iff hparse rfl).1 _).mpr hescapes⟩

/-- A failure to read the settings is not told with status 1: it escapes, while the same failure for the input
would be told. -/
theorem not_exit_besideDirectory :
    ¬ ∃ status, ((run ["lib.rs"]).run besideDirectory).1.ending = .exit status := by
  rintro ⟨status, hexit⟩
  cases hexit

end ClassDiagram.CommandLine
