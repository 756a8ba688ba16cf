import ClassDiagram.CommandLine
import ClassDiagram.Proofs.Workspace.Logging

namespace ClassDiagram.CommandLine

variable {a : Arguments} {w w' logged drawn : Workspace} {settings : Settings} {failure : Failure}
  {diagram target : String} {p : Path} {fault : FileFault} {place : List String}

/-- What is left to do after a job sees how it ended, and starts in the workspace that it left. -/
theorem run_bind_run {α β : Type} (job : Job α) (next : Except Failure α → StateM Workspace β) (w : Workspace) :
    (job.run >>= next).run w = (next (job.outcome w).1).run (job.outcome w).2 := rfl

theorem run_stopWith (status : Nat) (message : String) (w : Workspace) :
    (stopWith status message).run w = ({ ending := .exit status }, { w with log := w.log.complain message }) :=
  rfl

theorem run_of_parse {words : List String} (hparse : Arguments.parse words = .ok a) (w : Workspace) :
    (run words).run w = (perform a).run w := by
  rw [run, hparse]

/-- The workspace with its records sent to the error stream only. -/
def Arguments.streamed (a : Arguments) (w : Workspace) : Workspace :=
  { w with log := w.log.streaming a.verbose a.logFile.isSome }

/-- The path of a log file, from the root of the tree. -/
def logPath (files : FileSystem) (text : String) : Path :=
  Path.absolute (files.resolve (Path.parse text))

/-- The log goes to the error stream, and to the file that is asked for if it can be opened. The stream is set
first, so it is set even where the file is refused. -/
theorem outcome_setUpLog (a : Arguments) (w : Workspace) :
    (setUpLog a).outcome w =
      match a.logFile with
      | none => (.ok (), a.streamed w)
      | some .nameless => (.error .logNameless, a.streamed w)
      | some (.named text) =>
        match w.files.tree.placeForFile w.files.current (logPath w.files text) with
        | .error fault => (.error (.file ⟨fault, (logPath w.files text).text⟩), a.streamed w)
        | .ok place =>
          (.ok (), { a.streamed w with
            files := { w.files with tree := w.files.tree.append place [] }
            log := (a.streamed w).log.attach (.toFile place) }) := by
  rw [setUpLog, Arguments.streamed]
  cases hfile : a.logFile with
  | none => exact Job.outcome_configureLog a.verbose none w
  | some target =>
    cases target with
    | nameless => exact Job.outcome_bind_of_ok (Job.outcome_startLog a.verbose true w) _
    | named text => exact Job.outcome_configureLog a.verbose (some (Path.parse text)) w

/-- How setting the log up can end. -/
inductive Starts (a : Arguments) (w : Workspace) : Except Failure Unit → Workspace → Prop
  | streams (hfile : a.logFile = none) : Starts a w (.ok ()) (a.streamed w)
  | nameless (hfile : a.logFile = some .nameless) : Starts a w (.error .logNameless) (a.streamed w)
  | refused {text : String} {fault : FileFault} (hfile : a.logFile = some (.named text))
      (hplace : w.files.tree.placeForFile w.files.current (logPath w.files text) = .error fault) :
      Starts a w (.error (.file ⟨fault, (logPath w.files text).text⟩)) (a.streamed w)
  | opens {text : String} {place : List String} (hfile : a.logFile = some (.named text))
      (hplace : w.files.tree.placeForFile w.files.current (logPath w.files text) = .ok place) :
      Starts a w (.ok ()) { a.streamed w with
        files := { w.files with tree := w.files.tree.append place [] }
        log := (a.streamed w).log.attach (.toFile place) }

/-- Setting the log up ends in one of four ways. Statements about a run start by cases on them and need not
unfold the set-up again. -/
theorem starts {started : Except Failure Unit} (hlog : (setUpLog a).outcome w = (started, logged)) :
    Starts a w started logged := by
  rw [outcome_setUpLog] at hlog
  split at hlog
  · next hfile =>
    cases hlog
    exact .streams hfile
  · next hfile =>
    cases hlog
    exact .nameless hfile
  · next text hfile =>
    split at hlog
    · next fault hplace =>
      cases hlog
      exact .refused hfile hplace
    · next place hplace =>
      cases hlog
      exact .opens hfile hplace

/-- Each way in which the log can start is the outcome of setting it up, so the four cases may also be used to
build a run. -/
theorem Starts.outcome {started : Except Failure Unit} (hstarts : Starts a w started logged) :
    (setUpLog a).outcome w = (started, logged) := by
  rw [outcome_setUpLog]
  cases hstarts with
  | streams hfile | nameless hfile => rw [hfile]
  | refused hfile hplace | opens hfile hplace =>
    rw [hfile]
    dsimp only
    rw [hplace]

/-- Without a file the log goes to the error stream only, from the level that is asked for. Nothing of what was
set before is left. -/
theorem isConfigured_streamed (a : Arguments) (w : Workspace) :
    (a.streamed w).log.IsConfigured (Log.streamLimit a.verbose) none :=
  Log.isConfigured_streaming w.log a.verbose a.logFile.isSome

/-- A log with a file goes to the error stream as well: the handler for the file is added to the one that is
there. -/
theorem isConfigured_attached {text : String} (hfile : a.logFile = some (.named text)) (w : Workspace)
    (place : List String) :
    ((a.streamed w).log.attach (.toFile place)).IsConfigured (Log.streamLimit a.verbose) (some place) := by
  have hstreamed : (a.streamed w).log = w.log.streaming a.verbose true := by
    rw [Arguments.streamed, hfile, Option.isSome_some]
  rw [hstreamed]
  exact Log.isConfigured_attach w.log a.verbose place

/-- A log that has a file once it is set up was asked to go there, and the file is made if it was not there. Its
old text is kept, as lines are added at the end. -/
theorem opens_of_setUpLog (hlog : (setUpLog a).outcome w = (.ok (), logged)) (hfile : logged.log.file = some place) :
    ∃ text, a.logFile = some (.named text) ∧
      w.files.tree.placeForFile w.files.current (logPath w.files text) = .ok place ∧
      logged.files.tree = w.files.tree.append place [] := by
  cases starts hlog with
  | streams =>
    rw [(isConfigured_streamed a w).file_eq] at hfile
    cases hfile
  | @opens text opened hname hplace =>
    rw [(isConfigured_attached hname w opened).file_eq] at hfile
    cases hfile
    exact ⟨text, hname, hplace, rfl⟩

/-- A log that cannot be set up ends the run at once, before anything of the input is looked at. -/
theorem run_perform_of_log_error (hlog : (setUpLog a).outcome w = (.error failure, w')) :
    (perform a).run w = ({ ending := .failed failure }, w') := by
  rw [perform, run_bind_run, hlog]
  rfl

/-- Settings that are refused are told on the error stream, and the run ends with status 1. -/
theorem run_perform_of_settings_error {error : SettingsError} (hlog : (setUpLog a).outcome w = (.ok (), logged))
    (hload : Settings.load logged.files (Path.parse a.source) = .error (.settings error)) :
    (perform a).run w = (stopWith 1 (error.message ++ "\n")).run logged := by
  have hread := Job.outcome_reading (Settings.load · (Path.parse a.source)) logged
  rw [perform, run_bind_run, hlog]
  dsimp only
  rw [run_bind_run, hread, hload]

/-- Any other failure to load the settings is taken care of by nothing and is the failure of the run. -/
theorem run_perform_of_load_error (hlog : (setUpLog a).outcome w = (.ok (), logged))
    (hload : Settings.load logged.files (Path.parse a.source) = .error failure)
    (hother : ∀ error, failure ≠ .settings error) :
    (perform a).run w = ({ ending := .failed failure }, logged) := by
  have hread := Job.outcome_reading (Settings.load · (Path.parse a.source)) logged
  rw [perform, run_bind_run, hlog]
  dsimp only
  rw [run_bind_run, hread, hload]
  cases failure with
  | settings error => exact absurd rfl (hother error)
  | _ => rfl

/-- The log is set up, and the settings of the input are loaded. -/
structure Loaded (a : Arguments) (w logged : Workspace) (settings : Settings) : Prop where
  log : (setUpLog a).outcome w = (.ok (), logged)
  load : Settings.load logged.files (Path.parse a.source) = .ok settings

/-- What becomes of the input once its settings are loaded. -/
def Arguments.drawing (a : Arguments) (settings : Settings) (logged : Workspace) :
    Except Failure String × Workspace :=
  (Pipeline.run { settings := some (a.override settings) } a.source).outcome logged

/-- Once the settings are loaded, all that is left is to make the diagram with the settings as the arguments
override them. -/
theorem Loaded.run_perform (hloaded : Loaded a w logged settings) :
    (perform a).run w = (makeDiagram a (a.override settings)).run logged := by
  have hread := Job.outcome_reading (Settings.load · (Path.parse a.source)) logged
  rw [perform, run_bind_run, hloaded.log]
  dsimp only
  rw [run_bind_run, hread, hloaded.load]

/-- A diagram that could be drawn is delivered from the workspace that drawing it has left. -/
theorem run_makeDiagram_of_ok
    (hrun : (Pipeline.run { settings := some settings } a.source).outcome w = (.ok diagram, drawn)) :
    (makeDiagram a settings).run w = (deliver a diagram).run drawn := by
  rw [makeDiagram, run_bind_run, hrun]

/-- A diagram that could not be drawn ends the run with a message if there is one for the failure, and with the
failure itself otherwise. -/
theorem run_makeDiagram_of_error
    (hrun : (Pipeline.run { settings := some settings } a.source).outcome w = (.error failure, drawn)) :
    (makeDiagram a settings).run w =
      match failureMessage? failure with
      | some message => (stopWith 1 message).run drawn
      | none => ({ ending := .failed failure }, drawn) := by
  rw [makeDiagram, run_bind_run, hrun]
  dsimp only
  cases failureMessage? failure <;> rfl

theorem Loaded.run_perform_of_error (hloaded : Loaded a w logged settings)
    (hdrawing : a.drawing settings logged = (.error failure, drawn)) :
    (perform a).run w =
      match failureMessage? failure with
      | some message => (stopWith 1 message).run drawn
      | none => ({ ending := .failed failure }, drawn) :=
  hloaded.run_perform.trans (run_makeDiagram_of_error hdrawing)

theorem Loaded.run_perform_of_ok (hloaded : Loaded a w logged settings)
    (hdrawing : a.drawing settings logged = (.ok diagram, drawn)) :
    (perform a).run w = (deliver a diagram).run drawn :=
  hloaded.run_perform.trans (run_makeDiagram_of_ok hdrawing)

/-- The courses that a run can take, up to the delivery of its diagram. -/
inductive Course (a : Arguments) (w : Workspace) : Prop
  | logFails {failure : Failure} {w' : Workspace} (hlog : (setUpLog a).outcome w = (.error failure, w'))
      (hrun : (perform a).run w = ({ ending := .failed failure }, w'))
  | settingsFail {logged : Workspace} {error : SettingsError} (hlog : (setUpLog a).outcome w = (.ok (), logged))
      (hload : Settings.load logged.files (Path.parse a.source) = .error (.settings error))
      (hrun : (perform a).run w = (stopWith 1 (error.message ++ "\n")).run logged)
  | loadFails {logged : Workspace} {failure : Failure} (hlog : (setUpLog a).outcome w = (.ok (), logged))
      (hload : Settings.load logged.files (Path.parse a.source) = .error failure)
      (hother : ∀ error, failure ≠ .settings error)
      (hrun : (perform a).run w = ({ ending := .failed failure }, logged))
  | diagramFails {logged drawn : Workspace} {settings : Settings} {failure : Failure}
      (hloaded : Loaded a w logged settings) (hdrawing : a.drawing settings logged = (.error failure, drawn))
      (hrun : (perform a).run w =
        match failureMessage? failure with
        | some message => (stopWith 1 message).run drawn
        | none => ({ ending := .failed failure }, drawn))
  | delivers {logged drawn : Workspace} {settings : Settings} {diagram : String}
      (hloaded : Loaded a w logged settings) (hdrawing : a.drawing settings logged = (.ok diagram, drawn))
      (hrun : (perform a).run w = (deliver a diagram).run drawn)

/-- Every run takes one of the courses. Most statements about runs go by cases on them, with the equation for
each course at hand. -/
theorem course (a : Arguments) (w : Workspace) : Course a w := by
  rcases hlog : (setUpLog a).outcome w with ⟨started, logged⟩
  cases started with
  | error failure => exact .logFails hlog (run_perform_of_log_error hlog)
  | ok _ =>
    cases hload : Settings.load logged.files (Path.parse a.source) with
    | error failure =>
      by_cases hsettings : ∃ error, failure = .settings error
      · obtain ⟨error, rfl⟩ := hsettings
        exact .settingsFail hlog hload (run_perform_of_settings_error hlog hload)
      · have hother (error : SettingsError) : failure ≠ .settings error := fun h => hsettings ⟨error, h⟩
        exact .loadFails hlog hload hother (run_perform_of_load_error hlog hload hother)
    | ok settings =>
      have hloaded : Loaded a w logged settings := ⟨hlog, hload⟩
      rcases hdrawing : a.drawing settings logged with ⟨result, drawn⟩
      cases result with
      | error failure => exact .diagramFails hloaded hdrawing (hloaded.run_perform_of_error hdrawing)
      | ok diagram => exact .delivers hloaded hdrawing (hloaded.run_perform_of_ok hdrawing)

/-- A text is put into a file if there is a place for it. Where there is none, nothing is written and the
workspace stays as it is. -/
theorem outcome_writeText (p : Path) (text : String) (w : Workspace) :
    (Job.writeText p text).outcome w =
      match w.files.tree.placeForFile w.files.current p with
      | .error fault => (.error (.file ⟨fault, p.text⟩), w)
      | .ok place => (.ok (), w.put place (.file (Text.encodeUtf8 text))) := by
  rw [Job.writeText, Job.outcome_bind_of_ok (Job.outcome_get w)]
  cases w.files.tree.placeForFile w.files.current p <;> rfl

/-- The record of a diagram that was written to a file. -/
def written (p : Path) : Record where
  logger := loggerName "cli"
  level := .info
  message := "Diagram written to " ++ p.text

/-- A diagram goes to the standard output, or to the file that is asked for if it can be written. A file name
that was not given as one ends the run with a failure. -/
theorem run_deliver (a : Arguments) (diagram : String) (w : Workspace) :
    (deliver a diagram).run w =
      match a.output with
      | none => ({ ending := .exit 0, output := diagram ++ "\n" }, w)
      | some .nameless => ({ ending := .failed .outputNameless }, w)
      | some (.named target) =>
        match w.files.tree.placeForFile w.files.current (Path.parse target) with
        | .error fault =>
          (stopWith 1 ("ruml failed to write " ++ (Path.parse target).text ++ ": "
            ++ FileError.message ⟨fault, (Path.parse target).text⟩ ++ "\n")).run w
        | .ok place =>
          ({ ending := .exit 0 },
            (w.put place (.file (Text.encodeUtf8 (diagram ++ "\n")))).emit (written (Path.parse target))) := by
  rw [deliver]
  cases a.output with
  | none => rfl
  | some target =>
    cases target with
    | nameless => rfl
    | named target =>
      dsimp only
      rw [run_bind_run, outcome_writeText]
      cases w.files.tree.placeForFile w.files.current (Path.parse target) <;> rfl

end ClassDiagram.CommandLine
