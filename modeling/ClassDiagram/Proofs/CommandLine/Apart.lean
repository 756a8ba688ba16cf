import ClassDiagram.Proofs.CommandLine.Ending
import ClassDiagram.Proofs.CommandLine.Untouched
import ClassDiagram.Proofs.Pipeline.Apart

namespace ClassDiagram.CommandLine

/-- The log file that the arguments ask for, if they ask for one, can be opened, and it is neither the input, nor
inside the directory of the input, nor the output file. -/
structure Arguments.LogIsApart (a : Arguments) (files : FileSystem) : Prop where
  opens : ∀ target ∈ a.logFile, ∃ text place, target = .named text ∧
    files.tree.placeForFile files.current (logPath files text) = .ok place
  notInput : ∀ place ∈ a.logPlace? files, files.IsApart (Path.parse a.source) place
  notOutput : ∀ place ∈ a.logPlace? files, ∀ target, a.output = some (.named target) →
    files.resolve (Path.parse target) ≠ place

/-- What becomes of a diagram: it is shown, or put into the output file. -/
def Arguments.delivered (a : Arguments) (diagram : String) (files : FileSystem) : Result × FileTree :=
  match a.output with
  | none => ({ ending := .exit 0, output := diagram ++ "\n" }, files.tree)
  | some .nameless => ({ ending := .failed .outputNameless }, files.tree)
  | some (.named target) =>
    match files.tree.placeForFile files.current (Path.parse target) with
    | .error _ => ({ ending := .exit 1 }, files.tree)
    | .ok place => ({ ending := .exit 0 }, files.tree.put place (.file (Text.encodeUtf8 (diagram ++ "\n"))))

/-- How a run ends and what it shows, and the files that it leaves, as if nothing were told in between. -/
def Arguments.performed (a : Arguments) (files : FileSystem) (plugins : List Plugin) : Result × FileTree :=
  match Settings.load files (Path.parse a.source) with
  | .error (.settings _) => ({ ending := .exit 1 }, files.tree)
  | .error failure => ({ ending := .failed failure }, files.tree)
  | .ok settings =>
    match Pipeline.diagramOf (a.override settings) a.source files plugins with
    | .error failure =>
      ({ ending := if (failureMessage? failure).isSome then .exit 1 else .failed failure }, files.tree)
    | .ok diagram => a.delivered diagram files

/-- A run gives a result, and leaves files as told, except at one place. -/
structure EndsAs (spared : Option (List String)) (ended : Result × Workspace) (told : Result × FileTree) : Prop where
  result : ended.1 = told.1
  tree : told.2.AlikeExcept spared ended.2.files.tree

variable {a : Arguments} {w logged drawn : Workspace} {spared : Option (List String)} {diagram : String}

/-- A log file that is apart can be opened, so the log is always set up and the run goes on to the settings. -/
theorem exists_setUpLog (hlog : a.LogIsApart w.files) : ∃ logged, (setUpLog a).outcome w = (.ok (), logged) := by
  cases hfile : a.logFile with
  | none => exact ⟨_, (Starts.streams hfile).outcome⟩
  | some target =>
    obtain ⟨text, place, rfl, hplace⟩ := hlog.opens target hfile
    exact ⟨_, (Starts.opens hfile hplace).outcome⟩

theorem home_of_setUpLog (hlog : (setUpLog a).outcome w = (.ok (), logged)) :
    logged.files.home = w.files.home := by
  cases starts hlog with
  | streams | opens => rfl

theorem users_of_setUpLog (hlog : (setUpLog a).outcome w = (.ok (), logged)) :
    logged.files.users = w.files.users := by
  cases starts hlog with
  | streams | opens => rfl

/-- Opening the log file puts at most one file into the tree, which replaces a file of its name or is the only
one of it. -/
theorem namesDistinct_of_setUpLog (hlog : (setUpLog a).outcome w = (.ok (), logged))
    (hdistinct : w.files.tree.NamesDistinct) : logged.files.tree.NamesDistinct := by
  cases starts hlog with
  | streams => exact hdistinct
  | opens => exact hdistinct.put (.file _) _

/-- Once the log is set up, nothing that is told changes other files than the log file. The files differ from
those at the start at this one place at most. -/
theorem alikeExcept_of_setUpLog (hlog : (setUpLog a).outcome w = (.ok (), logged))
    (hproper : w.files.IsProper) (records : List Record) :
    w.files.AlikeExcept (a.logPlace? w.files) (logged.noteAll records).files := by
  have hspares := sparesFiles_noteAll hlog records
  refine ⟨hspares.tree, hspares.current, ?_, ?_, ?_⟩
  · rw [Workspace.noteAll_home, home_of_setUpLog hlog]
  · rw [Workspace.noteAll_users, users_of_setUpLog hlog]
  · exact Workspace.namesDistinct_noteAll (namesDistinct_of_setUpLog hlog hproper.distinct) records

/-- A run that stops with a message shows the message on the error stream only; the files are those that it has
met. -/
theorem endsAs_stopWith (halike : w.files.tree.AlikeExcept spared drawn.files.tree) (status : Nat)
    (message : String) :
    EndsAs spared ((stopWith status message).run drawn) ({ ending := .exit status }, w.files.tree) := by
  rw [run_stopWith]
  exact ⟨rfl, halike⟩

/-- A diagram is delivered as if the log were not there, if the output file is not the log file. The record
about the delivered file is the last that is told, and it goes to the log file alone. -/
theorem endsAs_deliver (halike : w.files.AlikeExcept spared drawn.files)
    (hfiles : ∀ names ∈ drawn.log.files, spared = some names ∧ drawn.files.tree.IsFileAt names)
    (houtput : ∀ target, a.output = some (.named target) → spared ≠ some (w.files.resolve (Path.parse target))) :
    EndsAs spared ((deliver a diagram).run drawn) (a.delivered diagram w.files) := by
  rw [run_deliver, Arguments.delivered]
  cases htarget : a.output with
  | none => exact ⟨rfl, halike.tree⟩
  | some target =>
    cases target with
    | nameless => exact ⟨rfl, halike.tree⟩
    | named target =>
      have hne := houtput target htarget
      dsimp only
      rw [halike.current]
      cases hplace : w.files.tree.placeForFile w.files.current (Path.parse target) with
      | error fault =>
        cases hplace' : drawn.files.tree.placeForFile w.files.current (Path.parse target) with
        | error fault' => exact endsAs_stopWith halike.tree _ _
        | ok place =>
          have hspared : spared ≠ some place := by rwa [← FileTree.resolve_of_placeForFile hplace']
          rw [halike.tree.symm.placeForFile_eq_ok hplace' hspared] at hplace
          cases hplace
      | ok place =>
        have hspared : spared ≠ some place := by rwa [← FileTree.resolve_of_placeForFile hplace]
        have hplace' := halike.tree.placeForFile_eq_ok hplace hspared
        rw [hplace']
        refine ⟨rfl, ?_⟩
        dsimp only
        have hput := halike.tree.put (.of_placeForFile hplace) (.of_placeForFile hplace')
          (Text.encodeUtf8 (diagram ++ "\n"))
        have hstands (names : List String) (hnames : names ∈ drawn.log.files) :
            spared = some names ∧ ((drawn.files.tree.put place (.file (Text.encodeUtf8 (diagram ++ "\n")))).IsFileAt
              names) := by
          obtain ⟨rfl, held, hheld⟩ := hfiles names hnames
          have hapart : names ≠ place := fun hsame => hspared (congrArg some hsame)
          exact ⟨rfl, held, FileTree.get?_put_of_file (.of_placeForFile hplace') hheld hapart⟩
        have hnotes := Workspace.alikeExcept_noteAll (w := drawn.put place _) hstands [written (Path.parse target)]
        exact hput.trans hnotes

/-- Settings are loaded as if the log were not there: the log file is neither the settings file nor a part of
the path to it. -/
theorem load_of_setUpLog (hproper : w.files.IsProper) (hapart : a.LogIsApart w.files)
    (hlog : (setUpLog a).outcome w = (.ok (), logged)) :
    Settings.load logged.files (Path.parse a.source) = Settings.load w.files (Path.parse a.source) :=
  (alikeExcept_of_setUpLog hlog hproper []).load_eq hproper hapart.notInput

/-- The input becomes what it would become without a log, and only records are added. The diagram is told by the
files and plugins through `Pipeline.diagramOf`, which knows of no log at all. -/
theorem Loaded.eq_diagramOf {settings : Settings} (hloaded : Loaded a w logged settings) (hproper : w.files.IsProper)
    (hapart : a.LogIsApart w.files) {result : Except Failure String}
    (hdrawing : a.drawing settings logged = (result, drawn)) :
    Settings.load w.files (Path.parse a.source) = .ok settings ∧
      result = Pipeline.diagramOf (a.override settings) a.source w.files w.plugins ∧
      ∃ records, drawn = logged.noteAll records := by
  obtain ⟨result', records, hrun, hends⟩ := Pipeline.outcome_run (some (a.override settings)) a.source logged
  cases hdrawing.symm.trans hrun
  have halike := alikeExcept_of_setUpLog hloaded.log hproper
  have hresult := hends.eq_diagramOf hproper halike hapart.notInput
  rw [plugins_of_setUpLog hloaded.log] at hresult
  exact ⟨(load_of_setUpLog hproper hapart hloaded.log).symm.trans hloaded.load, hresult, records, rfl⟩

/-- A run whose log file is apart from all that it reads and writes ends as if there were none: how it ends,
what it shows and what it leaves in the output file is told by the arguments, the files and the plugins. -/
theorem endsAs_perform (hproper : w.files.IsProper) (hlog : a.LogIsApart w.files) :
    EndsAs (a.logPlace? w.files) ((perform a).run w) (a.performed w.files w.plugins) := by
  cases course a w with
  | logFails hfails _ =>
    obtain ⟨logged, hlogged⟩ := exists_setUpLog hlog
    cases hlogged.symm.trans hfails
  | settingsFail hlogged hload hrun =>
    have halike := alikeExcept_of_setUpLog hlogged hproper []
    rw [load_of_setUpLog hproper hlog hlogged] at hload
    rw [hrun, Arguments.performed, hload]
    exact endsAs_stopWith halike.tree _ _
  | @loadFails _ failure hlogged hload hother hrun =>
    have halike := alikeExcept_of_setUpLog hlogged hproper []
    rw [load_of_setUpLog hproper hlog hlogged] at hload
    rw [hrun, Arguments.performed, hload]
    cases failure with
    | settings error => exact absurd rfl (hother error)
    | _ => exact ⟨rfl, halike.tree⟩
  | @diagramFails _ _ _ failure hloaded hdrawing hrun =>
    obtain ⟨hload, hresult, records, rfl⟩ := hloaded.eq_diagramOf hproper hlog hdrawing
    have halike := alikeExcept_of_setUpLog hloaded.log hproper records
    rw [hrun, Arguments.performed, hload]
    dsimp only
    rw [← hresult]
    dsimp only
    cases failureMessage? failure with
    | none => exact ⟨rfl, halike.tree⟩
    | some message => exact endsAs_stopWith halike.tree _ _
  | delivers hloaded hdrawing hrun =>
    obtain ⟨hload, hresult, records, rfl⟩ := hloaded.eq_diagramOf hproper hlog hdrawing
    rw [hrun, Arguments.performed, hload]
    dsimp only
    rw [← hresult]
    refine endsAs_deliver (alikeExcept_of_setUpLog hloaded.log hproper records) (fun names hnames => ?_)
      fun target htarget hsame => ?_
    · rw [Workspace.noteAll_log_files] at hnames
      obtain ⟨hplace, hthere⟩ := files_of_setUpLog hloaded.log hnames
      exact ⟨hplace, Workspace.isFileAt_noteAll (fun _ hmem => (files_of_setUpLog hloaded.log hmem).2) hthere records⟩
    · exact hlog.notOutput _ hsame target htarget rfl

end ClassDiagram.CommandLine
