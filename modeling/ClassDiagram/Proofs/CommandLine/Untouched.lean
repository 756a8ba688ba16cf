import ClassDiagram.Proofs.CommandLine.Delivery
import ClassDiagram.Proofs.Files.Untouched

namespace ClassDiagram

namespace CommandLine

variable {a : Arguments} {w logged : Workspace}

/-- The place of the log file that the arguments ask for. -/
def Arguments.logPlace? (a : Arguments) (files : FileSystem) : Option (List String) :=
  (a.logFile.bind Target.text?).map fun text => files.resolve (logPath files text)

/-- The place of the log file that a list of words asks for. Words that cannot be read ask for none. -/
def logPlaceOf? (words : List String) (files : FileSystem) : Option (List String) :=
  match Arguments.parse words with
  | .ok a => a.logPlace? files
  | .error _ => none

/-- The files after a step are those before it, except at the place of the log file. -/
structure SparesFiles (a : Arguments) (w after : Workspace) : Prop where
  tree : w.files.tree.AlikeExcept (a.logPlace? w.files) after.files.tree
  current : after.files.current = w.files.current

theorem sparesFiles_of_files_eq {after : Workspace} (hfiles : after.files = w.files) : SparesFiles a w after := by
  refine ⟨?_, by rw [hfiles]⟩
  rw [hfiles]
  exact .refl _ _

/-- A log file stands at the place that the arguments ask for: the place is worked out from the path alone where
the file system agrees that a file can stand there. -/
theorem logPlace?_of_placeForFile {text : String} {place : List String} (htext : a.logFile = some (.named text))
    (hplace : w.files.tree.placeForFile w.files.current (logPath w.files text) = .ok place) :
    a.logPlace? w.files = some place := by
  have hlocate := FileTree.locate_put_of_placeForFile hplace []
  rw [Arguments.logPlace?, htext, FileTree.eq_resolve_of_locate hlocate]
  rfl

theorem logPlace?_of_setUpLog {place : List String} (hlog : (setUpLog a).outcome w = (.ok (), logged))
    (hfile : logged.log.file = some place) : a.logPlace? w.files = some place := by
  obtain ⟨_, hname, hplace, _⟩ := opens_of_setUpLog hlog hfile
  exact logPlace?_of_placeForFile hname hplace

/-- Setting the log up makes the log file at most, also where it fails. -/
theorem sparesFiles_of_setUpLog {started : Except Failure Unit}
    (hlog : (setUpLog a).outcome w = (started, logged)) : SparesFiles a w logged := by
  cases starts hlog with
  | streams | nameless | refused => exact sparesFiles_of_files_eq rfl
  | opens hfile hplace =>
    refine ⟨?_, rfl⟩
    rw [logPlace?_of_placeForFile hfile hplace]
    exact FileTree.alikeExcept_put (.of_placeForFile hplace) _

/-- A log that is set up goes to no file but the one that is asked for, and that one is there. So whatever is
told later finds the file in its place. -/
theorem files_of_setUpLog (hlog : (setUpLog a).outcome w = (.ok (), logged)) {place : List String}
    (hmem : place ∈ logged.log.files) :
    a.logPlace? w.files = some place ∧ logged.files.tree.IsFileAt place := by
  rw [(isConfigured_of_setUpLog hlog).files_eq, Option.mem_toList] at hmem
  exact ⟨logPlace?_of_setUpLog hlog hmem, isFileAt_of_setUpLog hlog hmem⟩

/-- Records that are sent to the log once it is set up touch no other file, however many there are. -/
theorem sparesFiles_noteAll (hlog : (setUpLog a).outcome w = (.ok (), logged)) (records : List Record) :
    SparesFiles a w (logged.noteAll records) := by
  have hlogged := sparesFiles_of_setUpLog hlog
  refine ⟨?_, by rw [Workspace.noteAll_current, hlogged.current]⟩
  exact hlogged.tree.trans (Workspace.alikeExcept_noteAll (fun _ => files_of_setUpLog hlog) records)

/-- Making a diagram does nothing to the files but to send records to the log, whether or not there is a diagram
in the end. -/
theorem Loaded.sparesFiles {settings : Settings} {result : Except Failure String} {drawn : Workspace}
    (hloaded : Loaded a w logged settings) (hdrawing : a.drawing settings logged = (result, drawn)) :
    SparesFiles a w drawn := by
  obtain ⟨result', records, hrun, _⟩ := Pipeline.outcome_run (some (a.override settings)) a.source logged
  cases hdrawing.symm.trans hrun
  exact sparesFiles_noteAll hloaded.log records

/-- A run that ends without a diagram shows nothing and spares the files. -/
structure EndsBare (a : Arguments) (w : Workspace) (ended : Result × Workspace) : Prop where
  output : ended.1.output = ""
  files : SparesFiles a w ended.2

theorem endsBare_stopWith {after : Workspace} (hspares : SparesFiles a w after) (status : Nat)
    (message : String) : EndsBare a w ((stopWith status message).run after) := by
  rw [run_stopWith]
  exact ⟨rfl, hspares.tree, hspares.current⟩

/-- A delivery fails only where the output file has no name or cannot be written, and in both cases before
anything of it is written. -/
theorem endsBare_deliver {drawn : Workspace} {diagram : String} (hspares : SparesFiles a w drawn)
    (hfailed : ((deliver a diagram).run drawn).1.ending ≠ .exit 0) :
    EndsBare a w ((deliver a diagram).run drawn) := by
  rw [run_deliver] at hfailed ⊢
  cases houtput : a.output with
  | none => simp [houtput] at hfailed
  | some target =>
    cases target with
    | nameless => exact ⟨rfl, hspares⟩
    | named target =>
      rw [houtput] at hfailed
      dsimp only at hfailed ⊢
      split at hfailed
      · exact endsBare_stopWith hspares _ _
      · exact absurd rfl hfailed

/-- Each course of a run that does not end with status 0 shows nothing and spares the files; the only course
that writes is the one that succeeds. -/
theorem endsBare_perform (hfailed : ((perform a).run w).1.ending ≠ .exit 0) :
    EndsBare a w ((perform a).run w) := by
  cases course a w with
  | logFails hlog hrun =>
    rw [hrun]
    exact ⟨rfl, sparesFiles_of_setUpLog hlog⟩
  | settingsFail hlog _ hrun =>
    rw [hrun]
    exact endsBare_stopWith (sparesFiles_of_setUpLog hlog) _ _
  | loadFails hlog _ _ hrun =>
    rw [hrun]
    exact ⟨rfl, sparesFiles_of_setUpLog hlog⟩
  | diagramFails hloaded hdrawing hrun =>
    have hspares := hloaded.sparesFiles hdrawing
    rw [hrun]
    split
    · exact endsBare_stopWith hspares _ _
    · exact ⟨rfl, hspares⟩
  | delivers hloaded hdrawing hrun =>
    rw [hrun] at hfailed ⊢
    exact endsBare_deliver (hloaded.sparesFiles hdrawing) hfailed

/-- The current directory stays the same in a run, so that a path given on the command line leads to one place
from the start of the run to its end. -/
theorem current_perform (a : Arguments) (w : Workspace) :
    ((perform a).run w).2.files.current = w.files.current := by
  cases course a w with
  | logFails hlog hrun | settingsFail hlog _ hrun | loadFails hlog _ _ hrun =>
    rw [hrun]
    exact (sparesFiles_of_setUpLog hlog).current
  | diagramFails hloaded hdrawing hrun =>
    have hcurrent := (hloaded.sparesFiles hdrawing).current
    rw [hrun]
    split <;> exact hcurrent
  | delivers hloaded hdrawing hrun =>
    have hcurrent := (hloaded.sparesFiles hdrawing).current
    rw [hrun, run_deliver]
    split
    · exact hcurrent
    · exact hcurrent
    · split <;> exact hcurrent

/-- A run that does not succeed shows nothing on the standard output, whatever its arguments are. It leaves all
files and directories as they were, none made and none gone, except at the place of the log file; so every path
that does not lead there, that of the output file among them, finds what it found before. Every exit is reached
by setting the log up and by sending records to it, and neither touches another file. -/
theorem run_failed_untouched {words : List String} {w : Workspace}
    (hfailed : ((run words).run w).1.ending ≠ .exit 0) :
    ((run words).run w).1.output = "" ∧
      w.files.tree.AlikeExcept (logPlaceOf? words w.files) ((run words).run w).2.files.tree ∧
      ∀ p : Path, logPlaceOf? words w.files ≠ some (w.files.resolve p) →
        (((run words).run w).2.files.lookup? p).map FileTree.content =
          (w.files.lookup? p).map FileTree.content := by
  cases hparse : Arguments.parse words with
  | ok a =>
    rw [run_of_parse hparse] at hfailed ⊢
    obtain ⟨houtput, htree, hcurrent⟩ := endsBare_perform hfailed
    have hplace : logPlaceOf? words w.files = a.logPlace? w.files := by rw [logPlaceOf?, hparse]
    rw [hplace]
    refine ⟨houtput, htree, fun p hp => ?_⟩
    rw [FileSystem.lookup?, FileSystem.lookup?, hcurrent]
    exact htree.lookup?_eq hp
  | error stop =>
    cases stop with
    | help =>
      rw [run, hparse] at hfailed
      exact absurd rfl hfailed
    | version =>
      rw [run, hparse] at hfailed
      exact absurd rfl hfailed
    | usage error =>
      have hrun : (run words).run w = (stopWith 2 (usageErrorText error)).run w := by rw [run, hparse]
      rw [hrun, run_stopWith]
      exact ⟨rfl, .refl _ _, fun _ _ => rfl⟩

/-- A source that cannot be parsed, `struct`, beside a file that holds an older diagram. -/
def brokenBesideOutput : Workspace where
  files.tree := .directory [("lib.rs", .file [0x73, 0x74, 0x72, 0x75, 0x63, 0x74]), ("out.txt", .file [0x40])]

/-- The older diagram stays in the output file of a run whose source cannot be parsed. -/
theorem run_brokenBesideOutput :
    ((run ["lib.rs", "-o", "out.txt", "--log-file", "log.txt"]).run brokenBesideOutput).1.ending ≠ .exit 0 ∧
      ((run ["lib.rs", "-o", "out.txt", "--log-file", "log.txt"]).run brokenBesideOutput).1.output = "" ∧
      (((run ["lib.rs", "-o", "out.txt", "--log-file", "log.txt"]).run brokenBesideOutput).2.files.lookup?
        (Path.parse "out.txt")).map FileTree.content = some (some [0x40]) := by
  have hfailed :
      ((run ["lib.rs", "-o", "out.txt", "--log-file", "log.txt"]).run brokenBesideOutput).1.ending ≠ .exit 0 := by
    intro hexit
    have hsuccess := congrArg Ending.isSuccess hexit
    revert hsuccess
    decide +kernel
  obtain ⟨houtput, _, hpaths⟩ := run_failed_untouched hfailed
  exact ⟨hfailed, houtput, (hpaths (Path.parse "out.txt") (by decide +kernel)).trans (by decide +kernel)⟩

end CommandLine

end ClassDiagram
