import ClassDiagram.Proofs.CommandLine.Apart
import ClassDiagram.Proofs.CommandLine.LogSwitches

namespace ClassDiagram.CommandLine

/-- The arguments without what they ask of the log. -/
def Arguments.unlogged (a : Arguments) : Arguments :=
  { a with verbose := false, logFile := none }

variable {a a' : Arguments} {w : Workspace}

/-- What a run does apart from the log is told by the arguments without what they ask of the log, so it may be
replaced by the run for any that agree so far. -/
theorem performed_congr (hsame : a'.unlogged = a.unlogged) : a'.performed = a.performed := by
  obtain ⟨⟩ := a
  obtain ⟨⟩ := a'
  cases hsame
  rfl

/-- Two runs end the same way, show the same, and leave files that read the same. -/
structure EndsAlike (ended ended' : Result × Workspace) : Prop where
  result : ended'.1 = ended.1
  after : ended.2.Agrees (fun _ => True) ended'.2

/-- How much the error stream shows makes no difference to the files. Two set-ups with the same log file succeed
or fail together, and what is told afterwards goes to the same places. -/
theorem agrees_setUpLog (hfile : a'.logFile = a.logFile) {started : Except Failure Unit} {logged : Workspace}
    (hlog : (setUpLog a).outcome w = (started, logged)) :
    ∃ logged', (setUpLog a').outcome w = (started, logged') ∧ logged'.files = logged.files ∧
      logged.Agrees (fun _ => True) logged' := by
  have hfiled {limit limit' : Level} {place : Option (List String)} {log log' : Log}
      (hset : log.IsConfigured limit place) (hset' : log'.IsConfigured limit' place) : log.filed = log'.filed := by
    funext clock r
    rw [hset.filed_eq, hset'.filed_eq]
  have hstreamed : (a.streamed w).Agrees (fun _ => True) (a'.streamed w) :=
    ⟨hfiled (isConfigured_streamed a w) (isConfigured_streamed a' w), rfl, rfl, rfl, rfl, rfl, fun _ => rfl,
      fun _ _ => rfl⟩
  cases starts hlog with
  | streams hnone => exact ⟨_, (Starts.streams (hfile.trans hnone)).outcome, rfl, hstreamed⟩
  | nameless hname => exact ⟨_, (Starts.nameless (hfile.trans hname)).outcome, rfl, hstreamed⟩
  | refused hname hplace => exact ⟨_, (Starts.refused (hfile.trans hname) hplace).outcome, rfl, hstreamed⟩
  | @opens text place hname hplace =>
    have hname' := hfile.trans hname
    exact ⟨_, (Starts.opens hname' hplace).outcome, rfl,
      hfiled (isConfigured_attached hname w place) (isConfigured_attached hname' w place), rfl, rfl, rfl, rfl, rfl,
      fun _ => rfl, fun _ _ => rfl⟩

variable {v v' : Workspace}

/-- Runs that stop with the same message end alike if they stopped in workspaces that agree; the message goes to
the error stream, which is not compared. -/
theorem endsAlike_stopWith (hagrees : v.Agrees (fun _ => True) v') (status : Nat) (message : String) :
    EndsAlike ((stopWith status message).run v) ((stopWith status message).run v') := by
  rw [run_stopWith, run_stopWith]
  exact ⟨rfl, hagrees.filed, hagrees.clock, hagrees.plugins, hagrees.current, hagrees.home, hagrees.users,
    hagrees.paths, hagrees.bytes⟩

/-- Delivering one diagram in workspaces that agree ends the same way and writes the same file, since the output
file is asked for by both. -/
theorem endsAlike_deliver (hagrees : v.Agrees (fun _ => True) v') (houtput : a'.output = a.output)
    (diagram : String) : EndsAlike ((deliver a diagram).run v) ((deliver a' diagram).run v') := by
  rw [run_deliver, run_deliver, houtput]
  cases a.output with
  | none => exact ⟨rfl, hagrees⟩
  | some target =>
    cases target with
    | nameless => exact ⟨rfl, hagrees⟩
    | named target =>
      dsimp only
      rw [← hagrees.current, hagrees.paths.placeForFile_eq]
      cases v'.files.tree.placeForFile v.files.current (Path.parse target) with
      | error fault => exact endsAlike_stopWith hagrees _ _
      | ok place => exact ⟨rfl, (hagrees.put place _).emit _⟩

/-- With the same log file the same settings are loaded, and the input becomes the same. Every file may be read
on the way, the log file too, because its lines are the same in both runs. -/
theorem Loaded.agrees_drawing {settings : Settings} (hloaded : Loaded a w v settings) (hsame : a'.unlogged = a.unlogged)
    (hfile : a'.logFile = a.logFile) {result : Except Failure String} {drawn : Workspace}
    (hdrawing : a.drawing settings v = (result, drawn)) :
    ∃ v' drawn', Loaded a' w v' settings ∧ a'.drawing settings v' = (result, drawn') ∧
      drawn.Agrees (fun _ => True) drawn' := by
  have hsource : a'.source = a.source := (congrArg Arguments.source hsame :)
  have hoverride : a'.override = a.override := (congrArg Arguments.override hsame :)
  obtain ⟨v', hlog', hfiles, hagrees⟩ := agrees_setUpLog hfile hloaded.log
  have hsources : Pipeline.sourcesBelow v.files = Pipeline.sourcesBelow v'.files := by rw [hfiles]
  have hruns : (a.drawing settings v).1 = (a.drawing settings v').1 ∧
      (a.drawing settings v).2.Agrees (fun _ => True) (a.drawing settings v').2 :=
    Pipeline.agreesIn_run (fun _ _ => trivial) hagrees hsources
  have hdrawing' : a'.drawing settings v' = a.drawing settings v' := by
    rw [Arguments.drawing, Arguments.drawing, hsource, hoverride]
  rw [hdrawing, ← hdrawing'] at hruns
  refine ⟨v', (a'.drawing settings v').2, ⟨hlog', ?_⟩, Prod.ext hruns.1.symm rfl, hruns.2⟩
  rw [hfiles, hsource, hloaded.load]

/-- Runs that ask for the same log file are alike, whatever file it is. Even if it is the input, both spoil it
with the same lines. -/
theorem endsAlike_perform (hsame : a'.unlogged = a.unlogged) (hfile : a'.logFile = a.logFile) (w : Workspace) :
    EndsAlike ((perform a).run w) ((perform a').run w) := by
  have hsource : a'.source = a.source := (congrArg Arguments.source hsame :)
  have houtput : a'.output = a.output := (congrArg Arguments.output hsame :)
  cases course a w with
  | logFails hlog hrun =>
    obtain ⟨v', hlog', _, hagrees⟩ := agrees_setUpLog hfile hlog
    rw [hrun, run_perform_of_log_error hlog']
    exact ⟨rfl, hagrees⟩
  | settingsFail hlog hload hrun =>
    obtain ⟨v', hlog', hfiles, hagrees⟩ := agrees_setUpLog hfile hlog
    rw [← hfiles, ← hsource] at hload
    rw [hrun, run_perform_of_settings_error hlog' hload]
    exact endsAlike_stopWith hagrees _ _
  | loadFails hlog hload hother hrun =>
    obtain ⟨v', hlog', hfiles, hagrees⟩ := agrees_setUpLog hfile hlog
    rw [← hfiles, ← hsource] at hload
    rw [hrun, run_perform_of_load_error hlog' hload hother]
    exact ⟨rfl, hagrees⟩
  | @diagramFails _ drawn settings failure hloaded hdrawing hrun =>
    obtain ⟨v', drawn', hloaded', hdrawing', hdrawn⟩ := hloaded.agrees_drawing hsame hfile hdrawing
    rw [hrun, hloaded'.run_perform_of_error hdrawing']
    cases failureMessage? failure with
    | none => exact ⟨rfl, hdrawn⟩
    | some message => exact endsAlike_stopWith hdrawn _ _
  | delivers hloaded hdrawing hrun =>
    obtain ⟨v', drawn', hloaded', hdrawing', hdrawn⟩ := hloaded.agrees_drawing hsame hfile hdrawing
    rw [hrun, hloaded'.run_perform_of_ok hdrawing']
    exact endsAlike_deliver hdrawn houtput _

/-- What a run shows is nothing, or the text that a renderer makes of entities. No record is ever part of it,
for records go to the error stream and to files. -/
theorem output_cases (a : Arguments) (w : Workspace) :
    ((perform a).run w).1.output = "" ∨ ∃ settings renderer entities,
      Pipeline.rendererNamed w.plugins settings = .ok renderer ∧
      ((perform a).run w).1.output = renderer.render entities ++ "\n" := by
  by_cases hexit : ((perform a).run w).1.ending = .exit 0
  · obtain ⟨logged, settings, diagram, drawn, hloaded, hdrawing, hperform⟩ := exists_drawing_of_exit hexit
    obtain ⟨result, records, hrun, hends⟩ := Pipeline.outcome_run (some (a.override settings)) a.source logged
    cases hdrawing.symm.trans hrun
    rw [hperform, run_deliver]
    split
    · cases hends with
      | drawn hchosen hhome hfinds hunits hrenderer =>
        rw [plugins_of_setUpLog hloaded.log] at hrenderer
        exact .inr ⟨_, _, _, hrenderer, rfl⟩
    · exact .inl rfl
    · split <;> exact .inl rfl
  · exact .inl (endsBare_perform hexit).output

/-- What is asked of the log changes neither how a run ends nor what it shows nor what it writes. Arguments that
differ in nothing else, such as those with switches for the log in front of them, lead to the same result and to
the same files: to all of them where the log file is the same, and else, if both log files are apart from the
input and the output file, to all but these two. The standard output gets nothing or what a renderer makes, and
no record. -/
theorem run_relogged {words words' : List String} (hparse : Arguments.parse words = .ok a)
    (hparse' : Arguments.parse words' = .ok a') (hsame : a'.unlogged = a.unlogged)
    (hlog : a'.logFile = a.logFile ∨ a.LogIsApart w.files ∧ a'.LogIsApart w.files)
    (hproper : w.files.IsProper) :
    (∀ isVerbose text, Arguments.parse (logSwitches isVerbose text ++ words) =
        .ok (a.addLog isVerbose (text.map Target.ofValue)) ∧
        (a.addLog isVerbose (text.map Target.ofValue)).unlogged = a.unlogged) ∧
      ((run words').run w).1 = ((run words).run w).1 ∧
      (∀ target, a.output = some (.named target) →
        (((run words').run w).2.files.lookup? (Path.parse target)).map FileTree.content =
          (((run words).run w).2.files.lookup? (Path.parse target)).map FileTree.content) ∧
      (∀ p : Path, (a'.logFile = a.logFile ∨ a.logPlace? w.files ≠ some (w.files.resolve p) ∧
          a'.logPlace? w.files ≠ some (w.files.resolve p)) →
        (((run words').run w).2.files.lookup? p).map FileTree.content =
          (((run words).run w).2.files.lookup? p).map FileTree.content) ∧
      (((run words).run w).1.output = "" ∨ ∃ settings renderer entities,
        Pipeline.rendererNamed w.plugins settings = .ok renderer ∧
        ((run words).run w).1.output = renderer.render entities ++ "\n") ∧
      (a.LogIsApart w.files → ((run words).run w).1 = (a.performed w.files w.plugins).1) := by
  have houtput : a'.output = a.output := (congrArg Arguments.output hsame :)
  rw [run_of_parse hparse, run_of_parse hparse']
  have hresult : ((perform a').run w).1 = ((perform a).run w).1 := by
    rcases hlog with hfile | ⟨hlog, hlog'⟩
    · exact (endsAlike_perform hsame hfile w).result
    · rw [(endsAs_perform hproper hlog').result, (endsAs_perform hproper hlog).result, performed_congr hsame]
  have hfiles (p : Path) (hp : a'.logFile = a.logFile ∨ a.logPlace? w.files ≠ some (w.files.resolve p) ∧
      a'.logPlace? w.files ≠ some (w.files.resolve p)) :
      (((perform a').run w).2.files.lookup? p).map FileTree.content =
        (((perform a).run w).2.files.lookup? p).map FileTree.content := by
    by_cases hfile : a'.logFile = a.logFile
    · exact (endsAlike_perform hsame hfile w).after.lookup?_eq p
    · obtain ⟨hlog, hlog'⟩ := hlog.resolve_left hfile
      obtain ⟨hplace, hplace'⟩ := hp.resolve_left hfile
      have hends := (endsAs_perform hproper hlog).tree.lookup?_eq hplace
      have hends' := (endsAs_perform hproper hlog').tree.lookup?_eq hplace'
      rw [performed_congr hsame] at hends'
      rw [FileSystem.lookup?, FileSystem.lookup?, current_perform, current_perform, hends, hends']
  refine ⟨fun isVerbose text => ⟨?_, rfl⟩, hresult, fun target htarget => hfiles _ ?_, hfiles, output_cases a w,
    fun hlog => (endsAs_perform hproper hlog).result⟩
  · rw [Arguments.parse_logSwitches, hparse]
    rfl
  · refine hlog.imp_right fun hapart => ⟨fun hplace => ?_, fun hplace => ?_⟩
    · exact hapart.1.notOutput _ hplace target htarget rfl
    · exact hapart.2.notOutput _ hplace target (houtput.trans htarget) rfl

/-- A source in a directory of its own, which declares one type. -/
def sourceInDirectory : Workspace where
  files.tree := .directory [("src", .directory [("lib.rs", .file (Text.encodeUtf8 "struct A;\n"))])]

theorem sourceInDirectory_isProper : sourceInDirectory.files.IsProper :=
  FileSystem.isProper_of_listsAll rfl List.not_mem_nil

/-- Arguments for this source that ask for an output file. -/
def intoOutput : Arguments :=
  { input := some "src/lib.rs", output := some (.named "out.txt") }

/-- A log file beside the directory of the source is apart: it is neither the source nor below its directory,
and no output file has its name. -/
theorem logIsApart_beside {a : Arguments} (hinput : a.input = some "src/lib.rs")
    (hlog : a.logFile = some (.named "run.log"))
    (houtput : ∀ target, a.output = some (.named target) → target = "out.txt") :
    a.LogIsApart sourceInDirectory.files := by
  have hplace : a.logPlace? sourceInDirectory.files = some ["run.log"] := by
    rw [Arguments.logPlace?, hlog]
    decide +kernel
  have hsource : a.source = "src/lib.rs" := by rw [Arguments.source, hinput]; rfl
  refine ⟨fun target htarget => ?_, fun place hmem => ?_, fun place hmem target htarget => ?_⟩
  · cases hlog.symm.trans htarget
    exact ⟨"run.log", ["run.log"], rfl, eq_ok_of_toOption (by decide +kernel)⟩
  · cases hplace.symm.trans hmem
    rw [hsource]
    refine ⟨fun p hhome => ?_, fun root hroot below _ => ?_⟩
    · have hhome' : sourceInDirectory.files.expandHome (Path.parse "src/lib.rs") =
          .ok ⟨false, ["src", "lib.rs"]⟩ := rfl
      cases hhome'.symm.trans hhome
      decide
    · have hroot' : Settings.directoryFor sourceInDirectory.files (Path.parse "src/lib.rs") = .ok ["src"] := rfl
      cases hroot'.symm.trans hroot
      simp
  · cases hplace.symm.trans hmem
    rw [houtput target htarget]
    decide +kernel

/-- With more told and a log file beside the directory, the run ends and writes what it does without them. -/
theorem run_sourceInDirectory :
    Arguments.parse ["src/lib.rs", "-o", "out.txt"] = .ok intoOutput ∧
      Arguments.parse ["-v", "src/lib.rs", "--log-file", "run.log", "-o", "out.txt"] =
        .ok (intoOutput.addLog true (some (.named "run.log"))) ∧
      (intoOutput.addLog true (some (.named "run.log"))).LogIsApart sourceInDirectory.files ∧
      sourceInDirectory.files.IsProper ∧
      ((run ["-v", "src/lib.rs", "--log-file", "run.log", "-o", "out.txt"]).run sourceInDirectory).1 =
        ((run ["src/lib.rs", "-o", "out.txt"]).run sourceInDirectory).1 := by
  have hparse : Arguments.parse ["src/lib.rs", "-o", "out.txt"] = .ok intoOutput := rfl
  have hparse' : Arguments.parse ["-v", "src/lib.rs", "--log-file", "run.log", "-o", "out.txt"] =
      .ok (intoOutput.addLog true (some (.named "run.log"))) := rfl
  have hlog : intoOutput.LogIsApart sourceInDirectory.files := ⟨nofun, nofun, nofun⟩
  have hlog' : (intoOutput.addLog true (some (.named "run.log"))).LogIsApart sourceInDirectory.files :=
    logIsApart_beside rfl rfl fun target htarget => by cases htarget; rfl
  have hruns := run_relogged hparse hparse' rfl (.inr ⟨hlog, hlog'⟩) sourceInDirectory_isProper
  exact ⟨hparse, hparse', hlog', sourceInDirectory_isProper, hruns.2.1⟩

/-- Arguments whose log file is the source. -/
def intoSource : Arguments :=
  { input := some "src/lib.rs", logFile := some (.named "src/lib.rs") }

/-- Records that go to the source itself spoil it. A log file that is named after it takes them away, so that
the run succeeds with it and does not without it. -/
theorem run_into_source :
    Arguments.parse ["src/lib.rs", "--log-file", "src/lib.rs"] = .ok intoSource ∧
      Arguments.parse ["src/lib.rs", "--log-file", "src/lib.rs", "--log-file", "run.log"] =
        .ok { intoSource with logFile := some (.named "run.log") } ∧
      Arguments.LogIsApart { intoSource with logFile := some (.named "run.log") } sourceInDirectory.files ∧
      sourceInDirectory.files.IsProper ∧
      ((run ["src/lib.rs", "--log-file", "src/lib.rs", "--log-file", "run.log"]).run sourceInDirectory).1.ending =
        .exit 0 ∧
      ((run ["src/lib.rs", "--log-file", "src/lib.rs"]).run sourceInDirectory).1.ending ≠ .exit 0 := by
  refine ⟨rfl, rfl, logIsApart_beside rfl rfl nofun, sourceInDirectory_isProper,
    eq_exit_of_isSuccess (by decide +kernel), fun hexit => ?_⟩
  have hsuccess := congrArg Ending.isSuccess hexit
  revert hsuccess
  decide +kernel

end ClassDiagram.CommandLine
