import ClassDiagram.Proofs.Workspace.Logging

namespace ClassDiagram

/-- Something told to the log, by a part of the program and at a time of day. -/
structure Telling where
  clock : String
  part : String
  level : Level
  message : String

/-- The record of what is told. -/
def Telling.record (t : Telling) : Record where
  logger := loggerName t.part
  level := t.level
  message := t.message

@[simp] theorem Telling.record_level (t : Telling) : t.record.level = t.level := rfl

/-- What can happen to a log. -/
inductive LogEvent where
  | configure (isVerbose : Bool) (file : Option Path)
  | tell (t : Telling)

namespace Workspace

/-- The workspace after an event. The program goes on if a log file cannot be opened. -/
def after (w : Workspace) : LogEvent → Workspace
  | .configure isVerbose file => ((Job.configureLog isVerbose file).outcome w).2
  | .tell t => ((Job.note t.part t.level t.message).outcome { w with clock := t.clock }).2

/-- The workspace after events, one after the other. -/
def afterAll (w : Workspace) (events : List LogEvent) : Workspace :=
  events.foldl after w

@[simp] theorem afterAll_nil (w : Workspace) : w.afterAll [] = w := rfl

@[simp] theorem afterAll_cons (w : Workspace) (event : LogEvent) (events : List LogEvent) :
    w.afterAll (event :: events) = (w.after event).afterAll events := rfl

/-- The log of a workspace is set, and the file that it goes to is there. -/
structure IsLogging (limit : Level) (place : Option (List String)) (w : Workspace) : Prop where
  log : w.log.IsConfigured limit place
  there : ∀ names ∈ place, w.files.tree.IsFileAt names

variable {w : Workspace} {limit : Level} {place : Option (List String)}

/-- The workspace after a configuration that opened what it could: the file is there, and the log is set. That a
file could not be opened is found out after the error stream was set. -/
theorem after_configure (isVerbose : Bool) (file : Option Path) (w : Workspace) :
    w.after (.configure isVerbose file) =
      match w.files.openedAt file with
      | none => { w with log := w.log.streaming isVerbose file.isSome }
      | some place =>
        { w with
          files := { w.files with tree := w.files.tree.append place [] }
          log := (w.log.streaming isVerbose true).attach (.toFile place) } := by
  rw [after, Job.outcome_configureLog]
  cases file with
  | none => rfl
  | some p =>
    rw [FileSystem.openedAt, Option.bind_some]
    dsimp only
    cases w.files.tree.placeForFile w.files.current (.absolute (w.files.resolve p)) <;> rfl

theorem isLogging_configure (isVerbose : Bool) (file : Option Path) (w : Workspace) :
    (w.after (.configure isVerbose file)).IsLogging (Log.streamLimit isVerbose) (w.files.openedAt file) := by
  rw [after_configure]
  cases w.files.openedAt file with
  | none => exact ⟨Log.isConfigured_streaming _ _ _, fun _ h => nomatch h⟩
  | some place =>
    refine ⟨Log.isConfigured_attach _ _ _, fun names hnames => ?_⟩
    cases hnames
    exact ⟨_, FileTree.get?_put_self _ _ _⟩

theorem hasRoomAt_of_openedAt {files : FileSystem} {file : Option Path} {names : List String}
    (hopened : files.openedAt file = some names) : files.tree.HasRoomAt names := by
  obtain ⟨p, _, hplace⟩ := Option.bind_eq_some_iff.mp hopened
  exact .of_placeForFile (eq_ok_of_toOption hplace)

/-- A configuration writes nothing; at most it makes the file that it opens, which is empty then. -/
theorem alikeExcept_configure (isVerbose : Bool) (file : Option Path) (w : Workspace) :
    w.files.tree.AlikeExcept (w.files.openedAt file) (w.after (.configure isVerbose file)).files.tree := by
  rw [after_configure]
  cases hopened : w.files.openedAt file with
  | none => exact .refl _ _
  | some place => exact FileTree.alikeExcept_put (hasRoomAt_of_openedAt hopened) _

theorem errors_configure (isVerbose : Bool) (file : Option Path) (w : Workspace) :
    (w.after (.configure isVerbose file)).log.errors = w.log.errors := by
  rw [after_configure]
  cases w.files.openedAt file <;> rfl

/-- What a configured log writes to the error stream for what is told. -/
def shownOf (limit : Level) (told : List Telling) : String :=
  String.join ((told.filter fun t => t.level.passes limit).map fun t => t.record.streamLine)

/-- The bytes that a configured log writes to its file for what is told. -/
def filedOf (told : List Telling) : List UInt8 :=
  (told.filter fun t => t.level.passes .debug).flatMap fun t => Text.encodeUtf8 (t.record.fileLine t.clock)

/-- What is told stands, in the order of telling, on the error stream and in the log file, each as far as its
limit goes, and nowhere else. -/
structure Gains (limit : Level) (place : Option (List String)) (told : List Telling) (w w' : Workspace) : Prop where
  errors : w'.log.errors = w.log.errors ++ shownOf limit told
  bytes : ∀ names, w'.files.tree.bytesAt names =
    w.files.tree.bytesAt names ++ if place = some names then filedOf told else []
  alike : w.files.tree.AlikeExcept place w'.files.tree

theorem Gains.nil (limit : Level) (place : Option (List String)) (w : Workspace) : Gains limit place [] w w where
  errors := String.append_empty.symm
  bytes names := by simp [filedOf]
  alike := .refl _ _

/-- What is told in two parts is gained in two parts, one behind the other. -/
theorem Gains.append {first second : List Telling} {w w' w'' : Workspace} (hfirst : Gains limit place first w w')
    (hsecond : Gains limit place second w' w'') : Gains limit place (first ++ second) w w'' where
  errors := by
    rw [hsecond.errors, hfirst.errors, String.append_assoc]
    simp [shownOf]
  bytes names := by
    rw [hsecond.bytes, hfirst.bytes, List.append_assoc]
    split <;> simp [filedOf]
  alike := hfirst.alike.trans hsecond.alike

/-- What is told goes to the log file if there is one and the level is high enough. -/
theorem IsLogging.tree_of_written {names : List String} (hlogging : w.IsLogging limit (some names))
    {t : Telling} (hpasses : t.level.passes .debug = true) :
    (w.after (.tell t)).files.tree = w.files.tree.append names (filedOf [t]) := by
  have hfiled : w.log.filed t.clock t.record = [(names, t.record.fileLine t.clock)] := by
    rw [hlogging.log.filed_eq, Telling.record_level, if_pos hpasses]
    rfl
  have hbytes : filedOf [t] = Text.encodeUtf8 (t.record.fileLine t.clock) := by simp [filedOf, hpasses]
  have htree : (w.after (.tell t)).files.tree =
      w.files.tree.appendLines (w.log.filed t.clock t.record) := rfl
  rw [htree, hfiled, hbytes]
  rfl

/-- Otherwise no file changes, and none of an earlier configuration does: its handlers were taken away. -/
theorem IsLogging.tree_of_not_written (hlogging : w.IsLogging limit place) {t : Telling}
    (hkept : place = none ∨ t.level.passes .debug = false) :
    (w.after (.tell t)).files.tree = w.files.tree := by
  have hfiled : w.log.filed t.clock t.record = [] := by
    rw [hlogging.log.filed_eq, Telling.record_level]
    rcases hkept with rfl | hbelow <;> simp_all
  have htree : (w.after (.tell t)).files.tree =
      w.files.tree.appendLines (w.log.filed t.clock t.record) := rfl
  rw [htree, hfiled]
  rfl

/-- One step: what is told is written down, and the log stays as it is set. -/
theorem IsLogging.tell (hlogging : w.IsLogging limit place) (t : Telling) :
    (w.after (.tell t)).IsLogging limit place ∧ Gains limit place [t] w (w.after (.tell t)) := by
  have hset : (w.after (.tell t)).log.IsConfigured limit place :=
    ⟨hlogging.log.handlers, hlogging.log.contained, hlogging.log.lets, hlogging.log.bounded⟩
  have hshown : w.log.shown t.clock t.record = shownOf limit [t] := by
    rw [hlogging.log.shown_eq, Telling.record_level]
    by_cases hpasses : t.level.passes limit <;> simp [shownOf, hpasses]
  have herrors : (w.after (.tell t)).log.errors = w.log.errors ++ shownOf limit [t] :=
    congrArg (w.log.errors ++ ·) hshown
  by_cases hkept : place = none ∨ t.level.passes .debug = false
  · have hsame := hlogging.tree_of_not_written hkept
    have hnothing (names : List String) : (if place = some names then filedOf [t] else []) = [] := by
      rcases hkept with rfl | hbelow
      · rfl
      · simp [filedOf, hbelow]
    refine ⟨⟨hset, fun names hnames => hsame ▸ hlogging.there names hnames⟩, herrors, fun names => ?_, ?_⟩
    · rw [hsame, hnothing, List.append_nil]
    · exact hsame ▸ .refl _ _
  · obtain ⟨hplace, hpasses⟩ := not_or.mp hkept
    obtain ⟨names, rfl⟩ := Option.ne_none_iff_exists'.mp hplace
    have hthere := hlogging.there names rfl
    have happend := hlogging.tree_of_written (by simpa using hpasses)
    refine ⟨⟨hset, fun other hother => ?_⟩, herrors, fun other => ?_, ?_⟩
    · cases hother
      exact happend ▸ hthere.append hthere _
    · rw [happend, FileTree.bytesAt_append hthere]
      simp only [Option.some.injEq]
    · exact happend ▸ FileTree.alikeExcept_append hthere _

/-- A whole run: the same holds of all that is told until the next configuration, by induction on what is told. -/
theorem IsLogging.tellAll (hlogging : w.IsLogging limit place) (told : List Telling) :
    (w.afterAll (told.map .tell)).IsLogging limit place ∧
      Gains limit place told w (w.afterAll (told.map .tell)) := by
  induction told generalizing w with
  | nil => exact ⟨hlogging, .nil _ _ _⟩
  | cons t told ih =>
    obtain ⟨hnext, hfirst⟩ := hlogging.tell t
    obtain ⟨hlast, hrest⟩ := ih hnext
    exact ⟨hlast, hfirst.append hrest⟩

/-- A configuration fails only for want of a file that it was asked to open. -/
theorem outcome_configure_eq_ok_iff (isVerbose : Bool) (file : Option Path) (w : Workspace) :
    ((Job.configureLog isVerbose file).outcome w).1 = .ok () ↔
      (w.files.openedAt file).isSome = file.isSome := by
  rw [Job.outcome_configureLog]
  cases file with
  | none => simp [FileSystem.openedAt]
  | some p =>
    rw [FileSystem.openedAt, Option.bind_some]
    dsimp only
    cases w.files.tree.placeForFile w.files.current (.absolute (w.files.resolve p)) <;> simp [Except.toOption]

/-- Whatever happened to the log before, a configuration leaves it with one handler for the error stream, with
one for the file if one was given and could be opened, and with no other. Of what is told from then on the error
stream gains exactly what reaches its limit, the file exactly what reaches `Level.debug`, and no other file
changes. What was set or opened earlier has no say in this, because configuring takes away all handlers first. -/
theorem log_of_last_configuration (w : Workspace) (before : List LogEvent) (isVerbose : Bool)
    (file : Option Path) (told : List Telling) :
    let start := w.afterAll before
    let opened := start.files.openedAt file
    let limit : Level := if isVerbose then .debug else .warning
    let configured := start.after (.configure isVerbose file)
    let final := w.afterAll (before ++ .configure isVerbose file :: told.map .tell)
    (((Job.configureLog isVerbose file).outcome start).1 = .ok () ↔ opened.isSome = file.isSome) ∧
      configured.log.errors = start.log.errors ∧
      start.files.tree.AlikeExcept opened configured.files.tree ∧
      final.log.handlers = .toErrors limit :: (opened.map .toFile).toList ∧
      final.log.propagates = false ∧
      final.log.errors = configured.log.errors ++ shownOf limit told ∧
      (∀ names, final.files.tree.bytesAt names =
        configured.files.tree.bytesAt names ++ if opened = some names then filedOf told else []) ∧
      configured.files.tree.AlikeExcept opened final.files.tree := by
  intro start opened limit configured final
  have hfinal : final = configured.afterAll (told.map .tell) := List.foldl_append
  obtain ⟨hlogging, hgains⟩ := (isLogging_configure isVerbose file start).tellAll told
  rw [← show final = configured.afterAll (told.map .tell) from hfinal] at hlogging hgains
  exact ⟨outcome_configure_eq_ok_iff _ _ _, errors_configure _ _ _, alikeExcept_configure _ _ _,
    hlogging.log.handlers, hlogging.log.contained, hgains.errors, hgains.bytes, hgains.alike⟩

end Workspace

end ClassDiagram
