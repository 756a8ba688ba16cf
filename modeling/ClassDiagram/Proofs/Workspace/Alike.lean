import ClassDiagram.Proofs.Text.LineEnd
import ClassDiagram.Proofs.Workspace.Agreement
import ClassDiagram.Source.Read

namespace ClassDiagram

namespace FileSystem

/-- The text at a path, or why there is none. -/
def textAt (fs : FileSystem) (p : Path) : Except FileFault (Except Text.Utf8Fault String) :=
  (fs.tree.read fs.current p).map textOf

variable {fs fs' : FileSystem} {p : Path}

theorem readText_eq_textAt (fs : FileSystem) (p : Path) :
    fs.readText p =
      match fs.textAt p with
      | .error fault => .error (.file ⟨fault, p.text⟩)
      | .ok text => text.mapError .encoding := by
  rw [readText, readBytes, textAt]
  cases fs.tree.read fs.current p <;> rfl

/-- A source is read as text, and fails in the words of a source if it is none. It is thus told by the text at
its path. -/
theorem sourceText_eq_textAt (fs : FileSystem) (p : Path) :
    SourceUnit.readText fs p =
      match fs.textAt p with
      | .error fault => .error (.file ⟨fault, p.text⟩)
      | .ok text => text.mapError fun fault =>
        .source { path := p.text, problem := "not valid UTF-8 (" ++ fault.cause.reason ++ ")" } := by
  rw [SourceUnit.readText, readBytes, textAt]
  cases fs.tree.read fs.current p <;> rfl

end FileSystem

/-- The messages of records start with something else than a line feed. -/
def StartInLines (records : List Record) : Prop :=
  ∀ r ∈ records, Text.startsInLine r.message = true

theorem startInLines_nil : StartInLines [] :=
  List.forall_mem_nil _

theorem StartInLines.append {first second : List Record} (hfirst : StartInLines first)
    (hsecond : StartInLines second) : StartInLines (first ++ second) := by
  intro r hr
  exact (List.mem_append.mp hr).elim (hfirst r) (hsecond r)

/-- In two workspaces the same texts are read at some paths, and still are after the same records were sent to the
logs of both. -/
structure Workspace.ReadsAlike (isRead : Path → Prop) (w w' : Workspace) : Prop where
  agrees : w.Agrees (fun _ => False) w'
  texts : ∀ records, StartInLines records → ∀ p, isRead p →
    (w.noteAll records).files.textAt p = (w'.noteAll records).files.textAt p

/-- What reads the same bytes reads the same texts, also after records were added to both. -/
theorem Workspace.Agrees.readsAlike {isRead : Path → Prop} {w w' : Workspace} (hagrees : w.Agrees isRead w') :
    w.ReadsAlike isRead w' where
  agrees := ⟨hagrees.filed, hagrees.clock, hagrees.plugins, hagrees.current, hagrees.home, hagrees.users,
    hagrees.paths, fun _ hnever => hnever.elim⟩
  texts := fun records _ p hread => by
    have hafter := hagrees.noteAll records
    rw [FileSystem.textAt, FileSystem.textAt, hafter.paths.read_eq (hafter.bytes p hread), hafter.current]

namespace Workspace.ReadsAlike

variable {isRead : Path → Prop} {w w' : Workspace}

/-- Records keep two workspaces alike, as long as their messages do not begin with a line feed. Such a message
would complete the line end of a file in one workspace and not in the other. -/
theorem noteAll (halike : w.ReadsAlike isRead w') {records : List Record} (hstart : StartInLines records) :
    (w.noteAll records).ReadsAlike isRead (w'.noteAll records) where
  agrees := halike.agrees.noteAll records
  texts := fun more hmore p hread => by
    rw [← noteAll_append, ← noteAll_append]
    exact halike.texts _ (hstart.append hmore) p hread

theorem textAt_eq (halike : w.ReadsAlike isRead w') {p : Path} (hread : isRead p) :
    w.files.textAt p = w'.files.textAt p :=
  halike.texts [] startInLines_nil p hread

theorem readText_eq (halike : w.ReadsAlike isRead w') {p : Path} (hread : isRead p) :
    w.files.readText p = w'.files.readText p := by
  rw [FileSystem.readText_eq_textAt, FileSystem.readText_eq_textAt, halike.textAt_eq hread]

theorem sourceText_eq (halike : w.ReadsAlike isRead w') {p : Path} (hread : isRead p) :
    SourceUnit.readText w.files p = SourceUnit.readText w'.files p := by
  rw [FileSystem.sourceText_eq_textAt, FileSystem.sourceText_eq_textAt, halike.textAt_eq hread]

end Workspace.ReadsAlike

namespace Job

variable {α β : Type} {isRead : Path → Prop} {w w' : Workspace}

/-- A job gives the same in two workspaces and sends the same records, and does nothing else. -/
def Alike (job : Job α) (w w' : Workspace) : Prop :=
  ∃ result records, StartInLines records ∧ outcome job w = (result, w.noteAll records) ∧
    outcome job w' = (result, w'.noteAll records)

/-- A job does the same in any two workspaces in which the same texts are read at some paths. -/
def ReadsOnly (isRead : Path → Prop) (job : Job α) : Prop :=
  ∀ w w', w.ReadsAlike isRead w' → Alike job w w'

/-- Doing the same in workspaces that agree leaves workspaces that agree, since all that a job does is to send
records. -/
theorem Alike.agreesIn {job : Job α} (hjob : Alike job w w') (hagrees : w.Agrees isRead w') :
    AgreesIn isRead job w w' := by
  obtain ⟨result, records, _, hw, hw'⟩ := hjob
  rw [AgreesIn, hw, hw']
  exact ⟨rfl, hagrees.noteAll records⟩

theorem Alike.result_eq {job : Job α} (hjob : Alike job w w') : (outcome job w).1 = (outcome job w').1 := by
  obtain ⟨result, records, _, hw, hw'⟩ := hjob
  rw [hw, hw']

theorem Alike.of_outcome_eq {job : Job α} {result : Except Failure α} (hw : outcome job w = (result, w))
    (hw' : outcome job w' = (result, w')) : Alike job w w' :=
  ⟨result, [], startInLines_nil, hw, hw'⟩

/-- Two steps in a row are alike if the first is and the second is wherever the first leaves both workspaces.
The records of the first are the same in both. -/
theorem Alike.bind {job : Job α} {next : α → Job β} (hjob : Alike job w w')
    (hnext : ∀ a records, StartInLines records → outcome job w = (.ok a, w.noteAll records) →
      Alike (next a) (w.noteAll records) (w'.noteAll records)) : Alike (job >>= next) w w' := by
  obtain ⟨result, first, hfirst, hw, hw'⟩ := hjob
  cases result with
  | error failure => exact ⟨_, first, hfirst, outcome_bind_of_error hw _, outcome_bind_of_error hw' _⟩
  | ok a =>
    obtain ⟨result, second, hsecond, hv, hv'⟩ := hnext a first hfirst hw
    rw [← Workspace.noteAll_append] at hv hv'
    exact ⟨result, first ++ second, hfirst.append hsecond, (outcome_bind_of_ok hw _).trans hv,
      (outcome_bind_of_ok hw' _).trans hv'⟩

/-- After a job that leaves both workspaces as they were, only what follows needs to be compared. -/
theorem Alike.after {job : Job α} {next : α → Job β} {result : Except Failure α}
    (hw : outcome job w = (result, w)) (hw' : outcome job w' = (result, w'))
    (hnext : ∀ a, result = .ok a → Alike (next a) w w') : Alike (job >>= next) w w' := by
  cases result with
  | error failure => exact .of_outcome_eq (outcome_bind_of_error hw _) (outcome_bind_of_error hw' _)
  | ok a =>
    have halike := hnext a rfl
    rwa [Alike, outcome_bind_of_ok hw, outcome_bind_of_ok hw']

namespace ReadsOnly

/-- Steps that read only what they may can be put in a row. The second reads in the workspaces that the first
leaves, which read alike as well. -/
theorem bind {job : Job α} {next : α → Job β} (hjob : ReadsOnly isRead job)
    (hnext : ∀ a, ReadsOnly isRead (next a)) : ReadsOnly isRead (job >>= next) :=
  fun w w' halike => (hjob w w' halike).bind fun a _ hstart _ => hnext a _ _ (halike.noteAll hstart)

theorem ofExcept (result : Except Failure α) : ReadsOnly isRead (Job.ofExcept result) :=
  fun w w' _ => .of_outcome_eq (outcome_ofExcept result w) (outcome_ofExcept result w')

theorem pure (a : α) : ReadsOnly isRead (Pure.pure a : Job α) :=
  ofExcept (.ok a)

theorem reading {f : FileSystem → Except Failure α}
    (hread : ∀ w w', Workspace.ReadsAlike isRead w w' → f w.files = f w'.files) :
    ReadsOnly isRead (Job.reading f) := by
  intro w w' halike
  have hw := outcome_reading f w
  rw [hread w w' halike] at hw
  exact .of_outcome_eq hw (outcome_reading f w')

/-- A record is the same in all workspaces; its message has to start in a line. -/
theorem note (part : String) (level : Level) {message : String} (hstart : Text.startsInLine message = true) :
    ReadsOnly isRead (Job.note part level message) := by
  intro w w' _
  refine ⟨_, [{ logger := loggerName part, level, message }], ?_, outcome_note _ _ _ w, outcome_note _ _ _ w'⟩
  simpa [StartInLines] using hstart

end ReadsOnly

end Job

end ClassDiagram
