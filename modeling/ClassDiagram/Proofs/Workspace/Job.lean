import ClassDiagram.Workspace

namespace ClassDiagram

theorem eq_ok_of_toOption {ε α : Type} {result : Except ε α} {a : α} (hresult : result.toOption = some a) :
    result = .ok a := by
  cases result with
  | error failure => cases hresult
  | ok b => exact congrArg Except.ok (Option.some.inj hresult)

namespace Job

variable {α β : Type}

/-- What a job gives in a workspace, and the workspace after it. -/
def outcome (job : Job α) (w : Workspace) : Except Failure α × Workspace :=
  job.run.run w

/-- A failure stops a job and leaves the workspace as it was at that point. -/
theorem outcome_bind (job : Job α) (next : α → Job β) (w : Workspace) :
    outcome (job >>= next) w =
      match outcome job w with
      | (.ok a, w') => outcome (next a) w'
      | (.error failure, w') => (.error failure, w') := by
  rw [outcome, ExceptT.run_bind, StateT.run_bind, outcome]
  generalize (ExceptT.run job).run w = reached
  obtain ⟨result, w'⟩ := reached
  cases result <;> rfl

/-- The steps after a success run in the workspace that it leaves. Runs are taken apart with this lemma, step by
step. -/
theorem outcome_bind_of_ok {job : Job α} {w w' : Workspace} {a : α} (hjob : outcome job w = (.ok a, w'))
    (next : α → Job β) : outcome (job >>= next) w = outcome (next a) w' := by
  rw [outcome_bind, hjob]

/-- A failure is passed on, and with it the workspace at this point; nothing is undone. -/
theorem outcome_bind_of_error {job : Job α} {w w' : Workspace} {failure : Failure}
    (hjob : outcome job w = (.error failure, w')) (next : α → Job β) :
    outcome (job >>= next) w = (.error failure, w') := by
  rw [outcome_bind, hjob]

/-- Jobs that do the same go on the same way. It is enough that they do so in the one workspace at hand. -/
theorem outcome_bind_congr {job job' : Job α} {next next' : α → Job β} {w : Workspace}
    (hjob : outcome job w = outcome job' w) (hnext : next = next') :
    outcome (job >>= next) w = outcome (job' >>= next') w := by
  rw [outcome_bind, outcome_bind, hjob, hnext]

@[simp] theorem outcome_pure (a : α) (w : Workspace) : outcome (pure a) w = (.ok a, w) := rfl

@[simp] theorem outcome_throw (failure : Failure) (w : Workspace) :
    outcome (throw failure : Job α) w = (.error failure, w) := rfl

@[simp] theorem outcome_get (w : Workspace) : outcome get w = (.ok w, w) := rfl

/-- A record goes to the log under the name of the part of the program that tells it. -/
@[simp] theorem outcome_note (part : String) (level : Level) (message : String) (w : Workspace) :
    outcome (note part level message) w =
      (.ok (), w.emit { logger := loggerName part, level, message }) := rfl

@[simp] theorem outcome_ofExcept (result : Except Failure α) (w : Workspace) :
    outcome (ofExcept result) w = (result, w) := by
  cases result <;> rfl

theorem outcome_reading (f : FileSystem → Except Failure α) (w : Workspace) :
    outcome (reading f) w = (f w.files, w) := by
  rw [reading, outcome_bind_of_ok (outcome_get w), outcome_ofExcept]

end Job

end ClassDiagram
