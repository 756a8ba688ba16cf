import ClassDiagram.Proofs.Workspace.Notes

namespace ClassDiagram

/-- Two workspaces agree on what is read at some paths: their records go to the same files, they have the same
plugins and the same directories to start from, their trees have the same paths, and the files that are read
hold the same. -/
structure Workspace.Agrees (isRead : Path → Prop) (w w' : Workspace) : Prop where
  filed : w.log.filed = w'.log.filed
  clock : w.clock = w'.clock
  plugins : w.plugins = w'.plugins
  current : w.files.current = w'.files.current
  home : w.files.home = w'.files.home
  users : w.files.users = w'.files.users
  paths : w.files.tree.SamePaths w'.files.tree
  bytes : ∀ p, isRead p →
    w.files.tree.bytesAt (w.files.resolve p) = w'.files.tree.bytesAt (w.files.resolve p)

namespace Workspace.Agrees

variable {isRead : Path → Prop} {w w' : Workspace}

theorem expandHome_eq (hagrees : Agrees isRead w w') (p : Path) :
    w.files.expandHome p = w'.files.expandHome p := by
  rw [FileSystem.expandHome, FileSystem.expandHome, hagrees.home, hagrees.users]

theorem resolve_eq (hagrees : Agrees isRead w w') (p : Path) : w.files.resolve p = w'.files.resolve p := by
  rw [FileSystem.resolve, FileSystem.resolve, hagrees.current]

/-- A path leads to a file in both workspaces, to a directory in both, or nowhere. -/
theorem map_isDirectory_lookup? (hagrees : Agrees isRead w w') (p : Path) :
    (w.files.lookup? p).map FileTree.isDirectory = (w'.files.lookup? p).map FileTree.isDirectory := by
  simp only [FileSystem.lookup?, FileTree.lookup?, ← hagrees.current, hagrees.paths.locate_eq]
  cases w'.files.tree.locate w.files.current p with
  | error fault => rfl
  | ok place => exact hagrees.paths place

/-- Whether there is anything at a path is told by the kinds of what stands at places. -/
theorem contains_eq (hagrees : Agrees isRead w w') (p : Path) : w.files.contains p = w'.files.contains p := by
  simpa [FileSystem.contains] using congrArg Option.isSome (hagrees.map_isDirectory_lookup? p)

theorem isDirectory_eq (hagrees : Agrees isRead w w') (p : Path) :
    w.files.isDirectory p = w'.files.isDirectory p := by
  have hkind := hagrees.map_isDirectory_lookup? p
  rw [FileSystem.isDirectory, FileSystem.isDirectory]
  cases hw : w.files.lookup? p <;> cases hw' : w'.files.lookup? p <;> simp_all

/-- Records go to the same files, which still hold the same if they did before. -/
theorem emit (hagrees : Agrees isRead w w') (r : Record) : Agrees isRead (w.emit r) (w'.emit r) := by
  have hlines : w'.log.filed w'.clock r = w.log.filed w.clock r := by rw [hagrees.filed, hagrees.clock]
  obtain ⟨hpaths, hbytes⟩ := hagrees.paths.appendLines (w.log.filed w.clock r)
  refine ⟨hagrees.filed, hagrees.clock, hagrees.plugins, hagrees.current, hagrees.home, hagrees.users, ?_,
    fun p hread => ?_⟩
  · rw [Workspace.emit, Workspace.emit, hlines]
    exact hpaths
  · rw [Workspace.emit, Workspace.emit, hlines]
    exact hbytes _ (hagrees.bytes p hread)

/-- A file that is written at the same place with the same bytes keeps two workspaces in agreement. -/
theorem put (hagrees : Agrees isRead w w') (place : List String) (bytes : List UInt8) :
    Agrees isRead (w.put place (.file bytes)) (w'.put place (.file bytes)) := by
  refine ⟨hagrees.filed, hagrees.clock, hagrees.plugins, hagrees.current, hagrees.home, hagrees.users, ?_,
    fun p hread => ?_⟩
  · exact hagrees.paths.put place bytes bytes
  · have hbytes := hagrees.bytes p hread
    simp only [Workspace.put, FileSystem.resolve, FileTree.bytesAt_put] at hbytes ⊢
    rw [hbytes]

/-- Where all files hold the same, every path leads to the same: a directory in both, a file with the same
bytes, or nothing. -/
theorem lookup?_eq (hagrees : Agrees (fun _ => True) w w') (p : Path) :
    (w'.files.lookup? p).map FileTree.content = (w.files.lookup? p).map FileTree.content := by
  rw [FileSystem.lookup?, FileSystem.lookup?, FileTree.lookup?, FileTree.lookup?, ← hagrees.current,
    hagrees.paths.locate_eq]
  cases hlocate : w'.files.tree.locate w.files.current p with
  | error fault => rfl
  | ok place =>
    have hkind := hagrees.paths place
    have hbytes := hagrees.bytes p trivial
    rw [FileSystem.resolve, ← FileTree.eq_resolve_of_locate hlocate, FileTree.bytesAt, FileTree.bytesAt] at hbytes
    dsimp only
    rcases hget : w.files.tree.get? place with _ | _ | _ <;>
      rcases hget' : w'.files.tree.get? place with _ | _ | _ <;>
      simp_all [FileTree.isDirectory, FileTree.content]

theorem noteAll (hagrees : Agrees isRead w w') (records : List Record) :
    Agrees isRead (w.noteAll records) (w'.noteAll records) := by
  induction records generalizing w w' with
  | nil => exact hagrees
  | cons r records ih => exact ih (hagrees.emit r)

end Workspace.Agrees

/-- A job gives the same in two workspaces, and leaves workspaces that agree. -/
def Job.AgreesIn {α : Type} (isRead : Path → Prop) (job : Job α) (w w' : Workspace) : Prop :=
  (outcome job w).1 = (outcome job w').1 ∧ Workspace.Agrees isRead (outcome job w).2 (outcome job w').2

end ClassDiagram
