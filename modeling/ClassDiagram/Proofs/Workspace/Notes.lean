import ClassDiagram.Proofs.Files.Untouched
import ClassDiagram.Proofs.Workspace.Job

namespace ClassDiagram

namespace FileTree

variable {tree other : FileTree} {names place : List String} {lines : List (List String × String)}

theorem appendLines_append (tree : FileTree) (first second : List (List String × String)) :
    tree.appendLines (first ++ second) = (tree.appendLines first).appendLines second :=
  List.foldl_append

theorem IsFileAt.appendLines (hthere : ∀ line ∈ lines, tree.IsFileAt line.1) (hplace : tree.IsFileAt place) :
    (tree.appendLines lines).IsFileAt place := by
  induction lines generalizing tree with
  | nil => exact hplace
  | cons line lines ih =>
    rw [List.forall_mem_cons] at hthere
    exact ih (fun other hother => (hthere.2 other hother).append hthere.1 _) (hplace.append hthere.1 _)

/-- Lines that all go to one file change nothing elsewhere. By induction on the lines; the file stays a file. -/
theorem alikeExcept_appendLines {spared : Option (List String)}
    (hlines : ∀ line ∈ lines, spared = some line.1 ∧ tree.IsFileAt line.1) :
    tree.AlikeExcept spared (tree.appendLines lines) := by
  induction lines generalizing tree with
  | nil => exact .refl _ _
  | cons line lines ih =>
    rw [List.forall_mem_cons] at hlines
    obtain ⟨⟨rfl, hthere⟩, hlines⟩ := hlines
    have hrest (other : List String × String) (hother : other ∈ lines) :
        some line.1 = some other.1 ∧ (tree.append line.1 (Text.encodeUtf8 line.2)).IsFileAt other.1 :=
      (hlines other hother).imp_right fun hplace => hplace.append hthere _
    exact (alikeExcept_append hthere _).trans (ih hrest)

theorem NamesDistinct.appendLines (hdistinct : tree.NamesDistinct) (lines : List (List String × String)) :
    (tree.appendLines lines).NamesDistinct := by
  induction lines generalizing tree with
  | nil => exact hdistinct
  | cons line lines ih => exact ih (hdistinct.put (.file _) line.1)

/-- What holds between the files of two trees at a place still does after lines were added to both, if it holds
between empty files and adding a line to two files keeps it. The files may be equal, or read alike. -/
theorem bytesAt_appendLines {holds : List UInt8 → List UInt8 → Prop} (hempty : holds [] [])
    (hadd : ∀ line ∈ lines, ∀ bytes bytes', holds bytes bytes' →
      holds (bytes ++ Text.encodeUtf8 line.2) (bytes' ++ Text.encodeUtf8 line.2))
    (hplace : holds (tree.bytesAt place) (other.bytesAt place)) :
    holds ((tree.appendLines lines).bytesAt place) ((other.appendLines lines).bytesAt place) := by
  induction lines generalizing tree other with
  | nil => exact hplace
  | cons line lines ih =>
    rw [List.forall_mem_cons] at hadd
    refine ih hadd.2 ?_
    simp only [append, bytesAt_put]
    split_ifs with hsame
    · exact hadd.1 _ _ (hsame ▸ hplace)
    · exact hempty
    · exact hplace

/-- Lines are added alike to trees with the same paths; a file that held the same in both still does. -/
theorem SamePaths.appendLines (hsame : tree.SamePaths other) (lines : List (List String × String)) :
    (tree.appendLines lines).SamePaths (other.appendLines lines) ∧
      ∀ place, tree.bytesAt place = other.bytesAt place →
        (tree.appendLines lines).bytesAt place = (other.appendLines lines).bytesAt place := by
  refine ⟨?_, fun place => bytesAt_appendLines rfl fun line _ bytes bytes' hbytes => congrArg (· ++ _) hbytes⟩
  induction lines generalizing tree other with
  | nil => exact hsame
  | cons line lines ih =>
    exact ih (hsame.put line.1 (tree.bytesAt line.1 ++ Text.encodeUtf8 line.2)
      (other.bytesAt line.1 ++ Text.encodeUtf8 line.2))

end FileTree

namespace Log

variable {log : Log}

theorem file_eq_none_iff : log.file = none ↔ log.files = [] :=
  List.head?_eq_none_iff

/-- Lines go to the files of the log only, whatever the level of the record and however many handlers there are. -/
theorem mem_files_of_mem_filed {clock : String} {r : Record} {line : List String × String}
    (hline : line ∈ log.filed clock r) : line.1 ∈ log.files := by
  obtain ⟨h, htakes, hline⟩ := List.mem_filterMap.mp hline
  obtain ⟨place, hplace, rfl⟩ := Option.map_eq_some_iff.mp hline
  rw [takers] at htakes
  split at htakes
  · have hmem := List.mem_of_mem_filter htakes
    split at hmem
    · cases List.mem_singleton.mp hmem
      cases hplace
    · exact List.mem_filterMap.mpr ⟨h, hmem, hplace⟩
  · cases htakes

theorem filed_eq_nil_of_file (hfile : log.file = none) (clock : String) (r : Record) : log.filed clock r = [] := by
  rw [List.eq_nil_iff_forall_not_mem]
  intro line hline
  have hmem := mem_files_of_mem_filed hline
  rw [file_eq_none_iff.mp hfile] at hmem
  cases hmem

end Log

namespace Workspace

/-- Sends records to the log, one after the other. -/
def noteAll (w : Workspace) (records : List Record) : Workspace :=
  records.foldl emit w

@[simp] theorem noteAll_nil (w : Workspace) : w.noteAll [] = w := rfl

@[simp] theorem noteAll_cons (w : Workspace) (r : Record) (records : List Record) :
    w.noteAll (r :: records) = (w.emit r).noteAll records := rfl

/-- Records may be sent in two parts, as the first part leaves nothing that the second depends on but the
workspace. -/
theorem noteAll_append (w : Workspace) (first second : List Record) :
    w.noteAll (first ++ second) = (w.noteAll first).noteAll second :=
  List.foldl_append

/-- The lines that records add to files. -/
def linesOf (w : Workspace) (records : List Record) : List (List String × String) :=
  records.flatMap (w.log.filed w.clock)

/-- Records change the log and the tree, and nothing else. What is set for the log stays as it is, so that each
of them goes where it would have gone at first. -/
theorem noteAll_eq (w : Workspace) (records : List Record) :
    w.noteAll records = { w with
      files := { w.files with tree := w.files.tree.appendLines (w.linesOf records) }
      log := { w.log with
        errors := w.log.errors ++ String.join (records.map (w.log.shown w.clock))
        records := w.log.records ++ records } } := by
  induction records generalizing w with
  | nil => simp [linesOf, FileTree.appendLines]
  | cons r records ih =>
    have hlines : (w.emit r).linesOf records = w.linesOf records := rfl
    have hshown : (w.emit r).log.shown (w.emit r).clock = w.log.shown w.clock := rfl
    rw [noteAll_cons, ih, hlines, hshown]
    simp [emit, Log.add, linesOf, FileTree.appendLines_append, String.append_assoc]

@[simp] theorem noteAll_plugins (w : Workspace) (records : List Record) :
    (w.noteAll records).plugins = w.plugins := by
  rw [noteAll_eq]

theorem noteAll_log_files (w : Workspace) (records : List Record) :
    (w.noteAll records).log.files = w.log.files := by
  rw [noteAll_eq]
  rfl

@[simp] theorem noteAll_log_file (w : Workspace) (records : List Record) :
    (w.noteAll records).log.file = w.log.file := by
  rw [Log.file, noteAll_log_files, Log.file]

theorem noteAll_log_filed (w : Workspace) (records : List Record) :
    (w.noteAll records).log.filed = w.log.filed := by
  rw [noteAll_eq]
  rfl

@[simp] theorem noteAll_current (w : Workspace) (records : List Record) :
    (w.noteAll records).files.current = w.files.current := by
  rw [noteAll_eq]

@[simp] theorem noteAll_home (w : Workspace) (records : List Record) :
    (w.noteAll records).files.home = w.files.home := by
  rw [noteAll_eq]

@[simp] theorem noteAll_users (w : Workspace) (records : List Record) :
    (w.noteAll records).files.users = w.files.users := by
  rw [noteAll_eq]

@[simp] theorem noteAll_clock (w : Workspace) (records : List Record) : (w.noteAll records).clock = w.clock := by
  rw [noteAll_eq]

theorem noteAll_tree (w : Workspace) (records : List Record) :
    (w.noteAll records).files.tree = w.files.tree.appendLines (w.linesOf records) := by
  rw [noteAll_eq]

theorem mem_files_of_mem_linesOf {w : Workspace} {records : List Record} {line : List String × String}
    (hline : line ∈ w.linesOf records) : line.1 ∈ w.log.files := by
  obtain ⟨r, _, hline⟩ := List.mem_flatMap.mp hline
  exact Log.mem_files_of_mem_filed hline

/-- Without a log file records leave the files as they are, so everything that is read afterwards is the same. -/
theorem noteAll_files_of_none {w : Workspace} (hfile : w.log.file = none) (records : List Record) :
    (w.noteAll records).files = w.files := by
  have hlines : w.linesOf records = [] := by
    simp [linesOf, Log.filed_eq_nil_of_file hfile]
  rw [noteAll_eq, hlines]
  rfl

/-- Files are still files after records were sent, if all files of the log are there. -/
theorem isFileAt_noteAll {w : Workspace} {place : List String}
    (hthere : ∀ names ∈ w.log.files, w.files.tree.IsFileAt names) (hplace : w.files.tree.IsFileAt place)
    (records : List Record) : (w.noteAll records).files.tree.IsFileAt place := by
  rw [noteAll_tree]
  exact hplace.appendLines fun line hline => hthere _ (mem_files_of_mem_linesOf hline)

/-- Records change nothing but the log file, if there is no other one. This is how far a run reaches before its
result is written. -/
theorem alikeExcept_noteAll {w : Workspace} {spared : Option (List String)}
    (hfiles : ∀ names ∈ w.log.files, spared = some names ∧ w.files.tree.IsFileAt names) (records : List Record) :
    w.files.tree.AlikeExcept spared (w.noteAll records).files.tree := by
  rw [noteAll_tree]
  exact FileTree.alikeExcept_appendLines fun line hline => hfiles _ (mem_files_of_mem_linesOf hline)

theorem namesDistinct_noteAll {w : Workspace} (hdistinct : w.files.tree.NamesDistinct)
    (records : List Record) : (w.noteAll records).files.tree.NamesDistinct := by
  rw [noteAll_tree]
  exact hdistinct.appendLines _

/-- A file that was written is read back as it was written, except that a record about it follows if it is the
log file too. -/
theorem readBytes_put_emit {w : Workspace} {p : Path} {place : List String} {r : Record}
    (hthere : ∀ names, w.log.file = some names → w.files.tree.IsFileAt names)
    (hfiled : w.log.filed w.clock r = w.log.file.toList.map fun names => (names, r.fileLine w.clock))
    (hplace : w.files.tree.placeForFile w.files.current p = .ok place) (bytes : List UInt8) :
    ((w.put place (.file bytes)).emit r).files.readBytes p =
      .ok (bytes ++ if w.log.file = some (w.files.resolve p) then Text.encodeUtf8 (r.fileLine w.clock)
        else []) := by
  have hlocate := FileTree.locate_put_of_placeForFile hplace bytes
  have hresolve : place = w.files.resolve p := FileTree.eq_resolve_of_locate hlocate
  have htree : ((w.put place (.file bytes)).emit r).files.tree =
      (w.files.tree.put place (.file bytes)).appendLines (w.log.filed w.clock r) := rfl
  have hread : ((w.put place (.file bytes)).emit r).files.tree.read w.files.current p =
      .ok (bytes ++ if w.log.file = some place then Text.encodeUtf8 (r.fileLine w.clock) else []) := by
    rw [htree, hfiled]
    cases hfile : w.log.file with
    | none =>
      rw [if_neg (by simp), List.append_nil]
      refine (FileTree.read_of_locate hlocate).trans ?_
      rw [FileTree.get?_put_self]
    | some names =>
      simp only [Option.some.injEq]
      exact FileTree.read_put_append hplace (hthere names hfile) bytes _
  rw [FileSystem.readBytes, ← hresolve]
  exact congrArg (Except.mapError _) hread

end Workspace

end ClassDiagram

namespace ClassDiagram.Job

variable {α β : Type}

/-- A job sends the same records to the log whatever the workspace, does nothing else, and gives a value. -/
def OnlyNotes (job : Job α) (a : α) : Prop :=
  ∃ records, ∀ w, outcome job w = (.ok a, w.noteAll records)

theorem OnlyNotes.pure (a : α) : OnlyNotes (Pure.pure a) a :=
  ⟨[], fun _ => rfl⟩

theorem OnlyNotes.note (part : String) (level : Level) (message : String) :
    OnlyNotes (Job.note part level message) () :=
  ⟨[_], fun _ => rfl⟩

/-- Jobs that only send records can be put in a row, and the second starts from the value of the first. -/
theorem OnlyNotes.bind {job : Job α} {next : α → Job β} {a : α} {b : β} (hjob : OnlyNotes job a)
    (hnext : OnlyNotes (next a) b) : OnlyNotes (job >>= next) b := by
  obtain ⟨first, hfirst⟩ := hjob
  obtain ⟨second, hsecond⟩ := hnext
  refine ⟨first ++ second, fun w => ?_⟩
  rw [outcome_bind_of_ok (hfirst w), hsecond, Workspace.noteAll_append]

end ClassDiagram.Job
