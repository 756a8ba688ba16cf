import ClassDiagram.Proofs.Files.Relined
import ClassDiagram.Proofs.Pipeline.Locality

namespace ClassDiagram

/-- Whatever a handler writes for a record, it does not begin with a line feed. Behind a source that ends with a
carriage return the two would be read as one line end, which is why the time of day must not begin with one. -/
theorem Handler.head?_line (h : Handler) {clock : String} {r : Record} (hclock : clock.toList.head? ≠ some '\n')
    (hstart : Text.startsInLine r.message = true) : (h.line clock r).toList.head? ≠ some '\n' := by
  rw [line]
  cases h.wording with
  | bare => exact Text.head?_of_startsInLine (Text.startsInLine_append hstart _)
  | short =>
    dsimp only
    rw [Record.streamLine, String.append_assoc, String.append_assoc, String.append_assoc]
    exact Text.head?_of_startsInLine (Text.startsInLine_append (by decide) _)
  | full =>
    simp only [Record.fileLine, String.append_assoc, String.toList_append]
    cases hcs : clock.toList with
    | nil => simp
    | cons c cs => simpa [hcs] using hclock

namespace Workspace

variable {w w' : Workspace}

/-- The same of all lines that a log writes for a run: neither the time of day nor a message begins one with a
line feed. -/
theorem head?_of_mem_linesOf {records : List Record} {line : List String × String}
    (hclock : w.clock.toList.head? ≠ some '\n') (hstart : StartInLines records) (hline : line ∈ w.linesOf records) :
    line.2.toList.head? ≠ some '\n' := by
  obtain ⟨r, hr, hline⟩ := List.mem_flatMap.mp hline
  obtain ⟨h, _, hline⟩ := List.mem_filterMap.mp hline
  obtain ⟨place, _, rfl⟩ := Option.map_eq_some_iff.mp hline
  exact h.head?_line hclock (hstart r hr)

/-- What reads alike at every place does so after any records. A log may go to a file that is read, so records
can be added between the reading of one source and the next. -/
theorem Agrees.readsAlike_of_bytesAt {isRead : Path → Prop} (hagrees : w.Agrees (fun _ => False) w')
    (hclock : w.clock.toList.head? ≠ some '\n')
    (halike : ∀ place, Text.ReadAlike (w.files.tree.bytesAt place) (w'.files.tree.bytesAt place)) :
    w.ReadsAlike isRead w' where
  agrees := hagrees
  texts := fun records hstart p _ => by
    have hafter := hagrees.noteAll records
    have hlines : w'.linesOf records = w.linesOf records := by
      rw [linesOf, linesOf, hagrees.filed, hagrees.clock]
    have hbytes := FileTree.bytesAt_appendLines (Text.ReadAlike.refl [])
      (fun line hline _ _ hbytes => hbytes.append (head?_of_mem_linesOf hclock hstart hline))
      (halike ((w.noteAll records).files.resolve p))
    rw [← noteAll_tree, ← hlines, ← noteAll_tree] at hbytes
    rw [FileSystem.textAt, FileSystem.textAt, ← hafter.current]
    obtain ⟨fault, hread, hread'⟩ | ⟨hread, hread'⟩ :=
      hafter.paths.read_cases (w.noteAll records).files.current p
    · rw [hread, hread']
    · rw [hread, hread']
      exact congrArg Except.ok hbytes.textOf_eq

/-- The workspace whose files have other line ends, each those that are told for its place. -/
def relined (ends : List String → Text.LineEnd) (w : Workspace) : Workspace :=
  { w with files := { w.files with tree := w.files.tree.relined ends [] } }

variable {ends : List String → Text.LineEnd}

/-- A file of text without carriage returns reads alike with any line ends. One that already holds a carriage
return would change its lines, and one that is no text has none. -/
theorem readsAlike_relined {isRead : Path → Prop} (hclock : w.clock.toList.head? ≠ some '\n')
    (htexts : ∀ place bytes, w.files.tree.get? place = some (.file bytes) → ends place ≠ .lf →
      ∃ text : String, bytes = Text.encodeUtf8 text ∧ '\r' ∉ text.toList) :
    (w.relined ends).ReadsAlike isRead w := by
  have hagrees : (w.relined ends).Agrees (fun _ => False) w :=
    ⟨rfl, rfl, rfl, rfl, rfl, rfl, FileTree.samePaths_relined ends [] w.files.tree, fun _ hnever => hnever.elim⟩
  refine hagrees.readsAlike_of_bytesAt hclock fun place => ?_
  rw [relined, FileTree.bytesAt_relined]
  refine .write fun hend => ?_
  rw [FileTree.bytesAt]
  -- Where there is no file, there is the empty text.
  rcases hget : w.files.tree.get? place with _ | bytes | entries
  · exact ⟨"", by simp, by simp⟩
  · exact htexts place bytes hget hend
  · exact ⟨"", by simp, by simp⟩

theorem sourcesBelow_relined (ends : List String → Text.LineEnd) (w : Workspace) :
    Pipeline.sourcesBelow (w.relined ends).files = Pipeline.sourcesBelow w.files := by
  funext root rules
  rw [Pipeline.sourcesBelow, Pipeline.sourcesBelow, relined, FileTree.get?_relined]
  cases w.files.tree.get? root with
  | none => rfl
  | some below => rw [Option.map_some, Option.getD_some, Option.getD_some, FileTree.sources_relined]

end Workspace

namespace Pipeline

open Text (LineEnd)

/-- Line ends make no difference. Whichever files are given other line ends, as long as they are texts without
carriage returns, a run ends with the same diagram or the same failure. -/
theorem run_relined (given : Option Settings) (source : String) (w : Workspace) (ends : List String → LineEnd)
    (hclock : w.clock.toList.head? ≠ some '\n')
    (htexts : ∀ place bytes, w.files.tree.get? place = some (.file bytes) → ends place ≠ .lf →
      ∃ text : String, bytes = Text.encodeUtf8 text ∧ '\r' ∉ text.toList) :
    ((run { settings := given } source).outcome (w.relined ends)).1 =
      ((run { settings := given } source).outcome w).1 := by
  have halike : (w.relined ends).ReadsAlike (fun _ => True) w := Workspace.readsAlike_relined hclock htexts
  exact (alike_run (fun _ _ => trivial) halike (Workspace.sourcesBelow_relined ends w)).result_eq

/-- A directory with a source and settings that leave out another one, which is no text. -/
def settledSource : Workspace where
  files.tree := .directory [("crate", .directory
    [(".ruml.yml", .file (Text.encodeUtf8 "exclude_paths:\n  - old\n")),
      ("src", .directory [("lib.rs", .file (Text.encodeUtf8 "struct A \x7b // a\n    b: u8,\n\x7d\n")),
        ("old", .directory [("x.rs", .file [0xff])])])])]

/-- The settings get pairs, the source gets carriage returns, and the rest stays as it is. -/
def mixedEnds (place : List String) : LineEnd :=
  if place = ["crate", ".ruml.yml"] then .crlf
  else if place = ["crate", "src", "lib.rs"] then .cr
  else .lf

/-- The settings have pairs and the source carriage returns. Were a carriage return no line end, the comment in
the source would take the rest of it along. -/
theorem run_settledSource_mixedEnds :
    settledSource.clock.toList.head? ≠ some '\n' ∧
      (∀ place bytes, settledSource.files.tree.get? place = some (.file bytes) → mixedEnds place ≠ .lf →
        ∃ text : String, bytes = Text.encodeUtf8 text ∧ '\r' ∉ text.toList) ∧
      (settledSource.relined mixedEnds).files.tree.bytesAt ["crate", "src", "lib.rs"] =
        Text.encodeUtf8 "struct A \x7b // a\r    b: u8,\r\x7d\r" ∧
      ((run {} "crate").outcome settledSource).1.toOption =
        some "@startuml\n\nclass \"A\" \x7b\n    + b: u8\n\x7d\n\n@enduml" ∧
      ((run {} "crate").outcome (settledSource.relined mixedEnds)).1 =
        ((run {} "crate").outcome settledSource).1 := by
  have htexts (place : List String) (bytes : List UInt8)
      (hget : settledSource.files.tree.get? place = some (.file bytes)) (hend : mixedEnds place ≠ .lf) :
      ∃ text : String, bytes = Text.encodeUtf8 text ∧ '\r' ∉ text.toList := by
    rw [mixedEnds] at hend
    split_ifs at hend with hsettings hsource
    · obtain rfl := hsettings
      cases hget
      exact ⟨_, rfl, by decide⟩
    · obtain rfl := hsource
      cases hget
      exact ⟨_, rfl, by decide⟩
    · exact absurd rfl hend
  exact ⟨by decide, htexts, by decide +kernel, by decide +kernel,
    run_relined none "crate" settledSource mixedEnds (by decide) htexts⟩

end Pipeline

end ClassDiagram
