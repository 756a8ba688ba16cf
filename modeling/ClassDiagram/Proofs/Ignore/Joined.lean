import ClassDiagram.Ignore.Load
import ClassDiagram.Proofs.Ignore.Verdict
import ClassDiagram.Proofs.Text.Lines
import ClassDiagram.Proofs.Text.Utf8

namespace ClassDiagram

/-- The file at the path holds the text. -/
def FileSystem.Holds (files : FileSystem) (p : Path) (text : String) : Prop :=
  files.readBytes p = .ok (Text.encodeUtf8 text)

namespace FileSystem

variable {files : FileSystem} {p : Path} {text : String}

/-- What can be read is there, so the file of rules is not passed over as missing. -/
theorem contains_of_readBytes {bytes : List UInt8} (hread : files.readBytes p = .ok bytes) :
    files.contains p = true := by
  rw [readBytes, FileTree.read] at hread
  rw [contains, lookup?, FileTree.lookup?]
  cases hlocate : files.tree.locate files.current p with
  | error fault => simp [hlocate, bind, Except.bind, Except.mapError] at hread
  | ok place =>
    dsimp only
    cases hget : files.tree.get? place with
    | none => simp [hlocate, hget, bind, Except.bind, Except.mapError] at hread
    | some found => rfl

/-- A text is read back with one kind of line end, so what a file of rules gives is told by the text that was
written to it. -/
theorem Holds.readText (hholds : files.Holds p text) :
    files.readText p = .ok (String.ofList (Text.unifyLineEnds text.toList)) := by
  rw [FileSystem.readText, hholds]
  simp [bind, Except.bind, textOf, Except.map, Except.mapError]

end FileSystem

namespace IgnoreRule

open Signature (splitAt)
open Text (isLineBoundary)

/-- The rules that the pieces of a text between boundaries give, one after the other. -/
def ofPieces (text : String) : List IgnoreRule :=
  (splitAt isLineBoundary text.toList).filterMap fun piece => ofLine? (String.ofList piece)

/-- An empty line gives no rule, so the rules of a text do not hang on how its lines are ended. A carriage
return in front of a line feed only adds an empty line when each of the two counts as an end. -/
theorem parse_unifyLineEnds (text : String) :
    parse (String.ofList (Text.unifyLineEnds text.toList)) = ofPieces text := by
  have hskip (lines : List (List Char)) :
      (lines.filter (· ≠ [])).filterMap (fun line => ofLine? (String.ofList line)) =
        lines.filterMap fun line => ofLine? (String.ofList line) := by
    rw [List.filterMap_filter]
    congr 1
    funext line
    by_cases hline : line = []
    · rw [hline]
      rfl
    · simp [hline]
  rw [parse, Text.lines, String.toList_ofList, List.filterMap_map, ofPieces, ← hskip,
    ← Text.filter_splitLines_unifyLineEnds, hskip]
  rfl

/-- The rules of a file that holds a text are those of its pieces. A file that is there and can be decoded
always gives rules, even if it gives none. -/
theorem load_of_holds {files : FileSystem} {p : Path} {text : String} (hholds : files.Holds p text) :
    load files p = .ok (ofPieces text) := by
  rw [load, if_pos (FileSystem.contains_of_readBytes hholds), hholds.readText, ← parse_unifyLineEnds]
  rfl

/-- The pieces of two texts with a boundary between them are those of the one and then those of the other. No
line runs over the boundary, whatever the texts end and start with. -/
theorem ofPieces_append {boundary : Char} (hboundary : isLineBoundary boundary = true) (a b : String) :
    ofPieces (a ++ String.singleton boundary ++ b) = ofPieces a ++ ofPieces b := by
  simp [ofPieces, Signature.splitAt_append_cut hboundary]

/-- A blank line and a comment. -/
def IsVoid (line : String) : Prop :=
  Text.strip line = "" ∨ (Text.strip line).toList.head? = some '#'

theorem ofLine?_of_isVoid {line : String} (hvoid : IsVoid line) : ofLine? line = none := by
  rw [IsVoid, Text.strip, String.toList_ofList] at hvoid
  rw [ofLine?]
  obtain hblank | hcomment := hvoid
  · rw [String.ofList_eq_empty_iff.mp hblank]
  · obtain ⟨rest, hrest⟩ := List.head?_eq_some_iff.mp hcomment
    rw [hrest]
    rfl

/-- A line by itself that is blank or a comment gives no rule, and being void is told after blanks at its ends
are taken off. -/
theorem ofPieces_of_isVoid {line : String} (hline : ∀ c ∈ line.toList, isLineBoundary c = false)
    (hvoid : IsVoid line) : ofPieces line = [] := by
  rw [ofPieces, Signature.splitAt_eq_singleton hline]
  simp [ofLine?_of_isVoid hvoid]

/-- Of the rules put behind others the last that matches a path decides; without one the others do. -/
theorem ignores_append_eq (own more : List IgnoreRule) (path : String) (isDirectory : Bool) :
    ignores (own ++ more) path isDirectory =
      match more.reverse.find? (·.accepts path isDirectory) with
      | some rule => !rule.negate
      | none => ignores own path isDirectory := by
  induction more using List.reverseRecOn with
  | nil => simp
  | append_singleton more rule ih =>
    rw [← List.append_assoc, ignores_concat, ih, List.reverse_concat, List.find?_cons]
    by_cases haccepts : rule.accepts path isDirectory = true
    · simp [haccepts]
    · simp [haccepts]

/-- Ignore files compose: the rules of two texts with a boundary of lines between them are those of the first
and then those of the second, and a line that is blank or a comment gives none. Rules that are put behind others
decide where one of them matches, by the last that does, and leave the decision to the others elsewhere. -/
theorem rules_of_joined :
    (∀ (files : FileSystem) (p q joined : Path) (a b : String) (boundary : Char),
      isLineBoundary boundary = true → files.Holds p a → files.Holds q b →
      files.Holds joined (a ++ String.singleton boundary ++ b) →
      ∃ own more, load files p = .ok own ∧ load files q = .ok more ∧ load files joined = .ok (own ++ more)) ∧
    (∀ (files : FileSystem) (p : Path) (line : String), (∀ c ∈ line.toList, isLineBoundary c = false) →
      IsVoid line → files.Holds p line → load files p = .ok []) ∧
    ∀ (own more : List IgnoreRule) (path : String) (isDirectory : Bool),
      ignores (own ++ more) path isDirectory =
        match more.reverse.find? (·.accepts path isDirectory) with
        | some rule => !rule.negate
        | none => ignores own path isDirectory := by
  refine ⟨fun files p q joined a b boundary hboundary ha hb hjoined => ?_,
    fun files p line hline hvoid hholds => ?_, ignores_append_eq⟩
  · refine ⟨_, _, load_of_holds ha, load_of_holds hb, ?_⟩
    rw [load_of_holds hjoined, ofPieces_append hboundary]
  · rw [load_of_holds hholds, ofPieces_of_isVoid hline hvoid]

/-- Two ignore files, a third that holds the lines of both, and one that holds only a comment. -/
def joinedFiles : FileSystem where
  tree := .directory
    [("first", .file (Text.encodeUtf8 "*.tmp\n")), ("second", .file (Text.encodeUtf8 "!keep.tmp")),
      ("both", .file (Text.encodeUtf8 ("*.tmp\n" ++ String.singleton '\n' ++ "!keep.tmp"))),
      ("comment", .file (Text.encodeUtf8 " # *.tmp"))]

/-- The second file keeps what the first leaves out: `keep.tmp` is ignored by the rules of the first alone and
not by those of both. -/
theorem rules_of_joinedFiles :
    isLineBoundary '\n' = true ∧ joinedFiles.Holds (Path.parse "first") "*.tmp\n" ∧
      joinedFiles.Holds (Path.parse "second") "!keep.tmp" ∧
      joinedFiles.Holds (Path.parse "both") ("*.tmp\n" ++ String.singleton '\n' ++ "!keep.tmp") ∧
      (∃ own more, load joinedFiles (Path.parse "first") = .ok own ∧
        load joinedFiles (Path.parse "second") = .ok more ∧
        load joinedFiles (Path.parse "both") = .ok (own ++ more)) ∧
      (∀ c ∈ " # *.tmp".toList, isLineBoundary c = false) ∧ IsVoid " # *.tmp" ∧
      joinedFiles.Holds (Path.parse "comment") " # *.tmp" ∧
      load joinedFiles (Path.parse "comment") = .ok [] ∧
      (load joinedFiles (Path.parse "first")).toOption.map (ignores · "keep.tmp" false) = some true ∧
      (load joinedFiles (Path.parse "both")).toOption.map (ignores · "keep.tmp" false) = some false := by
  obtain ⟨hjoined, hvoid, _⟩ := rules_of_joined
  have hboundary : isLineBoundary '\n' = true := by decide
  have hfirst : joinedFiles.Holds (Path.parse "first") "*.tmp\n" := rfl
  have hsecond : joinedFiles.Holds (Path.parse "second") "!keep.tmp" := rfl
  have hboth : joinedFiles.Holds (Path.parse "both") ("*.tmp\n" ++ String.singleton '\n' ++ "!keep.tmp") := rfl
  have hline : ∀ c ∈ " # *.tmp".toList, isLineBoundary c = false := by simp [isLineBoundary]
  have hcomment : IsVoid " # *.tmp" := .inr (by decide +kernel)
  have hholds : joinedFiles.Holds (Path.parse "comment") " # *.tmp" := rfl
  exact ⟨hboundary, hfirst, hsecond, hboth, hjoined _ _ _ _ _ _ _ hboundary hfirst hsecond hboth, hline, hcomment,
    hholds, hvoid _ _ _ hline hcomment hholds, by decide +kernel, by decide +kernel⟩

end IgnoreRule

end ClassDiagram
