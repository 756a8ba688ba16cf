import ClassDiagram.Proofs.Files.Paths
import ClassDiagram.Proofs.Text.LineEnd

namespace ClassDiagram.FileTree

open Text (LineEnd)

mutual

/-- The tree with other line ends in its files: `ends` tells them for the place of each file, and the tree itself
stands at `place`. -/
def relined (ends : List String → LineEnd) (place : List String) : FileTree → FileTree
  | .file bytes => .file ((ends place).write bytes)
  | .directory entries => .directory (relinedEntries ends place entries)

/-- The entries of the directory at `place` with other line ends in their files. -/
def relinedEntries (ends : List String → LineEnd) (place : List String) :
    List (String × FileTree) → List (String × FileTree)
  | [] => []
  | (name, tree) :: rest => (name, relined ends (place ++ [name]) tree) :: relinedEntries ends place rest

end

theorem entries_relined (ends : List String → LineEnd) (place : List String) (tree : FileTree) :
    (tree.relined ends place).entries = relinedEntries ends place tree.entries := by
  cases tree <;> simp [relined, entries, relinedEntries]

@[simp] theorem isDirectory_relined (ends : List String → LineEnd) (place : List String) (tree : FileTree) :
    (tree.relined ends place).isDirectory = tree.isDirectory := by
  cases tree <;> simp [relined, isDirectory]

/-- An entry is found under the name that it had, with the line ends of the place where it stands. -/
theorem lookup_relinedEntries (ends : List String → LineEnd) (place : List String) (name : String)
    (entries : List (String × FileTree)) :
    (relinedEntries ends place entries).lookup name =
      (entries.lookup name).map (relined ends (place ++ [name])) := by
  induction entries with
  | nil => rfl
  | cons entry rest ih =>
    obtain ⟨other, tree⟩ := entry
    rw [relinedEntries, lookup_cons_ite, lookup_cons_ite, ih]
    by_cases hname : name = other <;> simp [hname]

/-- What is found at a place has been given its line ends there. Files change in their contents and in nothing
else. -/
theorem get?_relined (ends : List String → LineEnd) (place names : List String) (tree : FileTree) :
    (tree.relined ends place).get? names = (tree.get? names).map (relined ends (place ++ names)) := by
  induction names generalizing tree place with
  | nil => simp
  | cons name names ih =>
    rw [get?_cons, get?_cons, entries_relined, lookup_relinedEntries]
    cases tree.entries.lookup name with
    | none => rfl
    | some below => simpa using ih (place ++ [name]) below

/-- Other line ends leave every path as it was, so that a path leads to the same place and a walk finds the same
files. -/
theorem samePaths_relined (ends : List String → LineEnd) (place : List String) (tree : FileTree) :
    (tree.relined ends place).SamePaths tree := by
  intro names
  rw [get?_relined, Option.map_map]
  congr 1
  funext below
  exact isDirectory_relined ends _ below

/-- A file holds what it held with the line ends that are chosen for its place; those of other files have no say
in it. -/
theorem bytesAt_relined (ends : List String → LineEnd) (tree : FileTree) (names : List String) :
    (tree.relined ends []).bytesAt names = (ends names).write (tree.bytesAt names) := by
  rw [bytesAt, bytesAt, get?_relined, List.nil_append]
  rcases tree.get? names with _ | bytes | entries <;> simp [relined, LineEnd.write]

theorem fileNames_relinedEntries (ends : List String → LineEnd) (place : List String)
    (entries : List (String × FileTree)) : fileNames (relinedEntries ends place entries) = fileNames entries := by
  induction entries with
  | nil => rfl
  | cons entry rest ih =>
    obtain ⟨name, tree⟩ := entry
    cases tree <;> simp [relinedEntries, relined, fileNames, ih]

mutual

/-- A walk goes by the names and kinds of entries alone, so it returns the same places in the same order. -/
theorem walk_relined (ends : List String → LineEnd) (rules : List IgnoreRule) (place names : List String) :
    (tree : FileTree) → walk rules names (tree.relined ends place) = walk rules names tree
  | .file bytes => by simp [relined, walk]
  | .directory entries => by
    simp only [relined, walk, fileNames_relinedEntries, walkEntries_relined ends rules place names entries]

theorem walkEntries_relined (ends : List String → LineEnd) (rules : List IgnoreRule) (place names : List String) :
    (entries : List (String × FileTree)) →
      walkEntries rules names (relinedEntries ends place entries) = walkEntries rules names entries
  | [] => by simp [relinedEntries]
  | (name, .file bytes) :: rest => by
    simp only [relinedEntries, relined, walkEntries, walkEntries_relined ends rules place names rest]
  | (name, .directory entries) :: rest => by
    have hbelow := walk_relined ends rules (place ++ [name]) (names ++ [name]) (.directory entries)
    rw [relined] at hbelow
    simp only [relinedEntries, relined, walkEntries, hbelow, walkEntries_relined ends rules place names rest]

end

theorem sources_relined (ends : List String → LineEnd) (place : List String) (suffixes : List String)
    (rules : List IgnoreRule) (tree : FileTree) :
    (tree.relined ends place).sources suffixes rules = tree.sources suffixes rules := by
  rw [sources, sources, walk_relined]

end ClassDiagram.FileTree
