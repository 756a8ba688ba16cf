import ClassDiagram.Ignore.Load
import ClassDiagram.Proofs.Files.Untouched

namespace ClassDiagram

namespace Path

/-- Two dots go one directory up and never become part of a place, whatever parts a path has and in which order. -/
theorem not_mem_foldl_extend {start : List String} (hstart : ".." ∉ start) (parts : List String) :
    ".." ∉ parts.foldl extend start := by
  induction parts generalizing start with
  | nil => exact hstart
  | cons part parts ih =>
    refine ih ?_
    rw [extend]
    split
    · exact fun hmem => hstart (List.dropLast_subset start hmem)
    · next hpart => simpa [hstart] using Ne.symm hpart

theorem foldl_extend_of_not_mem (start : List String) {parts : List String} (hparts : ".." ∉ parts) :
    parts.foldl extend start = start ++ parts := by
  induction parts generalizing start with
  | nil => simp
  | cons part parts ih =>
    rw [List.mem_cons, not_or] at hparts
    rw [List.foldl_cons, extend, if_neg (Ne.symm hparts.1), ih _ hparts.2, List.append_assoc]
    rfl

end Path

namespace FileTree

/-- Two dots name nothing in the tree. -/
def HasNoDots (tree : FileTree) : Prop :=
  ∀ place, (tree.get? place).isSome = true → ".." ∉ place

theorem hasNoDots_file (bytes : List UInt8) : (file bytes).HasNoDots := by
  intro place hthere
  cases place with
  | nil => exact List.not_mem_nil
  | cons name rest => simp [get?_file_cons] at hthere

/-- In a tree where no entry is called by two dots, none of the files below is reached through them. -/
theorem hasNoDots_directory {entries : List (String × FileTree)} (hnames : ∀ entry ∈ entries, entry.1 ≠ "..")
    (hbelow : ∀ entry ∈ entries, entry.2.HasNoDots) : (directory entries).HasNoDots := by
  intro place hthere
  cases place with
  | nil => exact List.not_mem_nil
  | cons name rest =>
    rw [get?_cons] at hthere
    cases hlookup : entries.lookup name with
    | none => simp [FileTree.entries, hlookup] at hthere
    | some below =>
      have hmem : (name, below) ∈ entries := by
        obtain ⟨before, after, rfl, _⟩ := List.lookup_eq_some_iff.mp hlookup
        simp
      rw [FileTree.entries, hlookup, Option.bind_some] at hthere
      rw [List.mem_cons, not_or]
      exact ⟨(hnames _ hmem).symm, hbelow _ hmem rest hthere⟩

/-- A path that spells the place of what is there leads to it. With two dots in the place it would lead
somewhere else, hence the condition on the name. -/
theorem locate_absolute {tree : FileTree} {place : List String}
    (hthere : (tree.get? place).isSome = true) (hplain : ".." ∉ place) (current : List String) :
    tree.locate current (.absolute place) = .ok place := by
  have hway (start rest : List String) (hthere : (tree.get? (start ++ rest)).isSome = true)
      (hplain : ".." ∉ rest) : tree.Passes start rest (start ++ rest) := by
    induction rest generalizing start with
    | nil =>
      rw [List.append_nil]
      exact .here
    | cons part rest ih =>
      rw [List.mem_cons, not_or] at hplain
      obtain ⟨found, hfound⟩ := Option.isSome_iff_exists.mp hthere
      have hstart := exists_directory_of_get?_append (List.cons_ne_nil part rest) hfound
      rw [List.append_cons] at hthere hfound ⊢
      have hpart : (tree.get? (start ++ [part])).isSome = true := by
        rw [get?_append] at hfound
        cases hget : tree.get? (start ++ [part]) with
        | none => simp [hget] at hfound
        | some below => rfl
      have hextend : start ++ [part] = Path.extend start part := by
        rw [Path.extend, if_neg (Ne.symm hplain.1)]
      exact .next (follow_eq_ok_iff.mpr ⟨hextend, hstart, .inr hpart⟩) (ih (start ++ [part]) hthere hplain.2)
  exact locate_eq_ok_iff.mpr (hway [] place hthere hplain)

end FileTree

namespace FileSystem

/-- Files as a system keeps them: the entries of a directory differ in their names, and two dots are the name of
none; they are no part of the place of the current directory either. -/
structure IsProper (files : FileSystem) : Prop where
  distinct : files.tree.NamesDistinct
  noDots : files.tree.HasNoDots
  current : ".." ∉ files.current

/-- A place that is not the source, nor inside the directory whose settings hold for the source. -/
structure IsApart (files : FileSystem) (source : Path) (place : List String) : Prop where
  notSource : ∀ p, files.expandHome source = .ok p → files.resolve p ≠ place
  notInside : ∀ root, Settings.directoryFor files source = .ok root → ∀ below ≠ [], root ++ below ≠ place

/-- The files are the same except at one place, and so are the directories to start from. -/
structure AlikeExcept (spared : Option (List String)) (files other : FileSystem) : Prop where
  tree : files.tree.AlikeExcept spared other.tree
  current : other.current = files.current
  home : other.home = files.home
  users : other.users = files.users
  distinct : other.tree.NamesDistinct

variable {files other : FileSystem} {spared : Option (List String)} {source p : Path}

/-- That files are proper can be told by a look at each directory, so that it is checked on concrete files by
evaluation. -/
theorem isProper_of_listsAll (htree : files.tree.listsAll (fun names => decide (names.Nodup ∧ ".." ∉ names)) = true)
    (hcurrent : ".." ∉ files.current) : files.IsProper where
  distinct := by
    refine FileTree.of_listsAll .file (fun entries hnames hbelow => ?_) files.tree htree
    exact .directory entries (of_decide_eq_true hnames).1 hbelow
  noDots := by
    refine FileTree.of_listsAll FileTree.hasNoDots_file (fun entries hnames hbelow => ?_) files.tree htree
    refine FileTree.hasNoDots_directory (fun entry hmem hdots => (of_decide_eq_true hnames).2 ?_) hbelow
    exact hdots ▸ List.mem_map_of_mem hmem
  current := hcurrent

/-- The place that a path leads to has no two dots in it, whether the path starts at the top or in the current
directory. -/
theorem IsProper.not_mem_resolve (hproper : files.IsProper) (p : Path) : ".." ∉ files.resolve p := by
  rw [resolve, Path.resolve]
  split
  · exact Path.not_mem_foldl_extend List.not_mem_nil _
  · exact Path.not_mem_foldl_extend hproper.current _

theorem resolve_absolute (files : FileSystem) {place : List String} (hplain : ".." ∉ place) :
    files.resolve (.absolute place) = place :=
  Path.foldl_extend_of_not_mem [] hplain

namespace AlikeExcept

theorem expandHome_eq (halike : files.AlikeExcept spared other) (p : Path) :
    other.expandHome p = files.expandHome p := by
  rw [expandHome, expandHome, halike.home, halike.users]

/-- A path leads to the same place in both, as where it starts is the same. What is at that place may differ. -/
theorem resolve_eq (halike : files.AlikeExcept spared other) (p : Path) : other.resolve p = files.resolve p := by
  rw [resolve, resolve, halike.current]

/-- What a path leads to has the same content in both unless the path leads to the spared place. -/
theorem lookup?_eq (halike : files.AlikeExcept spared other) (hp : spared ≠ some (files.resolve p)) :
    (other.lookup? p).map FileTree.content = (files.lookup? p).map FileTree.content := by
  rw [FileSystem.lookup?, FileSystem.lookup?, halike.current]
  exact halike.tree.lookup?_eq hp

/-- Whether there is anything at a path is the same away from the spared place. -/
theorem contains_eq (halike : files.AlikeExcept spared other) (hp : spared ≠ some (files.resolve p)) :
    other.contains p = files.contains p := by
  simpa [contains] using congrArg Option.isSome (halike.lookup?_eq hp)

/-- Whether there is a directory at a path is the same away from the spared place. A directory stays one if a
file in it is what differs. -/
theorem isDirectory_eq (halike : files.AlikeExcept spared other) (hp : spared ≠ some (files.resolve p)) :
    other.isDirectory p = files.isDirectory p := by
  have hkind (found : Option FileTree) :
      found.any FileTree.isDirectory = (found.map FileTree.content == some none) := by
    rcases found with _ | _ | _ <;> rfl
  rw [isDirectory, isDirectory, hkind, hkind, halike.lookup?_eq hp]

/-- A file away from the spared place is read with the same result. It has to be there: a path that leads
through the spared place may fail for another reason in the other files. -/
theorem readText_eq (halike : files.AlikeExcept spared other) (hp : spared ≠ some (files.resolve p))
    (hthere : files.contains p = true) : other.readText p = files.readText p := by
  have hread : other.readBytes p = files.readBytes p := by
    rw [readBytes, readBytes, halike.current, halike.tree.read_eq hp hthere]
  rw [readText, readText, hread]

/-- The directory whose settings hold for the source is looked for at the source alone, which is not at the
spared place. -/
theorem directoryFor_eq (halike : files.AlikeExcept spared other)
    (hapart : ∀ place ∈ spared, files.IsApart source place) :
    Settings.directoryFor other source = Settings.directoryFor files source := by
  rw [Settings.directoryFor, Settings.directoryFor, halike.expandHome_eq]
  cases hhome : files.expandHome source with
  | error failure => rfl
  | ok p =>
    have hp : spared ≠ some (files.resolve p) := fun hsame => (hapart _ hsame).notSource p hhome rfl
    simp only [bind, Except.bind, halike.isDirectory_eq hp, halike.resolve_eq]

/-- A file of the directory whose settings hold for the source is not at the spared place, because that place is
not inside this directory. -/
theorem ne_resolve_child (hproper : files.IsProper) (hapart : ∀ place ∈ spared, files.IsApart source place)
    {root : List String} (hroot : Settings.directoryFor files source = .ok root) (name : String)
    (hname : name ≠ "..") : spared ≠ some (files.resolve ((Path.absolute root).child name)) := by
  obtain ⟨p, _, rfl⟩ : ∃ p, files.expandHome source = .ok p ∧
      files.resolve (if files.isDirectory p then p else p.parent) = root := by
    rw [Settings.directoryFor] at hroot
    cases hhome : files.expandHome source with
    | error failure => simp [hhome, bind, Except.bind] at hroot
    | ok p => exact ⟨p, rfl, by simpa [hhome, bind, Except.bind, pure, Except.pure] using hroot⟩
  generalize hq : (if files.isDirectory p then p else p.parent) = q at hroot ⊢
  have hplain : ".." ∉ files.resolve q ++ [name] := by
    simpa [hproper.not_mem_resolve q] using Ne.symm hname
  have hchild : (Path.absolute (files.resolve q)).child name = .absolute (files.resolve q ++ [name]) := rfl
  rw [hchild, files.resolve_absolute hplain]
  intro hsame
  exact (hapart _ hsame).notInside _ hroot [name] (List.cons_ne_nil _ _) rfl

/-- The settings that hold for the source are the same. The file with the settings is looked up in the source's
own directory, which the spared place is no part of; if there is none in either, the defaults hold in both. -/
theorem load_eq (halike : files.AlikeExcept spared other) (hproper : files.IsProper)
    (hapart : ∀ place ∈ spared, files.IsApart source place) :
    Settings.load other source = Settings.load files source := by
  rw [Settings.load, Settings.load, halike.directoryFor_eq hapart]
  cases hroot : Settings.directoryFor files source with
  | error failure => rfl
  | ok root =>
    have hfile := ne_resolve_child hproper hapart hroot Settings.fileName (by decide)
    simp only [bind, Except.bind, halike.contains_eq hfile]
    split
    · next hthere => rw [halike.readText_eq hfile hthere]
    · rfl

/-- The rules of the ignore file in the directory of the source are the same, for the same reason as the
settings are. -/
theorem rules_eq (halike : files.AlikeExcept spared other) (hproper : files.IsProper)
    (hapart : ∀ place ∈ spared, files.IsApart source place) {root : List String}
    (hroot : Settings.directoryFor files source = .ok root) :
    IgnoreRule.load other ((Path.absolute root).child IgnoreRule.fileName) =
      IgnoreRule.load files ((Path.absolute root).child IgnoreRule.fileName) := by
  have hfile := ne_resolve_child hproper hapart hroot IgnoreRule.fileName (by decide)
  rw [IgnoreRule.load, IgnoreRule.load, halike.contains_eq hfile]
  split
  · next hthere => rw [halike.readText_eq hfile hthere]
  · rfl

end AlikeExcept

end FileSystem

end ClassDiagram
