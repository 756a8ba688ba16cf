import ClassDiagram.Files.System
import Mathlib.Data.List.Basic

namespace ClassDiagram.FileTree

@[simp] theorem get?_nil (tree : FileTree) : tree.get? [] = some tree := by
  cases tree <;> rfl

theorem get?_cons (tree : FileTree) (name : String) (names : List String) :
    tree.get? (name :: names) = (tree.entries.lookup name).bind (·.get? names) := by
  rw [get?]
  cases tree.entries.lookup name <;> rfl

/-- What is at a place below another is found by looking there first. Every statement about above and below
rests on this one. -/
theorem get?_append (tree : FileTree) (names rest : List String) :
    tree.get? (names ++ rest) = (tree.get? names).bind (·.get? rest) := by
  induction names generalizing tree with
  | nil => simp
  | cons name names ih =>
    rw [List.cons_append, get?_cons, get?_cons]
    cases tree.entries.lookup name with
    | none => rfl
    | some below => exact ih below

theorem get?_file_cons (bytes : List UInt8) (name : String) (names : List String) :
    (file bytes).get? (name :: names) = none := by
  rw [get?_cons]
  rfl

/-- Whatever is found below a place is found in the directory there; nothing is below a file. -/
theorem exists_directory_of_get?_append {tree found : FileTree} {names rest : List String} (hrest : rest ≠ [])
    (hget : tree.get? (names ++ rest) = some found) : ∃ entries, tree.get? names = some (.directory entries) := by
  rw [get?_append] at hget
  obtain ⟨above, habove, hbelow⟩ := Option.bind_eq_some_iff.mp hget
  obtain ⟨name, more, rfl⟩ := List.exists_cons_of_ne_nil hrest
  cases above with
  | file bytes => simp [get?_file_cons] at hbelow
  | directory entries => exact ⟨entries, habove⟩

theorem lookup_cons_ite (name other : String) (tree : FileTree) (entries : List (String × FileTree)) :
    ((name, tree) :: entries).lookup other = if other = name then some tree else entries.lookup other := by
  by_cases hname : other = name
  · subst hname
    simp
  · have hdiffer : (other == name) = false := by simpa using hname
    simp [List.lookup_cons, hdiffer, hname]

/-- An entry that was put is found under its name, and under every other name what was found there before. -/
theorem lookup_putEntry (name other : String) (tree : FileTree) (entries : List (String × FileTree)) :
    (putEntry name tree entries).lookup other = if other = name then some tree else entries.lookup other := by
  induction entries with
  | nil => rw [putEntry, lookup_cons_ite]
  | cons entry rest ih =>
    obtain ⟨first, below⟩ := entry
    rw [putEntry]
    by_cases hfirst : first = name
    · rw [if_pos hfirst, lookup_cons_ite, lookup_cons_ite]
      by_cases hname : other = name <;> simp [hfirst, hname]
    · rw [if_neg hfirst, lookup_cons_ite, lookup_cons_ite, ih]
      by_cases hname : other = name
      · simp [hname, Ne.symm hfirst]
      · simp [hname]

/-- One step down into a tree that something was put into: below the entry on the way the question is the same
one again, and the other entries are as they were. -/
theorem get?_put_cons (tree new : FileTree) (name other : String) (names place : List String) :
    (tree.put (name :: names) new).get? (other :: place) =
      if other = name then (((tree.entries.lookup name).getD (.directory [])).put names new).get? place
      else tree.get? (other :: place) := by
  rw [put, get?_cons, entries, lookup_putEntry, get?_cons]
  by_cases hname : other = name <;> simp [hname]

/-- At and below the place of a new tree is the new tree. What was there before is gone, directories with all
their entries included. -/
theorem get?_put_append (tree new : FileTree) (names rest : List String) :
    (tree.put names new).get? (names ++ rest) = new.get? rest := by
  induction names generalizing tree with
  | nil => rw [put, List.nil_append]
  | cons name names ih => rw [List.cons_append, get?_put_cons, if_pos rfl, ih]

@[simp] theorem get?_put_self (tree new : FileTree) (names : List String) :
    (tree.put names new).get? names = some new := by
  simpa using get?_put_append tree new names []

/-- Above the place of a new tree are directories, which were made if they were not there. -/
theorem get?_put_above (tree new : FileTree) (names : List String) {rest : List String} (hrest : rest ≠ []) :
    ∃ entries, (tree.put (names ++ rest) new).get? names = some (.directory entries) :=
  exists_directory_of_get?_append hrest (get?_put_self tree new (names ++ rest))

/-- Beside the place of a new tree nothing has changed: neither place lies on the way to the other, so their
ways part at some directory and the entries of other names in it are kept. -/
theorem get?_put_beside (tree new : FileTree) {names place : List String} (hbelow : ¬ names <+: place)
    (habove : ¬ place <+: names) : (tree.put names new).get? place = tree.get? place := by
  induction names generalizing tree place with
  | nil => exact absurd List.nil_prefix hbelow
  | cons name names ih =>
    cases place with
    | nil => exact absurd List.nil_prefix habove
    | cons other place =>
      rw [get?_put_cons]
      by_cases hname : other = name
      · subst hname
        rw [List.cons_prefix_cons] at hbelow habove
        simp only [true_and] at hbelow habove
        rw [if_pos rfl, ih _ hbelow habove, get?_cons]
        cases tree.entries.lookup other with
        | some below => rfl
        | none =>
          -- A directory that was made on the way is empty.
          obtain ⟨first, rest, rfl⟩ : ∃ first rest, place = first :: rest :=
            List.exists_cons_of_ne_nil fun hnil => habove (hnil ▸ List.nil_prefix)
          rw [Option.getD_none, get?_cons]
          rfl
      · rw [if_neg hname]

theorem get?_file_append (bytes : List UInt8) {rest : List String} (hrest : rest ≠ []) :
    (file bytes).get? rest = none := by
  obtain ⟨name, names, rfl⟩ := List.exists_cons_of_ne_nil hrest
  exact get?_file_cons bytes name names

/-- Where a place lies, seen from another one. -/
inductive SeenFrom (names : List String) : List String → Prop
  | there : SeenFrom names names
  | below {rest : List String} (hrest : rest ≠ []) : SeenFrom names (names ++ rest)
  | above {place rest : List String} (hrest : rest ≠ []) (hnames : names = place ++ rest) : SeenFrom names place
  | beside {place : List String} (hbelow : ¬ names <+: place) (habove : ¬ place <+: names) : SeenFrom names place

/-- Each place is the other one, below it, above it, or beside it. What a new file does to a place is told in
these four cases. -/
theorem seenFrom (names place : List String) : SeenFrom names place := by
  by_cases hbelow : names <+: place
  · obtain ⟨rest, rfl⟩ := hbelow
    by_cases hrest : rest = []
    · rw [hrest, List.append_nil]
      exact .there
    · exact .below hrest
  by_cases habove : place <+: names
  · obtain ⟨rest, rfl⟩ := habove
    exact .above (fun hrest => hbelow (by simp [hrest])) rfl
  · exact .beside hbelow habove

/-- Nothing is below a file that is put, even if there was something before. -/
theorem get?_put_below (tree : FileTree) (names : List String) (bytes : List UInt8) {rest : List String}
    (hrest : rest ≠ []) : (tree.put names (.file bytes)).get? (names ++ rest) = none := by
  rw [get?_put_append, get?_file_append bytes hrest]

/-- A new file holds its bytes. Places above or below it hold no file, and at all others the bytes are what they
were. -/
theorem bytesAt_put (tree : FileTree) (names place : List String) (bytes : List UInt8) :
    (tree.put names (.file bytes)).bytesAt place =
      if place = names then bytes
      else if names <+: place ∨ place <+: names then []
      else tree.bytesAt place := by
  rw [bytesAt]
  cases seenFrom names place with
  | there => simp
  | below hrest => simp [get?_put_below _ _ _ hrest, hrest]
  | @above place rest hrest hnames =>
    subst hnames
    obtain ⟨entries, hget⟩ := get?_put_above tree (.file bytes) place hrest
    simp [hget, hrest]
  | beside hbelow habove =>
    have hne : place ≠ names := fun hsame => habove (hsame ▸ List.prefix_rfl)
    rw [if_neg hne, if_neg (not_or.mpr ⟨hbelow, habove⟩), get?_put_beside _ _ hbelow habove, bytesAt]

/-- There is room for a file at a place: one that can be replaced, or a directory to put it into. -/
inductive HasRoomAt (tree : FileTree) : List String → Prop
  | replaced {names : List String} {bytes : List UInt8} (hfile : tree.get? names = some (.file bytes)) :
      HasRoomAt tree names
  | made {names : List String} {name : String} {entries : List (String × FileTree)}
      (hdirectory : tree.get? names = some (.directory entries)) (hfree : tree.get? (names ++ [name]) = none) :
      HasRoomAt tree (names ++ [name])

/-- A place with room for a file is not the place of a directory. -/
theorem HasRoomAt.not_directory {tree : FileTree} {names : List String} (hroom : tree.HasRoomAt names)
    {entries : List (String × FileTree)} : tree.get? names ≠ some (.directory entries) := by
  intro hget
  cases hroom with
  | replaced hfile => simp [hfile] at hget
  | made _ hfree => simp [hfree] at hget

/-- Nothing is below a place with room for a file, so nothing is lost when the file is put there. -/
theorem HasRoomAt.eq_nil_of_get?_append {tree found : FileTree} {names rest : List String}
    (hroom : tree.HasRoomAt names) (hget : tree.get? (names ++ rest) = some found) : rest = [] := by
  by_contra hrest
  obtain ⟨entries, hdirectory⟩ := exists_directory_of_get?_append hrest hget
  exact hroom.not_directory hdirectory

/-- Above a place with room for a file are directories, none of which needs to be made. -/
theorem HasRoomAt.exists_directory_above {tree : FileTree} {place rest : List String}
    (hroom : tree.HasRoomAt (place ++ rest)) (hrest : rest ≠ []) :
    ∃ entries, tree.get? place = some (.directory entries) := by
  generalize hnames : place ++ rest = names at hroom
  cases hroom with
  | replaced hfile =>
    subst hnames
    exact exists_directory_of_get?_append hrest hfile
  | @made above name entries hdirectory _ =>
    obtain ⟨more, last, rfl⟩ := (List.eq_nil_or_concat rest).resolve_left hrest
    rw [List.concat_eq_append, ← List.append_assoc] at hnames
    obtain ⟨rfl, _⟩ := List.append_inj' hnames rfl
    by_cases hmore : more = []
    · rw [hmore, List.append_nil] at hdirectory
      exact ⟨entries, hdirectory⟩
    · exact exists_directory_of_get?_append hmore hdirectory

/-- A place with room for a file is not below a file, since it is a file itself or belongs to a directory. -/
theorem HasRoomAt.eq_nil_of_file {tree : FileTree} {place rest : List String}
    (hroom : tree.HasRoomAt (place ++ rest)) {bytes : List UInt8}
    (hfile : tree.get? place = some (.file bytes)) : rest = [] := by
  by_contra hrest
  obtain ⟨entries, hdirectory⟩ := hroom.exists_directory_above hrest
  cases hfile.symm.trans hdirectory

/-- A file is found where it was after another one was put where there was room for it. The room is what keeps
the new file from standing above or below the old one. -/
theorem get?_put_of_file {tree new : FileTree} {names place : List String} (hroom : tree.HasRoomAt names)
    {bytes : List UInt8} (hfile : tree.get? place = some (.file bytes)) (hne : place ≠ names) :
    (tree.put names new).get? place = some (.file bytes) := by
  rw [get?_put_beside, hfile]
  · rintro ⟨rest, rfl⟩
    exact hne (by simp [hroom.eq_nil_of_get?_append hfile])
  · rintro ⟨rest, rfl⟩
    exact hne (by simp [hroom.eq_nil_of_file hfile])

/-- What was there is there, and a directory if it was one, after a file was put where there was room for it.
Every path that led somewhere therefore leads there still. -/
theorem isDirectory_get?_put {tree found : FileTree} {names place : List String} (bytes : List UInt8)
    (hroom : tree.HasRoomAt names) (hget : tree.get? place = some found) :
    ∃ found', (tree.put names (.file bytes)).get? place = some found' ∧
      found'.isDirectory = found.isDirectory := by
  cases seenFrom names place with
  | there =>
    cases found with
    | file old => exact ⟨_, get?_put_self tree (.file bytes) names, rfl⟩
    | directory entries => exact absurd hget hroom.not_directory
  | below hrest => exact absurd (hroom.eq_nil_of_get?_append hget) hrest
  | @above place rest hrest hnames =>
    subst hnames
    obtain ⟨entries, hdirectory⟩ := hroom.exists_directory_above hrest
    obtain ⟨entries', hput⟩ := get?_put_above tree (.file bytes) place hrest
    cases hdirectory.symm.trans hget
    exact ⟨_, hput, rfl⟩
  | beside hbelow habove => exact ⟨_, by rw [get?_put_beside _ _ hbelow habove, hget], rfl⟩

end ClassDiagram.FileTree
