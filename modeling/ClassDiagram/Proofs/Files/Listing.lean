import ClassDiagram.Files.Tree
import Mathlib.Data.List.Basic
import Mathlib.Data.List.Nodup

namespace ClassDiagram.FileTree

/-- Every directory of the tree lists each name once. -/
inductive NamesDistinct : FileTree → Prop
  | file (bytes : List UInt8) : NamesDistinct (.file bytes)
  | directory (entries : List (String × FileTree)) (hnames : (entries.map Prod.fst).Nodup)
      (hbelow : ∀ entry ∈ entries, NamesDistinct entry.2) : NamesDistinct (.directory entries)

mutual

/-- Do the names that each directory of the tree lists pass the test? -/
def listsAll (test : List String → Bool) : FileTree → Bool
  | .file _ => true
  | .directory entries => test (entries.map Prod.fst) && listsAllBelow test entries

/-- Do those that each directory in these entries lists? -/
def listsAllBelow (test : List String → Bool) : List (String × FileTree) → Bool
  | [] => true
  | (_, tree) :: rest => listsAll test tree && listsAllBelow test rest

end

mutual

/-- What holds of files, and of a directory whose names pass the test if it holds of its entries, holds of each
tree that passes it. A property of trees is so reduced to a test that can be evaluated. -/
theorem of_listsAll {test : List String → Bool} {holds : FileTree → Prop} (hfile : ∀ bytes, holds (.file bytes))
    (hdirectory : ∀ entries, test (entries.map Prod.fst) = true → (∀ entry ∈ entries, holds entry.2) →
      holds (.directory entries)) : (tree : FileTree) → tree.listsAll test = true → holds tree
  | .file bytes, _ => hfile bytes
  | .directory entries, htree => by
    rw [listsAll, Bool.and_eq_true] at htree
    exact hdirectory entries htree.1 (of_listsAllBelow hfile hdirectory entries htree.2)

theorem of_listsAllBelow {test : List String → Bool} {holds : FileTree → Prop} (hfile : ∀ bytes, holds (.file bytes))
    (hdirectory : ∀ entries, test (entries.map Prod.fst) = true → (∀ entry ∈ entries, holds entry.2) →
      holds (.directory entries)) :
    (entries : List (String × FileTree)) → listsAllBelow test entries = true → ∀ entry ∈ entries, holds entry.2
  | [], _ => by simp
  | (_, tree) :: rest, hentries => by
    rw [listsAllBelow, Bool.and_eq_true] at hentries
    rw [List.forall_mem_cons]
    exact ⟨of_listsAll hfile hdirectory tree hentries.1, of_listsAllBelow hfile hdirectory rest hentries.2⟩

end

/-- That the names are distinct can be told by a look at each directory. -/
theorem namesDistinct_of_listsAll {tree : FileTree} (htree : tree.listsAll (fun names => decide names.Nodup) = true) :
    tree.NamesDistinct :=
  of_listsAll .file (fun entries hnames => .directory entries (of_decide_eq_true hnames)) tree htree

/-- The same files, with the entries of some directories listed in another order. -/
inductive Relisted : FileTree → FileTree → Prop
  | refl (tree : FileTree) : Relisted tree tree
  | trans {first second third : FileTree} (hfirst : Relisted first second)
      (hsecond : Relisted second third) : Relisted first third
  | entries {entries entries' : List (String × FileTree)} (hperm : entries.Perm entries') :
      Relisted (.directory entries) (.directory entries')
  | inside {before after : List (String × FileTree)} {name : String} {tree tree' : FileTree}
      (hbelow : Relisted tree tree') :
      Relisted (.directory (before ++ (name, tree) :: after)) (.directory (before ++ (name, tree') :: after))

/-- There is a file at the place. -/
def IsFileAt (tree : FileTree) (place : List String) : Prop :=
  ∃ bytes, tree.get? place = some (.file bytes)

/-- Where names are listed once each, looking one up finds the entry of that name wherever it stands. This is
what makes the order of a listing irrelevant. -/
theorem lookup_eq_some_iff_mem {entries : List (String × FileTree)} (hnames : (entries.map Prod.fst).Nodup)
    {name : String} {tree : FileTree} : entries.lookup name = some tree ↔ (name, tree) ∈ entries := by
  induction entries with
  | nil => simp
  | cons entry rest ih =>
    obtain ⟨other, tree'⟩ := entry
    obtain ⟨hfresh, hrest⟩ := List.nodup_cons.mp hnames
    by_cases hname : name = other
    · subst hname
      have habsent : (name, tree) ∉ rest := fun hmem => hfresh (List.mem_map.mpr ⟨_, hmem, rfl⟩)
      simp [habsent, eq_comm]
    · have hdiffer : (name == other) = false := by simpa using hname
      simp [List.lookup_cons, hdiffer, hname, ih hrest]

/-- A directory has a file at a place below the entry of the first name if this entry has it at the rest. The
entry is told by membership, which another listing does not change. -/
theorem isFileAt_cons_iff {entries : List (String × FileTree)} (hnames : (entries.map Prod.fst).Nodup)
    (name : String) (rest : List String) :
    IsFileAt (.directory entries) (name :: rest) ↔ ∃ tree, (name, tree) ∈ entries ∧ tree.IsFileAt rest := by
  simp only [IsFileAt, get?, FileTree.entries]
  constructor
  · rintro ⟨bytes, hget⟩
    cases hlookup : entries.lookup name with
    | none => simp [hlookup] at hget
    | some tree =>
      rw [hlookup] at hget
      exact ⟨tree, (lookup_eq_some_iff_mem hnames).mp hlookup, bytes, hget⟩
  · rintro ⟨tree, hmem, bytes, hget⟩
    rw [(lookup_eq_some_iff_mem hnames).mpr hmem]
    exact ⟨bytes, hget⟩

theorem not_isFileAt_file_cons (bytes : List UInt8) (name : String) (rest : List String) :
    ¬ IsFileAt (.file bytes) (name :: rest) := by
  rintro ⟨found, hget⟩
  simp [get?, FileTree.entries] at hget

theorem not_isFileAt_directory_nil (entries : List (String × FileTree)) :
    ¬ IsFileAt (.directory entries) [] := by
  rintro ⟨found, hget⟩
  simp [get?] at hget

theorem Relisted.namesDistinct {tree tree' : FileTree} (hlisted : Relisted tree tree')
    (hdistinct : tree.NamesDistinct) : tree'.NamesDistinct := by
  induction hlisted with
  | refl tree => exact hdistinct
  | trans _ _ ihFirst ihSecond => exact ihSecond (ihFirst hdistinct)
  | entries hperm =>
    cases hdistinct with
    | directory _ hnames hbelow =>
      exact .directory _ ((hperm.map Prod.fst).nodup_iff.mp hnames) fun entry hentry =>
        hbelow entry (hperm.mem_iff.mpr hentry)
  | @inside before after name tree tree' _ ih =>
    cases hdistinct with
    | directory _ hnames hbelow =>
      refine .directory _ (by simpa using hnames) fun entry hentry => ?_
      rcases List.mem_append.mp hentry with hentry | hentry
      · exact hbelow entry (List.mem_append_left _ hentry)
      · rcases List.mem_cons.mp hentry with rfl | hentry
        · exact ih (hbelow (name, tree) (by simp))
        · exact hbelow entry (by simp [hentry])

/-- Another listing has the same files at the same places. A file system lists a directory in an order of its
own choice, so this is what a walk may depend on. -/
theorem Relisted.isFileAt_iff {tree tree' : FileTree} (hlisted : Relisted tree tree')
    (hdistinct : tree.NamesDistinct) (place : List String) :
    tree.IsFileAt place ↔ tree'.IsFileAt place := by
  induction hlisted generalizing place with
  | refl tree => rfl
  | trans hfirst _ ihFirst ihSecond =>
    exact (ihFirst hdistinct place).trans (ihSecond (hfirst.namesDistinct hdistinct) place)
  | entries hperm =>
    cases hdistinct with
    | directory _ hnames _ =>
      cases place with
      | nil => simp [not_isFileAt_directory_nil]
      | cons name rest =>
        rw [isFileAt_cons_iff hnames, isFileAt_cons_iff ((hperm.map Prod.fst).nodup_iff.mp hnames)]
        simp only [hperm.mem_iff]
  | @inside before after name tree tree' _ ih =>
    cases hdistinct with
    | directory _ hnames hbelow =>
      have hnames' : ((before ++ (name, tree') :: after).map Prod.fst).Nodup := by simpa using hnames
      have htree := ih (hbelow (name, tree) (by simp))
      cases place with
      | nil => simp [not_isFileAt_directory_nil]
      | cons other rest =>
        rw [isFileAt_cons_iff hnames, isFileAt_cons_iff hnames']
        simp only [List.mem_append, List.mem_cons, Prod.mk.injEq]
        constructor
        · rintro ⟨found, hmem | ⟨rfl, rfl⟩ | hmem, hfile⟩
          · exact ⟨found, .inl hmem, hfile⟩
          · exact ⟨tree', .inr (.inl ⟨rfl, rfl⟩), (htree rest).mp hfile⟩
          · exact ⟨found, .inr (.inr hmem), hfile⟩
        · rintro ⟨found, hmem | ⟨rfl, rfl⟩ | hmem, hfile⟩
          · exact ⟨found, .inl hmem, hfile⟩
          · exact ⟨tree, .inr (.inl ⟨rfl, rfl⟩), (htree rest).mpr hfile⟩
          · exact ⟨found, .inr (.inr hmem), hfile⟩

end ClassDiagram.FileTree
