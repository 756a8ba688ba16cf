import ClassDiagram.Files.Walk
import ClassDiagram.Proofs.Files.Listing
import Mathlib.Data.List.Sort

namespace ClassDiagram.FileTree

/-- The order of a walk: the files of a directory by name, then what is below its directories by their
names. -/
inductive WalksBefore : List String → List String → Prop
  | files {a b : String} (hlt : a < b) : WalksBefore [a] [b]
  | fileFirst {a b : String} {bs : List String} (hbs : bs ≠ []) : WalksBefore [a] (b :: bs)
  | directories {a b : String} {as bs : List String} (hlt : a < b) (has : as ≠ []) (hbs : bs ≠ []) :
      WalksBefore (a :: as) (b :: bs)
  | inside {name : String} {as bs : List String} (hbelow : WalksBefore as bs) :
      WalksBefore (name :: as) (name :: bs)

/-- Every directory on the way to a place below `names` is entered. -/
def IsReached (rules : List IgnoreRule) (names place : List String) : Prop :=
  ∀ ancestor, ancestor ≠ [] → ancestor <+: place → ancestor ≠ place →
    isEntered rules (names ++ ancestor) = true

namespace WalksBefore

theorem ne_nil {as bs : List String} (hbefore : WalksBefore as bs) : as ≠ [] ∧ bs ≠ [] := by
  cases hbefore <;> simp

/-- The order of two places is decided below what they have in common. A walk of a subdirectory therefore orders
its places as a walk of the whole does. -/
theorem append_left {as bs : List String} (hbefore : WalksBefore as bs) (names : List String) :
    WalksBefore (names ++ as) (names ++ bs) := by
  induction names with
  | nil => exact hbefore
  | cons name names ih => exact .inside ih

/-- No two files come before each other. A file of a directory comes before those below its directories,
whatever the names, and names are never less than each other. -/
theorem asymm {as bs : List String} (hbefore : WalksBefore as bs) : ¬ WalksBefore bs as := by
  induction hbefore with
  | files hlt =>
    intro hafter
    cases hafter with
    | files hgt => exact String.lt_asymm hlt hgt
    | fileFirst hbs => exact hbs rfl
    | directories _ has _ => exact has rfl
    | inside hbelow => exact hbelow.ne_nil.1 rfl
  | fileFirst hbs =>
    intro hafter
    cases hafter with
    | files _ => exact hbs rfl
    | fileFirst hnil => exact hnil rfl
    | directories _ _ hnil => exact hnil rfl
    | inside hbelow => exact hbelow.ne_nil.2 rfl
  | directories hlt has hbs =>
    intro hafter
    cases hafter with
    | files _ => exact has rfl
    | fileFirst _ => exact hbs rfl
    | directories hgt _ _ => exact String.lt_asymm hlt hgt
    | inside _ => exact String.lt_irrefl _ hlt
  | inside hbelow ih =>
    intro hafter
    cases hafter with
    | files hgt => exact hbelow.ne_nil.1 rfl
    | fileFirst _ => exact hbelow.ne_nil.2 rfl
    | directories hgt _ _ => exact String.lt_irrefl _ hgt
    | inside hback => exact ih hback

theorem irrefl (as : List String) : ¬ WalksBefore as as :=
  fun hbefore => hbefore.asymm hbefore

/-- A list in the order of walks repeats nothing, because no place comes before itself. -/
theorem nodup {found : List (List String)} (hfound : found.Pairwise WalksBefore) : found.Nodup := by
  refine hfound.imp fun {a b} hbefore hsame => ?_
  exact irrefl b (hsame ▸ hbefore)

/-- A list in the order of walks is determined by its members. Two walks that find the same files are the same
list. -/
theorem eq_of_mem_iff {found other : List (List String)} (hfound : found.Pairwise WalksBefore)
    (hother : other.Pairwise WalksBefore) (hmem : ∀ place, place ∈ found ↔ place ∈ other) : found = other := by
  have hperm : found.Perm other := (List.perm_ext_iff_of_nodup (nodup hfound) (nodup hother)).mpr hmem
  refine List.Perm.eq_of_pairwise ?_ hfound hother hperm
  intro a b _ _ hbefore hafter
  exact absurd hafter hbefore.asymm

end WalksBefore

theorem isReached_singleton (rules : List IgnoreRule) (names : List String) (name : String) :
    IsReached rules names [name] := by
  intro ancestor hne hprefix hproper
  obtain ⟨rest, hrest⟩ := hprefix
  cases ancestor with
  | nil => exact absurd rfl hne
  | cons first ancestor =>
    obtain ⟨rfl, hnil⟩ := List.cons.inj hrest
    rw [(List.append_eq_nil_iff.mp hnil).1] at hproper
    exact absurd rfl hproper

/-- The directories on the way to a place are its first component and those on the way from there. A walk goes
down one of them at a time. -/
theorem isReached_cons_iff (rules : List IgnoreRule) (names : List String) (name : String)
    {rest : List String} (hrest : rest ≠ []) :
    IsReached rules names (name :: rest) ↔
      isEntered rules (names ++ [name]) = true ∧ IsReached rules (names ++ [name]) rest := by
  constructor
  · intro hreached
    refine ⟨hreached [name] (by simp) ⟨rest, rfl⟩ (by simpa using hrest.symm), ?_⟩
    intro ancestor _ hprefix hproper
    have hprefix' : name :: ancestor <+: name :: rest := List.cons_prefix_cons.mpr ⟨rfl, hprefix⟩
    simpa using hreached (name :: ancestor) (by simp) hprefix' (by simpa using hproper)
  · rintro ⟨hfirst, hreached⟩ ancestor hne hprefix hproper
    cases ancestor with
    | nil => exact absurd rfl hne
    | cons first ancestor =>
      obtain ⟨rfl, hbelow⟩ := List.cons_prefix_cons.mp hprefix
      by_cases hempty : ancestor = []
      · rwa [hempty]
      · simpa using hreached ancestor hempty hbelow (by simpa using hproper)

theorem mem_fileNames {entries : List (String × FileTree)} {name : String} :
    name ∈ fileNames entries ↔ ∃ bytes, (name, .file bytes) ∈ entries := by
  induction entries with
  | nil => simp [fileNames]
  | cons entry rest ih =>
    obtain ⟨other, tree⟩ := entry
    cases tree with
    | file bytes => simp [fileNames, ih, exists_or]
    | directory below => simp [fileNames, ih]

theorem fileNames_sublist (entries : List (String × FileTree)) :
    (fileNames entries).Sublist (entries.map Prod.fst) := by
  induction entries with
  | nil => exact .slnil
  | cons entry rest ih =>
    obtain ⟨other, tree⟩ := entry
    cases tree with
    | file bytes => exact ih.cons_cons other
    | directory below => exact ih.cons other

/-- What is found below the directories among the entries, entry by entry: directories that are not entered and
files contribute nothing. -/
theorem walkEntries_eq_filterMap (rules : List IgnoreRule) (names : List String)
    (entries : List (String × FileTree)) :
    walkEntries rules names entries = entries.filterMap fun entry =>
      if entry.2.isDirectory && isEntered rules (names ++ [entry.1]) then
        some (entry.1, walk rules (names ++ [entry.1]) entry.2)
      else none := by
  induction entries with
  | nil => simp [walkEntries]
  | cons entry rest ih =>
    obtain ⟨name, tree⟩ := entry
    cases tree with
    | file bytes => simp [walkEntries, isDirectory, ih]
    | directory below =>
      by_cases hentered : isEntered rules (names ++ [name])
      · simp [walkEntries, isDirectory, ih, hentered]
      · simp [walkEntries, isDirectory, ih, hentered]

/-- A directory contributes if it is entered, and then all that a walk of it finds. -/
theorem mem_walkEntries {rules : List IgnoreRule} {names : List String} {entries : List (String × FileTree)}
    {name : String} {found : List (List String)} :
    (name, found) ∈ walkEntries rules names entries ↔
      ∃ tree, (name, tree) ∈ entries ∧ tree.isDirectory = true ∧ isEntered rules (names ++ [name]) = true ∧
        found = walk rules (names ++ [name]) tree := by
  rw [walkEntries_eq_filterMap, List.mem_filterMap]
  constructor
  · rintro ⟨⟨other, tree⟩, hmem, hfound⟩
    dsimp only at hfound
    split at hfound
    · next hentered =>
      obtain ⟨rfl, rfl⟩ := Prod.mk.inj (Option.some.inj hfound)
      obtain ⟨hdirectory, hentered⟩ := Bool.and_eq_true_iff.mp hentered
      exact ⟨tree, hmem, hdirectory, hentered, rfl⟩
    · cases hfound
  · rintro ⟨tree, hmem, hdirectory, hentered, rfl⟩
    exact ⟨(name, tree), hmem, by simp [hdirectory, hentered]⟩

/-- The names of the directories that are entered are among those that are listed, hence distinct. -/
theorem map_fst_walkEntries_sublist (rules : List IgnoreRule) (names : List String)
    (entries : List (String × FileTree)) :
    ((walkEntries rules names entries).map Prod.fst).Sublist (entries.map Prod.fst) := by
  induction entries with
  | nil => simp [walkEntries]
  | cons entry rest ih =>
    obtain ⟨name, tree⟩ := entry
    cases tree with
    | file bytes =>
      rw [walkEntries]
      exact ih.cons name
    | directory below =>
      rw [walkEntries]
      split
      · exact ih.cons_cons name
      · exact ih.cons name

/-- A walk finds the files of a directory that are kept, and what it finds in the directories it enters. -/
theorem mem_walk_directory {rules : List IgnoreRule} {names : List String}
    {entries : List (String × FileTree)} {place : List String} :
    place ∈ walk rules names (.directory entries) ↔
      (∃ name bytes, (name, .file bytes) ∈ entries ∧ place = names ++ [name] ∧ isKept rules place = true) ∨
        ∃ name tree, (name, tree) ∈ entries ∧ tree.isDirectory = true ∧
          isEntered rules (names ++ [name]) = true ∧ place ∈ walk rules (names ++ [name]) tree := by
  rw [walk, List.mem_append]
  refine or_congr ?_ ?_
  · simp only [sortByName, List.mem_filter, List.mem_map, List.mem_mergeSort, mem_fileNames]
    constructor
    · rintro ⟨⟨_, ⟨name, ⟨bytes, hmem⟩, rfl⟩, rfl⟩, hkept⟩
      exact ⟨name, bytes, hmem, rfl, hkept⟩
    · rintro ⟨name, bytes, hmem, rfl, hkept⟩
      exact ⟨⟨(name, ()), ⟨name, ⟨bytes, hmem⟩, rfl⟩, rfl⟩, hkept⟩
  · simp only [sortByName, List.mem_flatMap, List.mem_mergeSort]
    constructor
    · rintro ⟨⟨name, found⟩, hmem, hplace⟩
      obtain ⟨tree, htree, hdirectory, hentered, rfl⟩ := mem_walkEntries.mp hmem
      exact ⟨name, tree, htree, hdirectory, hentered, hplace⟩
    · rintro ⟨name, tree, htree, hdirectory, hentered, hplace⟩
      exact ⟨(name, _), mem_walkEntries.mpr ⟨tree, htree, hdirectory, hentered, rfl⟩, hplace⟩

/-- The files that a walk finds are those of the whole tree that are kept and whose directories are all entered.
The right side looks at a file and at each directory above it on its own, while the walk passes over a directory
and so over all that is in it. -/
theorem mem_walk {rules : List IgnoreRule} {names place : List String} {tree : FileTree}
    (hdistinct : tree.NamesDistinct) :
    place ∈ walk rules names tree ↔ ∃ below, below ≠ [] ∧ place = names ++ below ∧ tree.IsFileAt below ∧
      isKept rules place = true ∧ IsReached rules names below := by
  induction hdistinct generalizing names with
  | file bytes =>
    simp only [walk, List.not_mem_nil, false_iff]
    rintro ⟨below, hne, _, hfile, _⟩
    obtain ⟨name, rest, rfl⟩ := List.exists_cons_of_ne_nil hne
    exact not_isFileAt_file_cons bytes name rest hfile
  | directory entries hnames hbelow ih =>
    rw [mem_walk_directory]
    constructor
    · rintro (⟨name, bytes, hmem, rfl, hkept⟩ | ⟨name, tree, hmem, hdirectory, hentered, hplace⟩)
      · refine ⟨[name], by simp, rfl, ?_, hkept, isReached_singleton rules names name⟩
        exact (isFileAt_cons_iff hnames name []).mpr ⟨.file bytes, hmem, bytes, rfl⟩
      · obtain ⟨below, hne, rfl, hfile, hkept, hreached⟩ := (ih (name, tree) hmem).mp hplace
        refine ⟨name :: below, by simp, by simp, ?_, hkept, ?_⟩
        · exact (isFileAt_cons_iff hnames name below).mpr ⟨tree, hmem, hfile⟩
        · exact (isReached_cons_iff rules names name hne).mpr ⟨hentered, hreached⟩
    · rintro ⟨below, hne, rfl, hfile, hkept, hreached⟩
      obtain ⟨name, rest, rfl⟩ := List.exists_cons_of_ne_nil hne
      obtain ⟨tree, hmem, hfile⟩ := (isFileAt_cons_iff hnames name rest).mp hfile
      -- The place is a file of this directory, or lies in one of its directories.
      by_cases hrest : rest = []
      · subst hrest
        obtain ⟨bytes, hget⟩ := hfile
        obtain rfl : tree = .file bytes := Option.some.inj hget
        exact .inl ⟨name, bytes, hmem, rfl, hkept⟩
      · have hdirectory : tree.isDirectory = true := by
          cases tree with
          | file bytes =>
            obtain ⟨first, rest, rfl⟩ := List.exists_cons_of_ne_nil hrest
            exact absurd hfile (not_isFileAt_file_cons bytes first rest)
          | directory entries => rfl
        obtain ⟨hentered, hreached⟩ := (isReached_cons_iff rules names name hrest).mp hreached
        refine .inr ⟨name, tree, hmem, hdirectory, hentered, ?_⟩
        exact (ih (name, tree) hmem).mpr ⟨rest, hrest, by simp, hfile, hkept, hreached⟩

/-- Names that are listed once are in ascending order after sorting, with no two alike. -/
theorem sortByName_pairwise {α : Type} {entries : List (String × α)}
    (hnames : (entries.map Prod.fst).Nodup) :
    (sortByName entries).Pairwise fun a b => a.1 < b.1 := by
  have hsorted : (sortByName entries).Pairwise fun a b => decide (a.1 ≤ b.1) = true := by
    refine List.pairwise_mergeSort (fun a b c hab hbc => ?_) (fun a b => ?_) entries
    · exact decide_eq_true (String.le_trans (of_decide_eq_true hab) (of_decide_eq_true hbc))
    · simpa using String.le_total a.1 b.1
  have hperm : (sortByName entries).Perm entries := List.mergeSort_perm entries _
  have hdiffer : (sortByName entries).Pairwise fun a b => a.1 ≠ b.1 :=
    List.pairwise_map.mp ((hperm.map Prod.fst).nodup_iff.mpr hnames)
  refine (hsorted.and hdiffer).imp fun {a b} h => ?_
  obtain ⟨hle, hne⟩ := h
  by_contra hnot
  exact hne (String.le_antisymm (by simpa using hle) (String.not_lt.mp hnot))

/-- The files of a walk come in the order of walks, and so each of them once. The order in which a file system
lists a directory does not show. -/
theorem walk_pairwise (rules : List IgnoreRule) {tree : FileTree} (hdistinct : tree.NamesDistinct)
    (names : List String) : (walk rules names tree).Pairwise WalksBefore := by
  induction hdistinct generalizing names with
  | file bytes => simp [walk]
  | directory entries hnames hbelow ih =>
    -- What is found below an entry is told from the files of this directory by a second component.
    have hstart {name : String} {tree : FileTree} {place : List String} (hmem : (name, tree) ∈ entries)
        (hplace : place ∈ walk rules (names ++ [name]) tree) :
        ∃ below, below ≠ [] ∧ place = names ++ name :: below := by
      obtain ⟨below, hne, hbelow', _⟩ := (mem_walk (hbelow _ hmem)).mp hplace
      exact ⟨below, hne, by simpa using hbelow'⟩
    rw [walk]
    refine List.pairwise_append.mpr ⟨List.Pairwise.filter _ ?_, ?_, ?_⟩
    · have hfiles : (((fileNames entries).map fun name => (name, ())).map Prod.fst).Nodup := by
        simpa [Function.comp_def] using (fileNames_sublist entries).nodup hnames
      refine List.pairwise_map.mpr ((sortByName_pairwise hfiles).imp fun {a b} hlt => ?_)
      exact WalksBefore.append_left (.files hlt) names
    · have hdirectories := sortByName_pairwise
        ((map_fst_walkEntries_sublist rules names entries).nodup hnames)
      refine List.pairwise_flatMap.mpr ⟨?_, ?_⟩
      · rintro ⟨name, found⟩ hfound
        obtain ⟨tree, hmem, _, _, rfl⟩ := mem_walkEntries.mp (List.mem_mergeSort.mp hfound)
        exact ih (name, tree) hmem (names ++ [name])
      · refine hdirectories.imp_of_mem fun {a b} ha hb hlt x hx y hy => ?_
        obtain ⟨tree, hmem, _, _, hfound⟩ := mem_walkEntries.mp (List.mem_mergeSort.mp ha)
        obtain ⟨tree', hmem', _, _, hfound'⟩ := mem_walkEntries.mp (List.mem_mergeSort.mp hb)
        obtain ⟨as, has, rfl⟩ := hstart hmem (hfound ▸ hx)
        obtain ⟨bs, hbs, rfl⟩ := hstart hmem' (hfound' ▸ hy)
        exact WalksBefore.append_left (.directories hlt has hbs) names
    · intro x hx y hy
      obtain ⟨⟨⟨name, _⟩, _, rfl⟩, _⟩ := by simpa only [List.mem_filter, List.mem_map] using hx
      obtain ⟨⟨other, found⟩, hfound, hy⟩ := List.mem_flatMap.mp hy
      obtain ⟨tree, hmem, _, _, rfl⟩ := mem_walkEntries.mp (List.mem_mergeSort.mp hfound)
      obtain ⟨bs, hbs, rfl⟩ := hstart hmem hy
      exact WalksBefore.append_left (.fileFirst hbs) names

/-- What a scan of a tree selects: the files with one of the suffixes that are not ignored themselves and
stand below no directory that is always left out or ignored. -/
structure Selected (suffixes : List String) (rules : List IgnoreRule) (tree : FileTree)
    (place : List String) : Prop where
  isBelow : place ≠ []
  isFile : tree.IsFileAt place
  hasSuffix : Text.lower (Path.suffixOfName (place.getLastD "")) ∈ suffixes
  notIgnored : IgnoreRule.ignores rules (relativeText place) false = false
  notBelowIgnored : ∀ directory, directory ≠ [] → directory <+: place → directory ≠ place →
    directory.getLastD "" ∉ excludedDirectories ∧
      IgnoreRule.ignores rules (relativeText directory) true = false

/-- A directory is entered unless its name is one that is always left out or the rules ignore it as a directory. -/
theorem isEntered_iff {rules : List IgnoreRule} {names : List String} :
    isEntered rules names = true ↔
      names.getLastD "" ∉ excludedDirectories ∧
        IgnoreRule.ignores rules (relativeText names) true = false := by
  simp [isEntered]

/-- What a scan selects is told file by file. Rules are asked for the file and for each directory above it, the
directories that are left out by name count at any depth, and the suffix is the file's own. -/
theorem mem_sources {suffixes : List String} {rules : List IgnoreRule} {tree : FileTree}
    (hdistinct : tree.NamesDistinct) (place : List String) :
    place ∈ tree.sources suffixes rules ↔ tree.Selected suffixes rules place := by
  rw [sources, List.mem_filter, mem_walk hdistinct, List.contains_iff_mem]
  constructor
  · rintro ⟨⟨below, hne, rfl, hfile, hkept, hreached⟩, hsuffix⟩
    refine ⟨hne, hfile, hsuffix, by simpa [isKept] using hkept, ?_⟩
    intro directory hdirectory hprefix hproper
    exact isEntered_iff.mp (by simpa using hreached directory hdirectory hprefix hproper)
  · rintro ⟨hne, hfile, hsuffix, hkept, hreached⟩
    refine ⟨⟨place, hne, rfl, hfile, by simpa [isKept] using hkept, ?_⟩, hsuffix⟩
    intro directory hdirectory hprefix hproper
    exact isEntered_iff.mpr (hreached directory hdirectory hprefix hproper)

theorem sources_pairwise (suffixes : List String) (rules : List IgnoreRule) {tree : FileTree}
    (hdistinct : tree.NamesDistinct) : (tree.sources suffixes rules).Pairwise WalksBefore :=
  (walk_pairwise rules hdistinct []).filter _

theorem sources_nodup (suffixes : List String) (rules : List IgnoreRule) {tree : FileTree}
    (hdistinct : tree.NamesDistinct) : (tree.sources suffixes rules).Nodup :=
  WalksBefore.nodup (sources_pairwise suffixes rules hdistinct)

/-- Under rules that ignore more, fewer sources are found, and in the same order. The rules need to compare on
all paths, of files and directories. -/
theorem sources_sublist {tree : FileTree} (hdistinct : tree.NamesDistinct) {few more : List IgnoreRule}
    (hmore : ∀ path isDirectory, IgnoreRule.ignores few path isDirectory = true →
      IgnoreRule.ignores more path isDirectory = true) (suffixes : List String) :
    (tree.sources suffixes more).Sublist (tree.sources suffixes few) := by
  have hkept {path : String} {isDirectory : Bool} (hkept : IgnoreRule.ignores more path isDirectory = false) :
      IgnoreRule.ignores few path isDirectory = false := by
    rw [← Bool.not_eq_true] at hkept ⊢
    exact mt (hmore path isDirectory) hkept
  have hsubset : tree.sources suffixes more ⊆ tree.sources suffixes few := by
    intro place hplace
    rw [mem_sources hdistinct] at hplace ⊢
    refine { hplace with notIgnored := hkept hplace.notIgnored, notBelowIgnored := ?_ }
    intro directory hne hprefix hproper
    obtain ⟨hentered, hignored⟩ := hplace.notBelowIgnored directory hne hprefix hproper
    exact ⟨hentered, hkept hignored⟩
  have hantisymm : Std.Antisymm WalksBefore := ⟨fun a b hbefore hafter => absurd hafter hbefore.asymm⟩
  refine List.sublist_of_subperm_of_pairwise ?_ (sources_pairwise suffixes more hdistinct)
    (sources_pairwise suffixes few hdistinct)
  exact List.subperm_of_subset (sources_nodup suffixes more hdistinct) hsubset

/-- Which sources are found is determined by where the files are. What the files hold, which directories are
empty and how entries are listed makes no difference. -/
theorem sources_eq_of_isFileAt_iff {tree other : FileTree} (hdistinct : tree.NamesDistinct)
    (hdistinct' : other.NamesDistinct) (hfiles : ∀ place, tree.IsFileAt place ↔ other.IsFileAt place)
    (suffixes : List String) (rules : List IgnoreRule) :
    other.sources suffixes rules = tree.sources suffixes rules := by
  have hmem (place : List String) :
      place ∈ other.sources suffixes rules ↔ place ∈ tree.sources suffixes rules := by
    rw [mem_sources hdistinct', mem_sources hdistinct]
    constructor
    · intro hselected
      exact { hselected with isFile := (hfiles place).mpr hselected.isFile }
    · intro hselected
      exact { hselected with isFile := (hfiles place).mp hselected.isFile }
  exact WalksBefore.eq_of_mem_iff (sources_pairwise suffixes rules hdistinct')
    (sources_pairwise suffixes rules hdistinct) hmem

/-- Another listing of the same files leads to the same sources in the same order. -/
theorem Relisted.sources_eq {tree other : FileTree} (hlisted : Relisted tree other)
    (hdistinct : tree.NamesDistinct) (suffixes : List String) (rules : List IgnoreRule) :
    other.sources suffixes rules = tree.sources suffixes rules :=
  sources_eq_of_isFileAt_iff hdistinct (hlisted.namesDistinct hdistinct) (hlisted.isFileAt_iff hdistinct)
    suffixes rules

end ClassDiagram.FileTree
