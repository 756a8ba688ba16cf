import ClassDiagram.Proofs.Files.Put
import ClassDiagram.Proofs.Files.Walk

namespace ClassDiagram.FileTree

/-- The same places hold files and the same places hold directories, whatever the files hold. -/
def SamePaths (tree other : FileTree) : Prop :=
  ∀ place, (tree.get? place).map isDirectory = (other.get? place).map isDirectory

/-- All that is in a tree is in the other one, and is of the same kind there. -/
def Keeps (tree other : FileTree) : Prop :=
  ∀ place found, tree.get? place = some found →
    ∃ found', other.get? place = some found' ∧ found'.isDirectory = found.isDirectory

/-- A file that is put where there is room replaces a file or joins a directory, so nothing is lost and nothing
changes its kind. -/
theorem keeps_put {tree : FileTree} {names : List String} (bytes : List UInt8) (hroom : tree.HasRoomAt names) :
    tree.Keeps (tree.put names (.file bytes)) :=
  fun _ _ hget => isDirectory_get?_put bytes hroom hget

/-- A file that is put at the same place in both trees leaves their paths the same, whatever the two files hold. -/
theorem SamePaths.put {tree other : FileTree} (hsame : tree.SamePaths other) (names : List String)
    (bytes bytes' : List UInt8) : (tree.put names (.file bytes)).SamePaths (other.put names (.file bytes')) := by
  intro place
  cases seenFrom names place with
  | there => rw [get?_put_self, get?_put_self, Option.map_some, Option.map_some, isDirectory, isDirectory]
  | below hrest => rw [get?_put_below _ _ _ hrest, get?_put_below _ _ _ hrest]
  | @above place rest hrest hnames =>
    subst hnames
    obtain ⟨entries, hget⟩ := get?_put_above tree (.file bytes) place hrest
    obtain ⟨entries', hget'⟩ := get?_put_above other (.file bytes') place hrest
    rw [hget, hget', Option.map_some, Option.map_some, isDirectory, isDirectory]
  | beside hbelow habove => rw [get?_put_beside _ _ hbelow habove, get?_put_beside _ _ hbelow habove, hsame place]

theorem SamePaths.isSome_eq {tree other : FileTree} (hsame : tree.SamePaths other) (place : List String) :
    (tree.get? place).isSome = (other.get? place).isSome := by
  simpa using congrArg Option.isSome (hsame place)

theorem SamePaths.isFileAt_iff {tree other : FileTree} (hsame : tree.SamePaths other) (place : List String) :
    tree.IsFileAt place ↔ other.IsFileAt place := by
  have hkind (tree : FileTree) : tree.IsFileAt place ↔ (tree.get? place).map isDirectory = some false := by
    rw [IsFileAt]
    cases hget : tree.get? place with
    | none => simp
    | some found => cases found <;> simp [isDirectory]
  rw [hkind, hkind, hsame place]

/-- What stands below a place has the same paths in both trees, so a walk that starts there can be compared. -/
theorem SamePaths.below {tree other below : FileTree} {place : List String} (hsame : tree.SamePaths other)
    (hget : tree.get? place = some below) : ∃ below', other.get? place = some below' ∧ below.SamePaths below' := by
  have hsome := hsame.isSome_eq place
  rw [hget] at hsome
  obtain ⟨below', hget'⟩ := Option.isSome_iff_exists.mp hsome.symm
  refine ⟨below', hget', fun rest => ?_⟩
  have hrest := hsame (place ++ rest)
  rwa [get?_append, get?_append, hget, hget'] at hrest

/-- The sources of a tree are told by its paths. Which files a walk returns is decided by the places of files,
and no file is opened for it. -/
theorem SamePaths.sources_eq {tree other : FileTree} (hsame : tree.SamePaths other)
    (hdistinct : tree.NamesDistinct) (hdistinct' : other.NamesDistinct) (suffixes : List String)
    (rules : List IgnoreRule) : other.sources suffixes rules = tree.sources suffixes rules :=
  sources_eq_of_isFileAt_iff hdistinct hdistinct' hsame.isFileAt_iff suffixes rules

theorem NamesDistinct.of_get? {tree below : FileTree} {place : List String} (hdistinct : tree.NamesDistinct)
    (hget : tree.get? place = some below) : below.NamesDistinct := by
  induction place generalizing tree with
  | nil =>
    rw [get?_nil] at hget
    cases hget
    exact hdistinct
  | cons name place ih =>
    rw [get?_cons] at hget
    obtain ⟨found, hlookup, hbelow⟩ := Option.bind_eq_some_iff.mp hget
    cases hdistinct with
    | file bytes => cases hlookup
    | directory entries hnames hentries =>
      exact ih (hentries (name, found) ((lookup_eq_some_iff_mem hnames).mp hlookup)) hbelow

/-- Putting an entry replaces the one of its name or stands behind all others, so no name is listed twice. -/
theorem map_fst_putEntry (name : String) (tree : FileTree) (entries : List (String × FileTree)) :
    (putEntry name tree entries).map Prod.fst =
      if name ∈ entries.map Prod.fst then entries.map Prod.fst else entries.map Prod.fst ++ [name] := by
  induction entries with
  | nil => simp [putEntry]
  | cons entry rest ih =>
    by_cases hname : entry.1 = name
    · simp [putEntry, hname]
    · have hother : name ≠ entry.1 := fun hsame => hname hsame.symm
      simp only [putEntry, if_neg hname, List.map_cons, ih, List.mem_cons, hother, false_or]
      split <;> rfl

theorem mem_putEntry {name : String} {tree : FileTree} {entries : List (String × FileTree)}
    {entry : String × FileTree} (hmem : entry ∈ putEntry name tree entries) :
    entry = (name, tree) ∨ entry ∈ entries := by
  induction entries with
  | nil => exact .inl (List.mem_singleton.mp hmem)
  | cons first rest ih =>
    rw [putEntry] at hmem
    split at hmem
    · obtain rfl | hrest := List.mem_cons.mp hmem
      · exact .inl rfl
      · exact .inr (List.mem_cons_of_mem _ hrest)
    · obtain rfl | hrest := List.mem_cons.mp hmem
      · exact .inr List.mem_cons_self
      · exact (ih hrest).imp_right (List.mem_cons_of_mem _)

theorem namesDistinct_empty : NamesDistinct (.directory []) :=
  .directory [] List.nodup_nil (by simp)

theorem NamesDistinct.nodup_entries {tree : FileTree} (hdistinct : tree.NamesDistinct) :
    (tree.entries.map Prod.fst).Nodup ∧ ∀ entry ∈ tree.entries, entry.2.NamesDistinct := by
  cases hdistinct with
  | file bytes => simp [entries]
  | directory entries hnames hbelow => exact ⟨hnames, hbelow⟩

/-- Putting something into a tree lists no name twice. On the way down missing directories are made, each with
one entry. -/
theorem NamesDistinct.put {tree new : FileTree} (hdistinct : tree.NamesDistinct) (hnew : new.NamesDistinct)
    (names : List String) : (tree.put names new).NamesDistinct := by
  induction names generalizing tree with
  | nil =>
    rw [FileTree.put]
    exact hnew
  | cons name names ih =>
    obtain ⟨hnames, hbelow⟩ := hdistinct.nodup_entries
    have hthere : ((tree.entries.lookup name).getD (.directory [])).NamesDistinct := by
      cases hlookup : tree.entries.lookup name with
      | none => exact namesDistinct_empty
      | some found => exact hbelow _ ((lookup_eq_some_iff_mem hnames).mp hlookup)
    rw [FileTree.put]
    refine .directory _ ?_ ?_
    · rw [map_fst_putEntry]
      split
      · exact hnames
      · next hfresh => simpa using hnames.concat hfresh
    · intro entry hentry
      obtain rfl | hentry := mem_putEntry hentry
      · exact ih hthere
      · exact hbelow entry hentry

/-- One component of a path is followed by the kind of what stands where it starts, and by whether anything
stands where it ends. What files hold is never looked at. -/
theorem follow_eq (tree : FileTree) (names : List String) (part : String) :
    tree.follow names part =
      match (tree.get? names).map isDirectory with
      | none => .error .missing
      | some false => .error .notDirectory
      | some true =>
        if part = ".." then .ok names.dropLast
        else if (tree.get? (names ++ [part])).isSome then .ok (names ++ [part])
        else .error .missing := by
  rw [follow]
  cases hget : tree.get? names with
  | none => rfl
  | some found =>
    cases found with
    | file bytes => rfl
    | directory entries =>
      have hbelow : tree.get? (names ++ [part]) = entries.lookup part := by
        rw [get?_append, hget, Option.bind_some, get?_cons]
        simp [FileTree.entries]
      rw [hbelow]
      rfl

/-- Trees with the same paths follow each component alike, to the same place or with the same fault. -/
theorem SamePaths.follow_eq {tree other : FileTree} (hsame : tree.SamePaths other) :
    tree.follow = other.follow := by
  funext names part
  rw [FileTree.follow_eq, FileTree.follow_eq, hsame names, hsame.isSome_eq]

/-- Trees with the same paths lead each path to the same place or fail on it for the same reason. -/
theorem SamePaths.locate_eq {tree other : FileTree} (hsame : tree.SamePaths other) (current : List String)
    (p : Path) : tree.locate current p = other.locate current p := by
  rw [locate, hsame.follow_eq, locate]

/-- A component leads on from a directory only: up from there, or to what stands there under its name. -/
theorem follow_eq_ok_iff {tree : FileTree} {names place : List String} {part : String} :
    tree.follow names part = .ok place ↔
      place = Path.extend names part ∧ (∃ entries, tree.get? names = some (.directory entries)) ∧
        (part = ".." ∨ (tree.get? place).isSome = true) := by
  rw [follow_eq, Path.extend]
  cases hget : tree.get? names with
  | none => simp
  | some found =>
    cases found with
    | file bytes => simp [isDirectory]
    | directory entries =>
      rw [Option.map_some, isDirectory]
      dsimp only
      by_cases hpart : part = ".."
      · rw [if_pos hpart, if_pos hpart, Except.ok.injEq]
        exact ⟨fun h => ⟨h.symm, ⟨entries, rfl⟩, .inl hpart⟩, fun h => h.1.symm⟩
      · rw [if_neg hpart, if_neg hpart]
        constructor
        · intro hfollow
          split at hfollow
          · next hthere =>
            cases hfollow
            exact ⟨rfl, ⟨entries, rfl⟩, .inr hthere⟩
          · cases hfollow
        · rintro ⟨rfl, _, hthere⟩
          rw [if_pos (hthere.resolve_left hpart)]

/-- Components lead from one place to another one after the other. -/
inductive Passes (tree : FileTree) : List String → List String → List String → Prop
  | here {place : List String} : Passes tree place [] place
  | next {start between place : List String} {part : String} {parts : List String}
      (hfollow : tree.follow start part = .ok between) (hrest : Passes tree between parts place) :
      Passes tree start (part :: parts) place

/-- Following all components in turn succeeds exactly if they lead from place to place. The relation has one
case for each component and so serves inductions. -/
theorem foldlM_follow_eq_ok_iff {tree : FileTree} {start parts place : List String} :
    parts.foldlM tree.follow start = .ok place ↔ tree.Passes start parts place := by
  constructor
  · intro hlocate
    induction parts generalizing start with
    | nil =>
      cases hlocate
      exact .here
    | cons part parts ih =>
      rw [List.foldlM_cons] at hlocate
      cases hfollow : tree.follow start part with
      | error fault =>
        rw [hfollow] at hlocate
        cases hlocate
      | ok between =>
        rw [hfollow] at hlocate
        exact .next hfollow (ih hlocate)
  · intro hpasses
    induction hpasses with
    | here => rfl
    | next hfollow _ ih =>
      rw [List.foldlM_cons, hfollow]
      exact ih

theorem locate_eq_ok_iff {tree : FileTree} {current place : List String} {p : Path} :
    tree.locate current p = .ok place ↔
      tree.Passes (if p.isAbsolute then [] else current) p.parts place :=
  foldlM_follow_eq_ok_iff

/-- A tree that keeps all of another one follows a component to where it led before. Only success carries over:
what was missing may be there now. -/
theorem Keeps.follow_eq_ok {tree other : FileTree} (hkeeps : tree.Keeps other) {names place : List String}
    {part : String} (hfollow : tree.follow names part = .ok place) : other.follow names part = .ok place := by
  obtain ⟨hplace, ⟨entries, hget⟩, hthere⟩ := follow_eq_ok_iff.mp hfollow
  refine follow_eq_ok_iff.mpr ⟨hplace, ?_, hthere.imp_right fun hsome => ?_⟩
  · obtain ⟨found, hget', hkind⟩ := hkeeps names _ hget
    cases found with
    | file bytes => cases hkind
    | directory entries' => exact ⟨entries', hget'⟩
  · obtain ⟨below, hbelow⟩ := Option.isSome_iff_exists.mp hsome
    obtain ⟨below', hbelow', _⟩ := hkeeps place below hbelow
    rw [hbelow', Option.isSome_some]

/-- The same of all components of a path, by induction on how they lead on. -/
theorem Keeps.passes {tree other : FileTree} (hkeeps : tree.Keeps other) {start parts place : List String}
    (hpasses : tree.Passes start parts place) : other.Passes start parts place := by
  induction hpasses with
  | here => exact .here
  | next hfollow _ ih => exact .next (hkeeps.follow_eq_ok hfollow) ih

/-- A path goes on leading to where it led. So a file found before a file was written is found afterwards. -/
theorem Keeps.locate_eq_ok {tree other : FileTree} (hkeeps : tree.Keeps other) {current place : List String}
    {p : Path} (hlocate : tree.locate current p = .ok place) : other.locate current p = .ok place :=
  locate_eq_ok_iff.mpr (hkeeps.passes (locate_eq_ok_iff.mp hlocate))

/-- Where components lead to can be told from their texts, as there are no links in a tree. -/
theorem Passes.eq_foldl_extend {tree : FileTree} {start parts place : List String}
    (hpasses : tree.Passes start parts place) : place = parts.foldl Path.extend start := by
  induction hpasses with
  | here => rfl
  | next hfollow _ ih => rw [ih, (follow_eq_ok_iff.mp hfollow).1, List.foldl_cons]

/-- A path that leads anywhere leads to the place that its text tells. The tree decides only whether the path
leads anywhere. -/
theorem eq_resolve_of_locate {tree : FileTree} {current place : List String} {p : Path}
    (hlocate : tree.locate current p = .ok place) : place = p.resolve current :=
  (locate_eq_ok_iff.mp hlocate).eq_foldl_extend

theorem read_of_locate {tree : FileTree} {current place : List String} {p : Path}
    (hlocate : tree.locate current p = .ok place) :
    tree.read current p =
      match tree.get? place with
      | some (.file bytes) => .ok bytes
      | some (.directory _) => .error .isDirectory
      | none => .error .missing := by
  rw [read, hlocate]
  rfl

theorem read_of_locate_error {tree : FileTree} {current : List String} {p : Path} {fault : FileFault}
    (hlocate : tree.locate current p = .error fault) : tree.read current p = .error fault := by
  rw [read, hlocate]
  rfl

/-- In trees with the same paths a path cannot be read for the same fault, or gives what stands at its place in
each. All that can differ is the contents of one file. -/
theorem SamePaths.read_cases {tree other : FileTree} (hsame : tree.SamePaths other) (current : List String)
    (p : Path) :
    (∃ fault, tree.read current p = .error fault ∧ other.read current p = .error fault) ∨
      (tree.read current p = .ok (tree.bytesAt (p.resolve current)) ∧
        other.read current p = .ok (other.bytesAt (p.resolve current))) := by
  cases hlocate : tree.locate current p with
  | error fault =>
    exact .inl ⟨fault, read_of_locate_error hlocate, read_of_locate_error (hsame.locate_eq current p ▸ hlocate)⟩
  | ok place =>
    rw [read_of_locate hlocate, read_of_locate (hsame.locate_eq current p ▸ hlocate),
      ← eq_resolve_of_locate hlocate, bytesAt, bytesAt]
    have hkind := hsame place
    rcases hget : tree.get? place with _ | bytes | entries <;>
      rcases hget' : other.get? place with _ | bytes' | entries' <;>
      simp [hget, hget', isDirectory] at hkind ⊢

/-- Trees with the same paths read the same at a path whose file holds the same in both. Other files may differ. -/
theorem SamePaths.read_eq {tree other : FileTree} (hsame : tree.SamePaths other) {current : List String}
    {p : Path} (hbytes : tree.bytesAt (p.resolve current) = other.bytesAt (p.resolve current)) :
    tree.read current p = other.read current p := by
  obtain ⟨fault, hread, hread'⟩ | ⟨hread, hread'⟩ := hsame.read_cases current p
  · rw [hread, hread']
  · rw [hread, hread', hbytes]

/-- The last component of a path is followed from where the path without it leads. A file that is yet to be made
is looked for in this way. -/
theorem locate_of_parent {tree : FileTree} {current names : List String} {p : Path} (hparts : p.parts ≠ [])
    (hparent : tree.locate current p.parent = .ok names) :
    tree.locate current p = tree.follow names p.name := by
  have hsplit : p.parts = p.parent.parts ++ [p.name] := by
    rw [Path.parent, Path.name, List.getLastD_eq_getLast?, List.getLast?_eq_some_getLast hparts]
    exact (List.dropLast_append_getLast hparts).symm
  rw [locate, show p.parent.isAbsolute = p.isAbsolute from rfl] at hparent
  rw [locate, hsplit, List.foldlM_append, hparent]
  exact bind_pure (tree.follow names p.name)

/-- At a path that leads somewhere there is a place for a file if a file is there, which will be replaced. -/
theorem placeForFile_of_locate {tree : FileTree} {current place : List String} {p : Path}
    (hlocate : tree.locate current p = .ok place) :
    tree.placeForFile current p =
      match tree.get? place with
      | some (.directory _) => .error .isDirectory
      | some (.file _) => .ok place
      | none => .error .missing := by
  cases hget : tree.get? place with
  | none => simp [placeForFile, hlocate, hget]
  | some found => cases found <;> simp [placeForFile, hlocate, hget]

/-- At a path that leads nowhere a file can be made if the path without its last component leads to a directory. -/
theorem placeForFile_of_parent {tree : FileTree} {current parent : List String} {p : Path} {fault : FileFault}
    (hlocate : tree.locate current p = .error fault) (hparent : tree.locate current p.parent = .ok parent) :
    tree.placeForFile current p =
      match tree.get? parent with
      | some (.directory _) => .ok (parent ++ [p.name])
      | some (.file _) => .error .notDirectory
      | none => .error .missing := by
  rw [placeForFile, hlocate]
  dsimp only
  rw [hparent]
  rfl

/-- Trees with the same paths have places for the same files, and refuse the others with the same fault. -/
theorem SamePaths.placeForFile_eq {tree other : FileTree} (hsame : tree.SamePaths other) (current : List String)
    (p : Path) : tree.placeForFile current p = other.placeForFile current p := by
  rw [placeForFile, placeForFile, hsame.locate_eq, hsame.locate_eq]
  cases other.locate current p with
  | ok place =>
    have hkind := hsame place
    rcases hget : tree.get? place with _ | _ | _ <;> rcases hget' : other.get? place with _ | _ | _ <;>
      simp_all [isDirectory]
  | error fault =>
    dsimp only
    cases other.locate current p.parent with
    | error fault => rfl
    | ok place =>
      have hkind := hsame place
      rcases hget : tree.get? place with _ | _ | _ <;> rcases hget' : other.get? place with _ | _ | _ <;>
        simp_all [isDirectory, bind, Except.bind]

/-- The place for a file at a path that leads somewhere is where it leads, and the file there can be replaced. -/
theorem hasRoomAt_of_locate {tree : FileTree} {current place names : List String} {p : Path}
    (hlocate : tree.locate current p = .ok place) (hplace : tree.placeForFile current p = .ok names) :
    tree.HasRoomAt names ∧ names = place := by
  rw [placeForFile_of_locate hlocate] at hplace
  cases hget : tree.get? place with
  | none => simp [hget] at hplace
  | some found =>
    cases found with
    | directory entries => simp [hget] at hplace
    | file bytes =>
      obtain rfl : place = names := by simpa [hget] using hplace
      exact ⟨.replaced hget, rfl⟩

/-- The directory of a file that is yet to be made, the file's name, and why it is not there yet. The name is
not two dots, since these would have led somewhere. -/
theorem hasRoomAt_of_parent {tree : FileTree} {current names : List String} {p : Path} {fault : FileFault}
    (hlocate : tree.locate current p = .error fault) (hplace : tree.placeForFile current p = .ok names) :
    ∃ parent, p.parts ≠ [] ∧ tree.locate current p.parent = .ok parent ∧ names = parent ++ [p.name] ∧
      p.name ≠ ".." ∧ tree.HasRoomAt names := by
  have hparts : p.parts ≠ [] := by
    intro hnil
    rw [locate, hnil] at hlocate
    cases hlocate
  cases hparent : tree.locate current p.parent with
  | error fault' =>
    rw [placeForFile, hlocate] at hplace
    dsimp only at hplace
    rw [hparent] at hplace
    cases hplace
  | ok parent =>
    rw [placeForFile_of_parent hlocate hparent] at hplace
    cases hget : tree.get? parent with
    | none => simp [hget] at hplace
    | some found =>
      cases found with
      | file bytes => simp [hget] at hplace
      | directory entries =>
        obtain rfl : parent ++ [p.name] = names := by simpa [hget] using hplace
        -- Had the last component led anywhere, the path would have been followed.
        have hstuck (hthere : p.name = ".." ∨ (tree.get? (Path.extend parent p.name)).isSome = true) : False := by
          have hfollow := follow_eq_ok_iff.mpr ⟨rfl, ⟨entries, hget⟩, hthere⟩
          rw [locate_of_parent hparts hparent, hfollow] at hlocate
          cases hlocate
        have hname : p.name ≠ ".." := fun h => hstuck (.inl h)
        rw [Path.extend, if_neg hname] at hstuck
        cases hfree : tree.get? (parent ++ [p.name]) with
        | some there => exact (hstuck (.inr (by rw [hfree, Option.isSome_some]))).elim
        | none => exact ⟨parent, hparts, rfl, rfl, hname, .made hget hfree⟩

/-- A place for a file, however it was found, has room for it: either a file is there already or the directory
that it goes into. -/
theorem HasRoomAt.of_placeForFile {tree : FileTree} {current names : List String} {p : Path}
    (hplace : tree.placeForFile current p = .ok names) : tree.HasRoomAt names := by
  cases hlocate : tree.locate current p with
  | ok place => exact (hasRoomAt_of_locate hlocate hplace).1
  | error fault =>
    obtain ⟨parent, _, _, _, _, hroom⟩ := hasRoomAt_of_parent hlocate hplace
    exact hroom

/-- A path leads to the place for its file once the file has been put there. Writing to a path and reading it
back is thus about one place. -/
theorem locate_put_of_placeForFile {tree : FileTree} {current names : List String} {p : Path}
    (hplace : tree.placeForFile current p = .ok names) (bytes : List UInt8) :
    (tree.put names (.file bytes)).locate current p = .ok names := by
  cases hlocate : tree.locate current p with
  | ok place =>
    obtain ⟨hroom, rfl⟩ := hasRoomAt_of_locate hlocate hplace
    exact (keeps_put bytes hroom).locate_eq_ok hlocate
  | error fault =>
    obtain ⟨parent, hparts, hparent, rfl, hname, hroom⟩ := hasRoomAt_of_parent hlocate hplace
    have habove := get?_put_above tree (.file bytes) parent (List.cons_ne_nil p.name [])
    rw [locate_of_parent hparts ((keeps_put bytes hroom).locate_eq_ok hparent), follow_eq_ok_iff, Path.extend,
      if_neg hname, get?_put_self]
    exact ⟨rfl, habove, .inr rfl⟩

/-- A file that was written holds what was written, and then what is added to it, if it is the file that
something is added to. Records that reach the written file are such additions. -/
theorem read_put_append {tree : FileTree} {current place names : List String} {p : Path}
    (hplace : tree.placeForFile current p = .ok place) (hthere : tree.IsFileAt names)
    (bytes more : List UInt8) :
    ((tree.put place (.file bytes)).append names more).read current p =
      .ok (bytes ++ if names = place then more else []) := by
  have hself := get?_put_self tree (.file bytes) place
  have hnames : ∃ held, (tree.put place (.file bytes)).get? names = some (.file held) := by
    by_cases hsame : names = place
    · exact ⟨bytes, hsame ▸ hself⟩
    · obtain ⟨held, hheld⟩ := hthere
      exact ⟨held, get?_put_of_file (.of_placeForFile hplace) hheld hsame⟩
  obtain ⟨held, hheld⟩ := hnames
  have hlocate := (keeps_put (bytesAt (tree.put place (.file bytes)) names ++ more)
    (.replaced hheld)).locate_eq_ok (locate_put_of_placeForFile hplace bytes)
  rw [append, read_of_locate hlocate]
  by_cases hsame : names = place
  · subst hsame
    rw [get?_put_self, bytesAt, hself, if_pos rfl]
  · rw [get?_put_of_file (.replaced hheld) hself (Ne.symm hsame), if_neg hsame, List.append_nil]

end ClassDiagram.FileTree
