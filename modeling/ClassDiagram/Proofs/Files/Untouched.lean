import ClassDiagram.Proofs.Files.Paths

namespace ClassDiagram.FileTree

/-- The bytes of a file; a directory has none. -/
def content : FileTree → Option (List UInt8)
  | .file bytes => some bytes
  | .directory _ => none

/-- There is a directory at the place. -/
def IsDirectoryAt (tree : FileTree) (place : List String) : Prop :=
  ∃ entries, tree.get? place = some (.directory entries)

/-- Outside the spared place the trees have the same files, with the same bytes, and the directories are the
same everywhere. -/
structure AlikeExcept (spared : Option (List String)) (tree other : FileTree) : Prop where
  elsewhere : ∀ place, spared ≠ some place → (other.get? place).map content = (tree.get? place).map content
  directories : ∀ place, tree.IsDirectoryAt place ↔ other.IsDirectoryAt place

theorem isDirectoryAt_iff (tree : FileTree) (place : List String) :
    tree.IsDirectoryAt place ↔ (tree.get? place).map content = some none := by
  rw [IsDirectoryAt]
  cases tree.get? place with
  | none => simp
  | some found => cases found <;> simp [content]

variable {spared : Option (List String)} {tree other third : FileTree}

theorem AlikeExcept.refl (spared : Option (List String)) (tree : FileTree) : tree.AlikeExcept spared tree :=
  ⟨fun _ _ => rfl, fun _ => Iff.rfl⟩

/-- Neither of the two trees is the one that came first, so what one has at a path is found in the other, and
the reverse. -/
theorem AlikeExcept.symm (halike : tree.AlikeExcept spared other) : other.AlikeExcept spared tree :=
  ⟨fun place hplace => (halike.elsewhere place hplace).symm, fun place => (halike.directories place).symm⟩

/-- Trees that differ step by step at one and the same place differ there only after all steps. -/
theorem AlikeExcept.trans (hfirst : tree.AlikeExcept spared other) (hsecond : other.AlikeExcept spared third) :
    tree.AlikeExcept spared third :=
  ⟨fun place hplace => (hsecond.elsewhere place hplace).trans (hfirst.elsewhere place hplace),
    fun place => (hfirst.directories place).trans (hsecond.directories place)⟩

/-- A file that is put where there was room for it changes nothing elsewhere. Without the room a directory might
be replaced or made. -/
theorem alikeExcept_put {names : List String} (hroom : tree.HasRoomAt names) (bytes : List UInt8) :
    tree.AlikeExcept (some names) (tree.put names (.file bytes)) := by
  have helsewhere (place : List String) (hne : place ≠ names) :
      ((tree.put names (.file bytes)).get? place).map content = (tree.get? place).map content := by
    cases seenFrom names place with
    | there => exact absurd rfl hne
    | @below rest hrest =>
      have hnone : tree.get? (names ++ rest) = none := by
        cases hget : tree.get? (names ++ rest) with
        | none => rfl
        | some found => exact absurd (hroom.eq_nil_of_get?_append hget) hrest
      rw [get?_put_below _ _ _ hrest, hnone]
    | @above place rest hrest hnames =>
      subst hnames
      obtain ⟨entries, hput⟩ := get?_put_above tree (.file bytes) place hrest
      obtain ⟨entries', hget⟩ := hroom.exists_directory_above hrest
      rw [hput, hget]
      rfl
    | beside hbelow habove => rw [get?_put_beside _ _ hbelow habove]
  refine ⟨fun place hplace => helsewhere place fun h => hplace (by rw [h]), fun place => ?_⟩
  by_cases hne : place = names
  · subst hne
    have hbefore : ¬ tree.IsDirectoryAt place := fun ⟨_, hget⟩ => hroom.not_directory hget
    have hafter : ¬ (tree.put place (.file bytes)).IsDirectoryAt place := by simp [IsDirectoryAt]
    simp [hbefore, hafter]
  · rw [isDirectoryAt_iff, isDirectoryAt_iff, helsewhere place hne]

/-- Text that is added to a file changes nothing elsewhere. The file has to be there, for otherwise it would be
made. -/
theorem alikeExcept_append {names : List String} (hthere : tree.IsFileAt names) (bytes : List UInt8) :
    tree.AlikeExcept (some names) (tree.append names bytes) := by
  obtain ⟨held, hheld⟩ := hthere
  exact alikeExcept_put (.replaced hheld) _

/-- Every file is still a file after text was added to one, the one it was added to included. -/
theorem IsFileAt.append {names place : List String} (hplace : tree.IsFileAt place) (hthere : tree.IsFileAt names)
    (bytes : List UInt8) : (tree.append names bytes).IsFileAt place := by
  obtain ⟨found, hfound⟩ := hplace
  obtain ⟨held, hheld⟩ := hthere
  obtain ⟨found', hget, hkind⟩ := keeps_put (tree.bytesAt names ++ bytes) (.replaced hheld) place _ hfound
  cases found' with
  | file bytes => exact ⟨bytes, hget⟩
  | directory entries => cases hkind

theorem AlikeExcept.bytesAt_eq (halike : tree.AlikeExcept spared other) {place : List String}
    (hplace : spared ≠ some place) : other.bytesAt place = tree.bytesAt place := by
  have hbytes (t : FileTree) : t.bytesAt place = ((t.get? place).map content).join.getD [] := by
    rw [bytesAt]
    cases t.get? place with
    | none => rfl
    | some found => cases found <;> rfl
  rw [hbytes, hbytes, halike.elsewhere place hplace]

/-- Text that is added to a file stands behind what the file held, and nowhere else. -/
theorem bytesAt_append {names : List String} (hthere : tree.IsFileAt names) (bytes : List UInt8)
    (place : List String) :
    (tree.append names bytes).bytesAt place = tree.bytesAt place ++ if names = place then bytes else [] := by
  by_cases hplace : names = place
  · subst hplace
    rw [append, bytesAt_put, if_pos rfl, if_pos rfl]
  · rw [(alikeExcept_append hthere bytes).bytesAt_eq (by simpa using hplace), if_neg hplace, List.append_nil]

/-- A component leads on as before unless it leads to the spared place. A directory at that place is a directory
in both trees, so a path may pass through it. -/
theorem AlikeExcept.follow_eq_ok (halike : tree.AlikeExcept spared other) {names place : List String}
    {part : String} (hfollow : tree.follow names part = .ok place)
    (hthere : spared ≠ some place ∨ tree.IsDirectoryAt place) : other.follow names part = .ok place := by
  obtain ⟨hplace, hdirectory, hfound⟩ := follow_eq_ok_iff.mp hfollow
  refine follow_eq_ok_iff.mpr ⟨hplace, (halike.directories names).mp hdirectory, hfound.imp_right fun hsome => ?_⟩
  rcases hthere with hspared | hdirectory
  · have hsame := congrArg Option.isSome (halike.elsewhere place hspared)
    rwa [Option.isSome_map, Option.isSome_map, hsome] at hsame
  · obtain ⟨entries, hget⟩ := (halike.directories place).mp hdirectory
    rw [hget, Option.isSome_some]

/-- The same of all components of a path. Only where it ends is of concern, as every place on the way has to be
a directory. -/
theorem AlikeExcept.passes (halike : tree.AlikeExcept spared other) {start parts place : List String}
    (hpasses : tree.Passes start parts place) (hplace : spared ≠ some place ∨ tree.IsDirectoryAt place) :
    other.Passes start parts place := by
  induction hpasses with
  | here => exact .here
  | next hfollow hrest ih =>
    refine .next (halike.follow_eq_ok hfollow ?_) (ih hplace)
    -- On the way a path leads through directories only, and these are the same.
    cases hrest with
    | here => exact hplace
    | next hfollow' _ => exact .inr (follow_eq_ok_iff.mp hfollow').2.1

/-- A path that led to a directory, or anywhere but to the spared place, leads there still. -/
theorem AlikeExcept.locate_eq_ok (halike : tree.AlikeExcept spared other) {current place : List String}
    {p : Path} (hlocate : tree.locate current p = .ok place)
    (hplace : spared ≠ some place ∨ tree.IsDirectoryAt place) : other.locate current p = .ok place :=
  locate_eq_ok_iff.mpr (halike.passes (locate_eq_ok_iff.mp hlocate) hplace)

/-- A path that does not lead to the spared place leads to the same in both trees, or nowhere. A directory is
only the same in being one, since its entries may have changed. -/
theorem AlikeExcept.lookup?_eq (halike : tree.AlikeExcept spared other) {current : List String} {p : Path}
    (hp : spared ≠ some (p.resolve current)) :
    (other.lookup? current p).map content = (tree.lookup? current p).map content := by
  cases hlocate : tree.locate current p with
  | ok place =>
    have hplace : spared ≠ some place := by rwa [eq_resolve_of_locate hlocate]
    rw [lookup?, lookup?, hlocate, halike.locate_eq_ok hlocate (.inl hplace)]
    exact halike.elsewhere place hplace
  | error fault =>
    cases hlocate' : other.locate current p with
    | error fault' => rw [lookup?, lookup?, hlocate, hlocate']
    | ok place =>
      have hplace : spared ≠ some place := by rwa [eq_resolve_of_locate hlocate']
      rw [halike.symm.locate_eq_ok hlocate' (.inl hplace)] at hlocate
      cases hlocate

/-- What is found at a path that does not lead to the spared place reads the same in both trees, be it the bytes
of a file or the refusal to read a directory. -/
theorem AlikeExcept.read_eq (halike : tree.AlikeExcept spared other) {current : List String} {p : Path}
    (hp : spared ≠ some (p.resolve current)) (hthere : (tree.lookup? current p).isSome = true) :
    other.read current p = tree.read current p := by
  cases hlocate : tree.locate current p with
  | error fault => simp [lookup?, hlocate] at hthere
  | ok place =>
    have hplace : spared ≠ some place := by rwa [eq_resolve_of_locate hlocate]
    rw [lookup?, hlocate] at hthere
    have hsame := halike.elsewhere place hplace
    rw [read_of_locate hlocate, read_of_locate (halike.locate_eq_ok hlocate (.inl hplace))]
    cases hget : tree.get? place with
    | none => simp [hget] at hthere
    | some found =>
      cases hget' : other.get? place with
      | none => simp [hget, hget'] at hsame
      | some found' => cases found <;> cases found' <;> simp_all [content]

/-- A file that is not at the spared place reads the same in both trees. -/
theorem AlikeExcept.read_eq_ok (halike : tree.AlikeExcept spared other) {current : List String} {p : Path}
    (hp : spared ≠ some (p.resolve current)) {bytes : List UInt8} (hread : tree.read current p = .ok bytes) :
    other.read current p = .ok bytes := by
  have hthere : (tree.lookup? current p).isSome = true := by
    cases hlocate : tree.locate current p with
    | error fault => simp [read_of_locate_error hlocate] at hread
    | ok place =>
      rw [read_of_locate hlocate] at hread
      rw [lookup?, hlocate]
      dsimp only
      cases hget : tree.get? place with
      | none => simp [hget] at hread
      | some found => rfl
  rw [halike.read_eq hp hthere, hread]

/-- The place for a file at a path is the one that the text of the path tells, even if there is no file yet. -/
theorem resolve_of_placeForFile {current place : List String} {p : Path}
    (hplace : tree.placeForFile current p = .ok place) : p.resolve current = place :=
  (eq_resolve_of_locate (locate_put_of_placeForFile hplace [])).symm

/-- Where there was a place for a file, there still is, unless it is the spared one. -/
theorem AlikeExcept.placeForFile_eq_ok (halike : tree.AlikeExcept spared other) {current place : List String}
    {p : Path} (hplace : tree.placeForFile current p = .ok place) (hspared : spared ≠ some place) :
    other.placeForFile current p = .ok place := by
  cases hlocate : tree.locate current p with
  | ok names =>
    obtain ⟨_, rfl⟩ := hasRoomAt_of_locate hlocate hplace
    have hsame := halike.elsewhere place hspared
    rw [placeForFile_of_locate hlocate] at hplace
    rw [placeForFile_of_locate (halike.locate_eq_ok hlocate (.inl hspared))]
    rcases hget : tree.get? place with _ | _ | _ <;> rcases hget' : other.get? place with _ | _ | _ <;>
      simp_all [content]
  | error fault =>
    have hresolve := resolve_of_placeForFile hplace
    obtain ⟨parent, _, hparent, rfl, _, hroom⟩ := hasRoomAt_of_parent hlocate hplace
    obtain ⟨fault', hlocate'⟩ : ∃ fault', other.locate current p = .error fault' := by
      cases hlocate' : other.locate current p with
      | error fault' => exact ⟨fault', rfl⟩
      | ok names =>
        have hnames : spared ≠ some names := by rwa [eq_resolve_of_locate hlocate', hresolve]
        rw [halike.symm.locate_eq_ok hlocate' (.inl hnames)] at hlocate
        cases hlocate
    have hdirectory := hroom.exists_directory_above (List.cons_ne_nil _ _)
    obtain ⟨entries, hget⟩ := (halike.directories parent).mp hdirectory
    rw [placeForFile_of_parent hlocate' (halike.locate_eq_ok hparent (.inr hdirectory)), hget]

/-- A file that is put into both trees at the same place leaves them alike. At the spared place, too, they hold
the same then, but this is not needed. -/
theorem AlikeExcept.put (halike : tree.AlikeExcept spared other) {names : List String}
    (hroom : tree.HasRoomAt names) (hroom' : other.HasRoomAt names) (bytes : List UInt8) :
    (tree.put names (.file bytes)).AlikeExcept spared (other.put names (.file bytes)) := by
  have hfirst := (alikeExcept_put hroom bytes).symm
  have hsecond := alikeExcept_put hroom' bytes
  refine ⟨fun place hplace => ?_, fun place => ?_⟩
  · by_cases hself : place = names
    · rw [hself, get?_put_self, get?_put_self]
    · have hnames : some names ≠ some place := by simpa using Ne.symm hself
      rw [hsecond.elsewhere place hnames, halike.elsewhere place hplace, hfirst.elsewhere place hnames]
  · rw [hfirst.directories, halike.directories, hsecond.directories]

end ClassDiagram.FileTree
