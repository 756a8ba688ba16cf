import ClassDiagram.Proofs.Ignore.Pattern
import ClassDiagram.Proofs.Source.IgnoreFile
import ClassDiagram.Proofs.Source.LoneRule

namespace ClassDiagram

namespace IgnoreRule

open FileTree (relativeText)

/-- The glob has no slash and stands in a line of an ignore file without marks. -/
structure IsLineGlob (glob : String) : Prop where
  ne_empty : glob ≠ ""
  noSlash : '/' ∉ glob.toList
  isStripped : Text.strip glob = glob
  notNegated : glob.toList.head? ≠ some '!'
  notComment : glob.toList.head? ≠ some '#'

variable {glob : String}

theorem IsLineGlob.isCore (hglob : IsLineGlob glob) : IsCore glob :=
  ⟨hglob.ne_empty, hglob.isStripped, fun hfirst => hglob.noSlash (List.mem_of_head? hfirst),
    fun hlast => hglob.noSlash (List.mem_of_getLast? hlast)⟩

/-- With the stars in front it stays a glob between marks: it begins with a star and ends as before. -/
theorem IsLineGlob.isCore_starsSlash (hglob : IsLineGlob glob) : IsCore ("**/" ++ glob) := by
  have hchars : glob.toList ≠ [] := hglob.isCore.toList_ne_nil
  have hlast : ("**/" ++ glob).toList.getLast? = glob.toList.getLast? := by
    rw [String.toList_append, List.getLast?_append_of_ne_nil _ hchars]
  refine ⟨?_, ?_, ?_, ?_⟩
  · intro hempty
    simpa using congrArg String.toList hempty
  · refine Text.strip_eq_self_iff.mpr ⟨?_, ?_⟩
    · simpa using (by decide : Text.isBlank '*' = false)
    · rw [hlast]
      exact (Text.strip_eq_self_iff.mp hglob.isStripped).2
  · simp
  · rw [hlast]
    exact hglob.isCore.noSlashLast

/-- What a glob behind two stars and a slash takes: the part of a path that follows some slash matches the glob; with
a slash at the end the part leads to a directory, and directories in a directory that is called like the whole
pattern are taken as well. -/
def TakesBelow (glob : String) (back : Bool) (place : List String) : Prop :=
  (∃ above below rest, place = above ++ below ++ rest ∧ above ≠ [] ∧ below ≠ [] ∧ (back = true → rest ≠ []) ∧
      Glob.accepts glob (relativeText below) = true) ∨
    back = true ∧ ["**", glob] <+: place ∧ 4 ≤ place.length

/-- The stars and the slash take some directories in front, at least one, and the glob is matched against all of
the rest as one text. -/
theorem accepts_starsSlash_iff {way : List String} (hway : ∀ name ∈ way, IsFileName name) :
    Glob.accepts ("**/" ++ glob) (relativeText way) = true ↔
      ∃ above below, way = above ++ below ∧ above ≠ [] ∧ below ≠ [] ∧
        Glob.accepts glob (relativeText below) = true := by
  rw [Glob.accepts_starsSlash_iff]
  constructor
  · rintro ⟨before, after, hcut, hmatches⟩
    obtain ⟨above, below, habove, hbelow, hsplit, _, hafter⟩ :=
      FileTree.exists_append_of_toList_relativeText hway hcut
    rw [hafter, String.ofList_toList] at hmatches
    exact ⟨above, below, hsplit, habove, hbelow, hmatches⟩
  · rintro ⟨above, below, rfl, habove, hbelow, hmatches⟩
    refine ⟨_, _, FileTree.toList_relativeText_append habove hbelow, ?_⟩
    rwa [String.ofList_toList]

/-- The rule of a glob behind two stars and a slash. -/
def starsSlash (glob : String) (back : Bool) : IgnoreRule :=
  ⟨"**/" ++ glob, back, false, false, true⟩

/-- The rule speaks of what the glob takes behind a slash. One for directories also speaks of what lies below a
directory that is called like the whole pattern, stars included. -/
theorem starsSlash_accepts_iff (hglob : IsLineGlob glob) {back isDirectory : Bool} {way : List String}
    (hway : ∀ name ∈ way, IsFileName name) :
    (starsSlash glob back).accepts (relativeText way) isDirectory = true ↔
      (back = true → isDirectory = true) ∧
        ((∃ above below, way = above ++ below ∧ above ≠ [] ∧ below ≠ [] ∧
            Glob.accepts glob (relativeText below) = true) ∨
          back = true ∧ ["**", glob] <+: way ∧ ["**", glob] ≠ way) := by
  have hstars : relativeText ["**", glob] = "**/" ++ glob := by
    rw [← String.toList_inj, FileTree.toList_relativeText_cons "**" (List.cons_ne_nil glob []),
      FileTree.relativeText_singleton]
    simp
  have hpair : ∀ name ∈ ["**", glob], IsFileName name := by
    simpa [IsFileName] using ⟨hglob.ne_empty, hglob.noSlash⟩
  rw [accepts_whole_iff (.inr rfl) hglob.isCore_starsSlash.ne_empty,
    ← FileTree.relativeText_slash_prefix_iff (List.cons_ne_nil _ _) hpair hway, hstars, starsSlash,
    accepts_starsSlash_iff hway]

/-- The same of files: a file is caught by its own path or by that of a directory above it. -/
theorem catches_starsSlash_iff (hglob : IsLineGlob glob) {back : Bool} {place : List String}
    (hplace : ∀ name ∈ place, IsFileName name) : (starsSlash glob back).Catches place ↔ TakesBelow glob back place := by
  have haccepts {way : List String} (hinit : way <+: place) :
      (starsSlash glob back).accepts (relativeText way) (decide (way ≠ place)) = true ↔
        (back = true → way ≠ place) ∧
          ((∃ above below, way = above ++ below ∧ above ≠ [] ∧ below ≠ [] ∧
              Glob.accepts glob (relativeText below) = true) ∨
            back = true ∧ ["**", glob] <+: way ∧ ["**", glob] ≠ way) := by
    rw [starsSlash_accepts_iff hglob fun name hname => hplace name (hinit.subset hname), decide_eq_true_iff]
  constructor
  · rintro ⟨way, hne, hinit, hspeaks⟩
    obtain ⟨hproper, ⟨above, below, rfl, habove, hbelow, hmatches⟩ | ⟨hback, hstart, hlonger⟩⟩ :=
      (haccepts hinit).mp hspeaks
    · obtain ⟨rest, rfl⟩ := hinit
      exact .inl ⟨above, below, rest, rfl, habove, hbelow, fun hback => by simpa using hproper hback, hmatches⟩
    · refine .inr ⟨hback, hstart.trans hinit, ?_⟩
      have hlength := lt_of_le_of_ne hstart.length_le fun hsame => hlonger (hstart.eq_of_length hsame)
      have hlength' := lt_of_le_of_ne hinit.length_le fun hsame => hproper hback (hinit.eq_of_length hsame)
      simp only [List.length_cons, List.length_nil] at hlength
      omega
  · rintro (⟨above, below, rest, rfl, habove, hbelow, hrest, hmatches⟩ | ⟨hback, ⟨rest, rfl⟩, hlong⟩)
    · have hinit : above ++ below <+: above ++ below ++ rest := List.prefix_append _ _
      refine ⟨above ++ below, by simp [habove], hinit, (haccepts hinit).mpr ⟨fun hback => ?_, .inl ?_⟩⟩
      · simpa using hrest hback
      · exact ⟨above, below, rfl, habove, hbelow, hmatches⟩
    · obtain _ | ⟨sub, _ | ⟨last, rest⟩⟩ := rest
      · simp at hlong
      · simp at hlong
      · have hinit : ["**", glob, sub] <+: ["**", glob] ++ sub :: last :: rest := ⟨last :: rest, rfl⟩
        refine ⟨["**", glob, sub], by simp, hinit, (haccepts hinit).mpr ⟨fun _ => by simp, .inr ?_⟩⟩
        exact ⟨hback, ⟨[sub], rfl⟩, by simp⟩

/-- The glob matches a name on the way to a place. -/
def TakesName (glob : String) (back : Bool) (place : List String) : Prop :=
  ∃ name ∈ namesOnWay place back, Glob.accepts glob name = true

/-- The glob matches the first name on the way to a place. -/
def TakesFirst (glob : String) (back : Bool) (place : List String) : Prop :=
  ∃ name ∈ (namesOnWay place back).head?, Glob.accepts glob name = true

/-- A name on the way to a directory above a place is one on the way to the place. -/
theorem mem_namesOnWay {back : Bool} {way rest : List String} (hrest : back = true → rest ≠ []) {name : String}
    (hmem : name ∈ way) : name ∈ namesOnWay (way ++ rest) back := by
  rw [namesOnWay]
  split
  · next hback =>
    have hproper : way ≠ way ++ rest := by simpa using (hrest hback).symm
    exact (prefix_dropLast_of_proper (List.prefix_append way rest) hproper).subset hmem
  · exact List.mem_append_left rest hmem

theorem exists_eq_namesOnWay_append {back : Bool} {place : List String} (hne : namesOnWay place back ≠ []) :
    ∃ rest, place = namesOnWay place back ++ rest ∧ (back = true → rest ≠ []) := by
  cases back with
  | false => exact ⟨[], (List.append_nil place).symm, nofun⟩
  | true =>
    have hplace : place ≠ [] := by
      rintro rfl
      exact hne rfl
    exact ⟨[place.getLast hplace], (List.dropLast_append_getLast hplace).symm, fun _ => List.cons_ne_nil _ _⟩

/-- A name on the way is the first one or stands below a directory. -/
theorem TakesName.first_or_below {back : Bool} {place : List String} (htakes : TakesName glob back place) :
    TakesFirst glob back place ∨ TakesBelow glob back place := by
  obtain ⟨name, hmem, hmatches⟩ := htakes
  obtain ⟨rest, hplace, hrest⟩ := exists_eq_namesOnWay_append (List.ne_nil_of_mem hmem)
  obtain ⟨above, after, hway⟩ := List.append_of_mem hmem
  by_cases habove : above = []
  · exact .inl ⟨name, by simp [hway, habove], hmatches⟩
  · refine .inr (.inl ⟨above, [name], after ++ rest, ?_, habove, List.cons_ne_nil name [], ?_, ?_⟩)
    · rw [hway] at hplace
      simpa using hplace
    · intro hback
      simp [hrest hback]
    · rwa [FileTree.relativeText_singleton]

theorem TakesFirst.takesName {back : Bool} {place : List String} (htakes : TakesFirst glob back place) :
    TakesName glob back place := by
  obtain ⟨name, hfirst, hmatches⟩ := htakes
  exact ⟨name, List.mem_of_head? hfirst, hmatches⟩

/-- A glob that matches no slash takes single names, so that behind the stars it takes nothing that it does not
take alone. The exception is a directory with the name of the whole pattern. -/
theorem TakesBelow.takesName (hsingle : ∀ text : String, '/' ∈ text.toList → Glob.accepts glob text = false)
    {back : Bool} {place : List String} (htakes : TakesBelow glob back place)
    (hcalled : ¬ (back = true ∧ ["**", glob] <+: place)) : TakesName glob back place := by
  obtain ⟨above, below, rest, rfl, _, hbelow, hrest, hmatches⟩ | ⟨hback, hstart, _⟩ := htakes
  · match below, hbelow with
    | [name], _ =>
      rw [FileTree.relativeText_singleton] at hmatches
      exact ⟨name, mem_namesOnWay hrest (by simp), hmatches⟩
    | name :: next :: below, _ =>
      have hslash : '/' ∈ (relativeText (name :: next :: below)).toList := FileTree.slash_mem_relativeText (by simp)
      rw [hsingle _ hslash] at hmatches
      cases hmatches
  · exact absurd ⟨hback, hstart⟩ hcalled

/-- The rule of a glob in a line of its own. -/
def lone (glob : String) (back : Bool) : IgnoreRule :=
  ⟨glob, back, false, false, false⟩

theorem parse_lone (hglob : IsLineGlob glob) {back : Bool} {text : String}
    (hline : Text.lines text = [glob ++ if back then "/" else ""]) : parse text = [lone glob back] := by
  have hrule := ofLine?_marked hglob.isCore hglob.notNegated hglob.notComment back
  have hmarked : marked glob false back = glob ++ if back then "/" else "" := by simp [marked]
  rw [parse_of_line hline, ← hmarked, hrule]
  simp [lone, hglob.noSlash]

theorem parse_starsSlash (hglob : IsLineGlob glob) {back : Bool} {text : String}
    (hline : Text.lines text = ["**/" ++ glob ++ if back then "/" else ""]) :
    parse text = [starsSlash glob back] := by
  have hrule := ofLine?_marked hglob.isCore_starsSlash (by simp) (by simp) back
  have hmarked : marked ("**/" ++ glob) false back = "**/" ++ glob ++ if back then "/" else "" := by simp [marked]
  rw [parse_of_line hline, ← hmarked, hrule]
  simp [starsSlash]

/-- A glob in a line of its own is matched against every name on the way to a place. -/
theorem catches_lone_iff {back : Bool} {place : List String}
    (hplace : ∀ name ∈ place, IsFileName name) : (lone glob back).Catches place ↔ TakesName glob back place :=
  catches_iff_names ⟨rfl, rfl⟩ hplace

end IgnoreRule

namespace Scan

open IgnoreRule (TakesName TakesFirst TakesBelow)

/-- With these bytes in the ignore file of the directory the scan finds the files at these places. -/
def FindsUnder (scan : Scan) (source : String) (w : Workspace) (root : List String) (bytes : List UInt8)
    (found : List (List String)) : Prop :=
  ((scan.run source).outcome (w.withIgnoreFile root bytes)).1 =
    .ok (found.map fun place => Path.absolute (root ++ place))

/-- A rule in front of others that are not negated takes from what these find, and takes exactly what it
catches. -/
theorem sources_cons {tree : FileTree} (hdistinct : tree.NamesDistinct) {rule : IgnoreRule} {more : List IgnoreRule}
    (hrule : rule.negate = false) (hmore : ∀ other ∈ more, other.negate = false) (suffixes : List String) :
    (tree.sources suffixes (rule :: more)).Sublist (tree.sources suffixes more) ∧
      ∀ place, place ∈ tree.sources suffixes (rule :: more) ↔
        place ∈ tree.sources suffixes more ∧ ¬ rule.Catches place := by
  constructor
  · refine FileTree.sources_sublist hdistinct (fun path isDirectory hignored => ?_) suffixes
    have hinsert := IgnoreRule.ignores_insert [] hrule hmore path isDirectory
    rw [List.nil_append, List.nil_append] at hinsert
    rw [hinsert, hignored, Bool.true_or]
  · intro place
    rw [FileTree.mem_sources hdistinct, FileTree.mem_sources hdistinct]
    exact FileTree.selected_insert_iff [] hrule hmore place

/-- A glob in a line of an ignore file, and the same glob behind two stars and a slash. The stars make it take
what some slash stands before: it takes a file if the part of the path after some slash, up to the file or to a
directory above it, matches the glob as one text. So what it leaves and does not lie in the root under a name
that the glob matches, the glob alone leaves as well; and if the glob matches no text with a slash, the glob
alone leaves just what the stars leave and does not lie there. In the customary reading of such files the stars
stand for no directory at all, too, and no wildcard for a slash, and then the two lines mean the same. -/
theorem run_starsSlash (scan : Scan) (source : String) (w : Workspace) (glob : String) (directories : Bool)
    {p : Path} {loneLine starsLine : List UInt8} (hproper : w.files.IsProper)
    (hhome : w.files.expandHome (Path.parse source) = .ok p) (hdirectory : w.files.isDirectory p = true)
    (hfree : ¬ w.files.tree.IsDirectoryAt (w.files.resolve p ++ [IgnoreRule.fileName]))
    (hglob : IgnoreRule.IsLineGlob glob)
    (hlone : FileSystem.IsLine loneLine (glob ++ if directories then "/" else ""))
    (hstars : FileSystem.IsLine starsLine ("**/" ++ glob ++ if directories then "/" else "")) :
    (∃ failure, ∀ bytes ∈ [[], loneLine, starsLine],
        ((scan.run source).outcome (w.withIgnoreFile (w.files.resolve p) bytes)).1 = .error failure) ∨
      ∃ all lone starred : List (List String),
        scan.FindsUnder source w (w.files.resolve p) [] all ∧
        scan.FindsUnder source w (w.files.resolve p) loneLine lone ∧
        scan.FindsUnder source w (w.files.resolve p) starsLine starred ∧
        lone.Sublist all ∧ starred.Sublist all ∧
        ∀ place, (∀ name ∈ place, IsFileName name) →
          (place ∈ lone ↔ place ∈ all ∧ ¬ TakesName glob directories place) ∧
          (place ∈ starred ↔ place ∈ all ∧ ¬ TakesBelow glob directories place) ∧
          (place ∈ starred → ¬ TakesFirst glob directories place → place ∈ lone) ∧
          ((∀ text : String, '/' ∈ text.toList → Glob.accepts glob text = false) →
            ¬ (directories = true ∧ ["**", glob] <+: place) →
            (place ∈ lone ↔ place ∈ starred ∧ ¬ TakesFirst glob directories place)) := by
  obtain ⟨loneText, hloneText, hloneLine⟩ := hlone
  obtain ⟨starsText, hstarsText, hstarsLine⟩ := hstars
  have hempty : FileSystem.textOf [] = .ok "" := rfl
  obtain ⟨failure, hfails⟩ | ⟨tree, more, hdistinct, hmore, hfinds⟩ :=
    scan.outcome_run_withIgnoreFile source hproper hhome hdirectory hfree
  · refine .inl ⟨failure, ?_⟩
    simp only [List.forall_mem_cons, List.not_mem_nil, false_implies, implies_true, and_true]
    exact ⟨hfails _ _ hempty, hfails _ _ hloneText, hfails _ _ hstarsText⟩
  · have hlone := hfinds _ _ hloneText
    have hstars := hfinds _ _ hstarsText
    rw [IgnoreRule.parse_lone hglob hloneLine] at hlone
    rw [IgnoreRule.parse_starsSlash hglob hstarsLine] at hstars
    obtain ⟨hloneSub, hloneMem⟩ :=
      sources_cons hdistinct (rfl : (IgnoreRule.lone glob directories).negate = false) hmore
        (scan.suffixes.map Text.lower)
    obtain ⟨hstarsSub, hstarsMem⟩ :=
      sources_cons hdistinct (rfl : (IgnoreRule.starsSlash glob directories).negate = false) hmore
        (scan.suffixes.map Text.lower)
    refine .inr ⟨_, _, _, hfinds _ _ hempty, hlone, hstars, hloneSub, hstarsSub, fun place hplace => ?_⟩
    rw [List.singleton_append, List.singleton_append, hloneMem, hstarsMem,
      IgnoreRule.catches_lone_iff hplace, IgnoreRule.catches_starsSlash_iff hglob hplace]
    refine ⟨Iff.rfl, Iff.rfl, ?_, fun hsingle hcalled => ?_⟩
    · rintro ⟨hall, hbelow⟩ hfirst
      exact ⟨hall, fun htakes => htakes.first_or_below.elim hfirst hbelow⟩
    · constructor
      · rintro ⟨hall, hname⟩
        exact ⟨⟨hall, fun hbelow => hname (hbelow.takesName hsingle hcalled)⟩, fun hfirst => hname hfirst.takesName⟩
      · rintro ⟨⟨hall, hbelow⟩, hfirst⟩
        exact ⟨hall, fun htakes => htakes.first_or_below.elim hfirst hbelow⟩

/-- A directory with a source in a directory `gen` of another one. -/
def nestedCrate : FileTree :=
  .directory [("src", .directory [("gen", .directory [("x.rs", .file [])])])]

/-- The files from which the directory is seen. -/
def nestedWorkspace : Workspace := { files := { tree := .directory [("crate", nestedCrate)] } }

theorem nestedWorkspace_isProper : nestedWorkspace.files.IsProper :=
  FileSystem.isProper_of_listsAll rfl List.not_mem_nil

/-- Below the root the stars make no difference to a plain name: `gen` is left out with its source under both
lines. -/
theorem run_nestedCrate :
    nestedWorkspace.files.IsProper ∧ IgnoreRule.IsLineGlob "gen" ∧
      FileSystem.IsLine (Text.encodeUtf8 "gen\n") "gen" ∧ FileSystem.IsLine (Text.encodeUtf8 "**/gen\n") "**/gen" ∧
      ((run {} "crate").outcome (nestedWorkspace.withIgnoreFile ["crate"] [])).1.toOption =
        some [Path.absolute ["crate", "src", "gen", "x.rs"]] ∧
      ((run {} "crate").outcome (nestedWorkspace.withIgnoreFile ["crate"] (Text.encodeUtf8 "**/gen\n"))).1.toOption =
        some [] ∧
      ∃ lone starred : List (List String),
        FindsUnder {} "crate" nestedWorkspace ["crate"] (Text.encodeUtf8 "gen\n") lone ∧
        FindsUnder {} "crate" nestedWorkspace ["crate"] (Text.encodeUtf8 "**/gen\n") starred ∧
        ∀ place, (∀ name ∈ place, IsFileName name) →
          (place ∈ lone ↔ place ∈ starred ∧ ¬ TakesFirst "gen" false place) := by
  have hglob : IgnoreRule.IsLineGlob "gen" :=
    ⟨by decide +kernel, by decide +kernel, by decide +kernel, by decide +kernel, by decide +kernel⟩
  have hlone : FileSystem.IsLine (Text.encodeUtf8 "gen\n") "gen" :=
    ⟨"gen\n", eq_ok_of_toOption (by decide +kernel), by decide +kernel⟩
  have hstars : FileSystem.IsLine (Text.encodeUtf8 "**/gen\n") "**/gen" :=
    ⟨"**/gen\n", eq_ok_of_toOption (by decide +kernel), by decide +kernel⟩
  have hall : ((run {} "crate").outcome (nestedWorkspace.withIgnoreFile ["crate"] [])).1.toOption =
      some [Path.absolute ["crate", "src", "gen", "x.rs"]] := by decide +kernel
  have hsingle (text : String) (hslash : '/' ∈ text.toList) : Glob.accepts "gen" text = false := by
    rw [← Bool.not_eq_true, Glob.accepts_plain_iff (by decide +kernel)]
    rintro rfl
    exact absurd hslash (by decide +kernel)
  have hhome : nestedWorkspace.files.expandHome (Path.parse "crate") = .ok (Path.parse "crate") := rfl
  have hfree : ¬ nestedWorkspace.files.tree.IsDirectoryAt (["crate"] ++ [IgnoreRule.fileName]) := by
    rintro ⟨entries, hget⟩
    cases hget
  refine ⟨nestedWorkspace_isProper, hglob, hlone, hstars, hall, by decide +kernel, ?_⟩
  obtain ⟨failure, hfails⟩ | ⟨all, lone, starred, _, hfindsLone, hfindsStarred, _, _, hplaces⟩ :=
    run_starsSlash {} "crate" nestedWorkspace "gen" false nestedWorkspace_isProper hhome (by decide +kernel) hfree
      hglob hlone hstars
  · have hfail : ((run {} "crate").outcome (nestedWorkspace.withIgnoreFile ["crate"] [])).1 = .error failure :=
      hfails [] (by simp)
    rw [hfail] at hall
    cases hall
  · refine ⟨lone, starred, hfindsLone, hfindsStarred, fun place hplace => ?_⟩
    exact (hplaces place hplace).2.2.2 hsingle (by simp)

/-- A directory with one file in it, at the given place. -/
def crateOf (place : List String) : Workspace :=
  { files := { tree := (FileTree.directory []).put ("crate" :: place) (.file []) } }

/-- What a scan finds under an ignore file of one line. -/
def foundUnder (w : Workspace) (line : String) : Option (List Path) :=
  ((run {} "crate").outcome (w.withIgnoreFile ["crate"] (Text.encodeUtf8 (line ++ "\n")))).1.toOption

/-- The stars ask for a slash in front of the name, and in the root there is none, so the source in `gen` is
found; behind them a wildcard stands for slashes as well, so one in `a` is lost; and with a slash at the end
they take what is in a directory that is called like the pattern. -/
theorem foundUnder_stars :
    foundUnder (crateOf ["gen", "x.rs"]) "gen" = some [] ∧
      foundUnder (crateOf ["gen", "x.rs"]) "**/gen" = some [Path.absolute ["crate", "gen", "x.rs"]] ∧
      foundUnder (crateOf ["src", "a", "b.rs"]) "a*.rs" = some [Path.absolute ["crate", "src", "a", "b.rs"]] ∧
      foundUnder (crateOf ["src", "a", "b.rs"]) "**/a*.rs" = some [] ∧
      foundUnder (crateOf ["**", "[g]", "sub", "x.rs"]) "[g]/" =
        some [Path.absolute ["crate", "**", "[g]", "sub", "x.rs"]] ∧
      foundUnder (crateOf ["**", "[g]", "sub", "x.rs"]) "**/[g]/" = some [] := by
  refine ⟨?_, ?_, ?_, ?_, ?_, ?_⟩ <;> decide +kernel

end Scan

end ClassDiagram
