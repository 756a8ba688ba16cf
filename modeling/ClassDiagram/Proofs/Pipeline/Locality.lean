import ClassDiagram.Proofs.Pipeline.Stages
import ClassDiagram.Proofs.Workspace.Alike

namespace ClassDiagram

open Job (AgreesIn Alike ReadsOnly)

namespace Workspace.Agrees

variable {isRead : Path → Prop} {w w' : Workspace}

theorem directoryFor_eq (hagrees : Agrees isRead w w') (source : Path) :
    Settings.directoryFor w.files source = Settings.directoryFor w'.files source := by
  simp only [Settings.directoryFor, hagrees.expandHome_eq, hagrees.isDirectory_eq, hagrees.resolve_eq]

/-- The walk goes by names and kinds alone, so trees with the same paths have the same sources below a
directory, whatever their files hold. -/
theorem sources_eq (hagrees : Agrees isRead w w') (hdistinct : w.files.tree.NamesDistinct)
    (hdistinct' : w'.files.tree.NamesDistinct) (root : List String) (suffixes : List String)
    (rules : List IgnoreRule) :
    ((w'.files.tree.get? root).getD (.directory [])).sources suffixes rules =
      ((w.files.tree.get? root).getD (.directory [])).sources suffixes rules := by
  cases hget : w.files.tree.get? root with
  | none =>
    have hnone := hagrees.paths.isSome_eq root
    rw [hget, Option.isSome_none, eq_comm, Option.isSome_eq_false_iff, Option.isNone_iff_eq_none] at hnone
    rw [hnone]
  | some below =>
    obtain ⟨below', hget', hsame⟩ := hagrees.paths.below hget
    rw [hget', Option.getD_some, Option.getD_some,
      hsame.sources_eq (hdistinct.of_get? hget) (hdistinct'.of_get? hget')]

theorem sourcesBelow_eq (hagrees : Agrees isRead w w') (hdistinct : w.files.tree.NamesDistinct)
    (hdistinct' : w'.files.tree.NamesDistinct) :
    Pipeline.sourcesBelow w.files = Pipeline.sourcesBelow w'.files := by
  funext root rules
  rw [Pipeline.sourcesBelow, Pipeline.sourcesBelow, hagrees.sources_eq hdistinct hdistinct']

end Workspace.Agrees

namespace Workspace

variable {isRead : Path → Prop} {w w' : Workspace}

/-- The settings for a source are the same where the settings file, if there is one, reads alike. -/
theorem ReadsAlike.settings_eq (halike : w.ReadsAlike isRead w') {source : Path}
    (hread : ∀ directory, Settings.directoryFor w.files source = .ok directory →
      isRead ((Path.absolute directory).child Settings.fileName)) :
    Settings.load w.files source = Settings.load w'.files source := by
  rw [Settings.load, Settings.load, ← halike.agrees.directoryFor_eq]
  cases hdirectory : Settings.directoryFor w.files source with
  | error failure => rfl
  | ok directory =>
    have htext := halike.readText_eq (hread directory hdirectory)
    have hthere := halike.agrees.contains_eq ((Path.absolute directory).child Settings.fileName)
    simp only [bind, Except.bind, htext, hthere]

/-- The rules of an ignore file are the same where it reads alike, and where there is none in either. -/
theorem ReadsAlike.rules_eq (halike : w.ReadsAlike isRead w') {p : Path} (hread : isRead p) :
    IgnoreRule.load w.files p = IgnoreRule.load w'.files p := by
  rw [IgnoreRule.load, IgnoreRule.load, halike.agrees.contains_eq, halike.readText_eq hread]

theorem Agrees.settings_eq (hagrees : w.Agrees isRead w') {source : Path}
    (hread : ∀ directory, Settings.directoryFor w.files source = .ok directory →
      isRead ((Path.absolute directory).child Settings.fileName)) :
    Settings.load w.files source = Settings.load w'.files source :=
  hagrees.readsAlike.settings_eq hread

end Workspace

namespace Pipeline

/-- The paths of the files that a run reads: the settings file unless settings are given, the ignore file of a
directory, and the sources. -/
inductive Reads (given : Option Settings) (source : String) (files : FileSystem) : Path → Prop
  | settings {directory : List String} (hgiven : given = none)
      (hdirectory : Settings.directoryFor files (Path.parse source) = .ok directory) :
      Reads given source files ((Path.absolute directory).child Settings.fileName)
  | ignoreFile {p : Path} (hhome : files.expandHome (Path.parse source) = .ok p)
      (hdirectory : files.isDirectory p = true) : Reads given source files (Pipeline.ignoreFile (files.resolve p))
  | source {settings : Settings} {p q : Path} {sources : List Path}
      (hchosen : chosen given source files = .ok settings)
      (hhome : files.expandHome (Path.parse source) = .ok p)
      (hfinds : Finds files settings.excludePaths p sources) (hmem : q ∈ sources) :
      Reads given source files q

variable {isRead : Path → Prop}

theorem readsOnly_liftM {α : Type} {job : Job α} (hjob : ReadsOnly isRead job) (b : Builder) :
    ReadsOnly isRead ((liftM job : StateT Builder Job α).run b) :=
  hjob.bind fun a => .pure (a, b)

theorem readsOnly_forM {α : Type} {action : α → Job Unit} (hactions : ∀ a, ReadsOnly isRead (action a))
    (items : List α) (b : Builder) :
    ReadsOnly isRead ((items.forM fun a => (action a : StateT Builder Job Unit)).run b) := by
  induction items generalizing b with
  | nil => exact .pure _
  | cons item items ih =>
    rw [List.forM_eq_forM, List.forM_cons, StateT.run_bind]
    apply ReadsOnly.bind (readsOnly_liftM (hactions item) b)
    intro done
    exact ih done.2

/-- Building reads no file; what it does in a workspace is to report skips. -/
theorem readsOnly_build (unit : SourceUnit) (b : Builder) : ReadsOnly isRead ((build unit).run b) := by
  simp only [build, StateT.run_bind, StateT.run_get, StateT.run_set, pure_bind, String.append_assoc]
  apply ReadsOnly.bind
  · apply readsOnly_forM
    intro skip
    exact .note _ _ (Text.startsInLine_append (by decide) _)
  · intro noted
    apply ReadsOnly.bind
    · apply readsOnly_liftM
      exact .note _ _ (Text.startsInLine_append (by decide) _)
    · intro done
      exact .pure _

theorem readsOnly_read {p : Path} (hread : isRead p) : ReadsOnly isRead (SourceUnit.read p) := by
  apply ReadsOnly.bind
  · apply ReadsOnly.reading
    intro w w' halike
    exact halike.sourceText_eq hread
  · intro text
    apply ReadsOnly.bind (.ofExcept _)
    intro unit
    simp only [String.append_assoc]
    apply ReadsOnly.bind (.note _ _ (Text.startsInLine_append (by decide) _))
    intro _
    exact .pure unit

theorem readsOnly_entitiesOf {p : Path} (hread : isRead p) (b : Builder) :
    ReadsOnly isRead ((entitiesOf p).run b) := by
  rw [entitiesOf, StateT.run_bind]
  apply ReadsOnly.bind
  · apply readsOnly_liftM
    exact .note _ _ (Text.startsInLine_append (by decide) _)
  · intro started
    rw [StateT.run_bind]
    apply ReadsOnly.bind (readsOnly_liftM (readsOnly_read hread) _)
    intro found
    exact readsOnly_build found.1 found.2

/-- Each source is read when its turn comes, so a run of them reads these sources and nothing else. -/
theorem readsOnly_mapM_entitiesOf {sources : List Path} (hread : ∀ p ∈ sources, isRead p) (b : Builder) :
    ReadsOnly isRead ((sources.mapM entitiesOf).run b) := by
  induction sources generalizing b with
  | nil => exact .pure _
  | cons p sources ih =>
    rw [List.forall_mem_cons] at hread
    rw [List.mapM_cons, StateT.run_bind]
    apply ReadsOnly.bind (readsOnly_entitiesOf hread.1 b)
    intro built
    rw [StateT.run_bind]
    apply ReadsOnly.bind (ih hread.2 built.2)
    intro more
    exact .pure _

theorem readsOnly_buildAll {sources : List Path} (hread : ∀ p ∈ sources, isRead p) (b : Builder) :
    ReadsOnly isRead (do return (← (sources.mapM entitiesOf).run' b).flatten) := by
  simp only [StateT.run'_eq, map_eq_pure_bind, bind_assoc, pure_bind]
  exact .bind (readsOnly_mapM_entitiesOf hread b) fun _ => .pure _

theorem readsOnly_rendererFor (given : Option Settings) (settings : Settings) :
    ReadsOnly isRead (rendererFor { settings := given } settings) := by
  intro w w' halike
  have hw := outcome_rendererFor given settings w
  rw [halike.agrees.plugins] at hw
  exact .of_outcome_eq hw (outcome_rendererFor given settings w')

variable {w w' : Workspace}

/-- The scan of a directory opens one file, the ignore file; all else that it gives is told by the paths of the
tree. -/
theorem alike_directory {scan : Scan} (hreads : scan.readsSettings = false)
    (hsuffixes : scan.suffixes = sourceSuffixes) (halike : w.ReadsAlike isRead w')
    (hsources : sourcesBelow w.files = sourcesBelow w'.files) {root : List String}
    (hread : isRead (ignoreFile root)) : Alike (scan.directory root) w w' := by
  rw [Alike, Scan.outcome_directory hreads hsuffixes, Scan.outcome_directory hreads hsuffixes,
    ← halike.rules_eq hread, ← hsources]
  cases IgnoreRule.load w.files (ignoreFile root) with
  | error failure => exact ⟨_, [], startInLines_nil, rfl, rfl⟩
  | ok own =>
    refine ⟨_, [_], ?_, rfl, rfl⟩
    simp only [StartInLines, List.forall_mem_singleton, Scan.discovered, String.append_assoc]
    exact Text.startsInLine_append (by decide) _

/-- Scans are alike where the texts of the ignore file are. A path to a file is scanned without opening
anything. -/
theorem alike_scan {scan : Scan} (hreads : scan.readsSettings = false)
    (hsuffixes : scan.suffixes = sourceSuffixes) {source : String} (halike : w.ReadsAlike isRead w')
    (hsources : sourcesBelow w.files = sourcesBelow w'.files)
    (hread : ∀ p, w.files.expandHome (Path.parse source) = .ok p → w.files.isDirectory p = true →
      isRead (ignoreFile (w.files.resolve p))) : Alike (scan.run source) w w' := by
  cases hhome : w.files.expandHome (Path.parse source) with
  | error failure =>
    have hstart := Job.outcome_reading (·.expandHome (Path.parse source)) w
    have hstart' := Job.outcome_reading (·.expandHome (Path.parse source)) w'
    rw [hhome] at hstart
    rw [← halike.agrees.expandHome_eq, hhome] at hstart'
    exact .of_outcome_eq (Job.outcome_bind_of_error hstart _) (Job.outcome_bind_of_error hstart' _)
  | ok p =>
    rw [Alike, scan.outcome_run_of_home hhome,
      scan.outcome_run_of_home (halike.agrees.expandHome_eq _ ▸ hhome), ← halike.agrees.contains_eq,
      ← halike.agrees.isDirectory_eq, ← halike.agrees.resolve_eq]
    by_cases hmissing : w.files.contains p = false
    · rw [if_pos hmissing, if_pos hmissing]
      exact ⟨_, [], startInLines_nil, rfl, rfl⟩
    · rw [if_neg hmissing, if_neg hmissing]
      by_cases hdirectory : w.files.isDirectory p = true
      · rw [if_pos hdirectory, if_pos hdirectory]
        exact alike_directory hreads hsuffixes halike hsources (hread p hhome hdirectory)
      · rw [if_neg hdirectory, if_neg hdirectory]
        exact ⟨_, [], startInLines_nil, rfl, rfl⟩

/-- The sources that a scan returns are those that the path leads to in the relation that tells the stages of a
run. -/
theorem finds_of_outcome {given : Option Settings} {settings : Settings} {source : String}
    {sources : List Path}
    (hfound : ((Scan.run (scanFor { settings := given } settings) source).outcome w).1 = .ok sources) :
    ∃ p, w.files.expandHome (Path.parse source) = .ok p ∧ Finds w.files settings.excludePaths p sources := by
  rcases Scan.outcome_run_cases (rfl : (scanFor { settings := given } settings).readsSettings = false) rfl
    source w with ⟨failure, _, hscan⟩ | ⟨p, _, _, hscan⟩ | ⟨p, failure, _, _, _, hscan⟩ |
      ⟨p, found, records, hhome, hfinds, hscan⟩
  all_goals rw [hscan] at hfound; cases hfound
  exact ⟨p, hhome, hfinds⟩

/-- Runs are alike where the texts that they read are. The proof follows the stages: up to the scan both runs
find the same, and then they read the same sources one by one. -/
theorem alike_run {given : Option Settings} {source : String}
    (hreads : ∀ p, Reads given source w.files p → isRead p)
    (halike : w.ReadsAlike isRead w') (hsources : sourcesBelow w.files = sourcesBelow w'.files) :
    Alike (run { settings := given } source) w w' := by
  have hsame : chosen given source w'.files = chosen given source w.files := by
    cases given with
    | some settings => rfl
    | none => exact (halike.settings_eq fun directory hdirectory => hreads _ (.settings rfl hdirectory)).symm
  -- Loading settings changes nothing, so the scan still sees both workspaces as they were.
  refine .after (outcome_settingsFor given source w) (hsame ▸ outcome_settingsFor given source w')
    fun settings hchosen => ?_
  have hscan := alike_scan (rfl : (scanFor { settings := given } settings).readsSettings = false) rfl halike
    hsources fun p hhome hdirectory => hreads _ (.ignoreFile hhome hdirectory)
  have hcollect : Alike (collectWith { settings := given } settings source) w w' := by
    refine hscan.bind fun sources records hstart hfound => ?_
    obtain ⟨p, hhome, hfinds⟩ := finds_of_outcome (congrArg Prod.fst hfound)
    exact readsOnly_buildAll (fun q hmem => hreads _ (.source hchosen hhome hfinds hmem)) _ _ _
      (halike.noteAll hstart)
  refine hcollect.bind fun entities records hstart _ => ?_
  refine (readsOnly_rendererFor given settings).bind (fun renderer => ?_) _ _ (halike.noteAll hstart)
  simp only [String.append_assoc]
  exact .bind (.note _ _ (Text.startsInLine_append (by decide) _)) fun _ => .pure _

/-- Runs agree where the files that they read do, in what they give and in the records that they leave. -/
theorem agreesIn_run {given : Option Settings} {source : String}
    (hreads : ∀ p, Reads given source w.files p → isRead p)
    (hagrees : w.Agrees isRead w') (hsources : sourcesBelow w.files = sourcesBelow w'.files) :
    AgreesIn isRead (run { settings := given } source) w w' :=
  (alike_run hreads hagrees.readsAlike hsources).agreesIn hagrees

/-- A run does not depend on the log, as long as the same goes to files. A record that reaches a file could be
read back as part of a source; one that reaches a stream cannot. -/
theorem outcome_run_relogged (given : Option Settings) (source : String) (w : Workspace) {log : Log}
    (hfiled : w.log.filed = log.filed) :
    ((run { settings := given } source).outcome { w with log }).1 =
      ((run { settings := given } source).outcome w).1 := by
  have hagrees : w.Agrees (Reads given source w.files) { w with log } :=
    ⟨hfiled, rfl, rfl, rfl, rfl, rfl, fun _ => rfl, fun _ _ => rfl⟩
  exact (agreesIn_run (fun _ hreads => hreads) hagrees rfl).1.symm

/-- A run is a sequence of stages: it ends with the failure of the first that fails, and else with a diagram of
the entities of all sources, each built on its own. Whatever the files hold that it does not read, it ends the
same way. Such files may fail to be texts, and sources that are left out may fail to be sources. -/
theorem run_ends_of_stages (given : Option Settings) (source : String) (w : Workspace) :
    Ends given source w ((run { settings := given } source).outcome w).1 ∧
      ∀ tree, w.files.tree.NamesDistinct → tree.NamesDistinct → w.files.tree.SamePaths tree →
        (∀ p, Reads given source w.files p →
          w.files.tree.bytesAt (w.files.resolve p) = tree.bytesAt (w.files.resolve p)) →
        ((run { settings := given } source).outcome { w with files := { w.files with tree } }).1 =
          ((run { settings := given } source).outcome w).1 := by
  constructor
  · obtain ⟨result, records, hrun, hends⟩ := outcome_run given source w
    rw [hrun]
    exact hends
  · intro tree hdistinct hdistinct' hpaths hbytes
    have hagrees : w.Agrees (Reads given source w.files) { w with files := { w.files with tree } } :=
      ⟨rfl, rfl, rfl, rfl, rfl, rfl, hpaths, hbytes⟩
    exact (agreesIn_run (fun _ hreads => hreads) hagrees (hagrees.sourcesBelow_eq hdistinct hdistinct')).1.symm

/-- A directory whose ignore file names the directory `old`, with a file in it that holds some bytes. -/
def crateWith (bytes : List UInt8) : FileTree :=
  .directory [("crate", .directory
    [(".gitignore", .file [0x6f, 0x6c, 0x64, 0x0a]), ("lib.rs", .file []),
      ("old", .directory [("x.rs", .file bytes)])])]

theorem crateWith_namesDistinct (bytes : List UInt8) : (crateWith bytes).NamesDistinct :=
  FileTree.namesDistinct_of_listsAll rfl

/-- With its directory ignored, the file in `old` is no source, which leaves the other one. -/
theorem eq_lib_of_selected {names : List String} {tree : FileTree} {rules : List IgnoreRule}
    (htree : (crateWith []).get? ["crate"] = some tree) (hselected : tree.Selected [".rs"] rules names)
    (hignored : IgnoreRule.ignores rules "old" true = true) : names = ["lib.rs"] := by
  cases htree
  obtain ⟨hne, hfile, hsuffix, _, hbelow⟩ := hselected
  obtain ⟨name, rest, rfl⟩ := List.exists_cons_of_ne_nil hne
  rw [FileTree.isFileAt_cons_iff (by decide)] at hfile
  obtain ⟨found, hmem, hfile⟩ := hfile
  simp only [List.mem_cons, Prod.mk.injEq, List.not_mem_nil, or_false] at hmem
  obtain ⟨rfl, rfl⟩ | ⟨rfl, rfl⟩ | ⟨rfl, rfl⟩ := hmem
  · cases rest with
    | nil => exact absurd hsuffix (by decide +kernel)
    | cons next rest => exact absurd hfile (FileTree.not_isFileAt_file_cons _ _ _)
  · cases rest with
    | nil => rfl
    | cons next rest => exact absurd hfile (FileTree.not_isFileAt_file_cons _ _ _)
  · cases rest with
    | nil => exact absurd hfile (FileTree.not_isFileAt_directory_nil _)
    | cons next rest =>
      have hentered := (hbelow ["old"] (by simp) ⟨next :: rest, rfl⟩ (by simp)).2
      exact absurd hignored (by simpa [FileTree.relativeText] using hentered)

theorem crateWith_bytesAt {p : Path} (hreads : Reads none "crate" { tree := crateWith [] } p)
    (bytes : List UInt8) : (crateWith []).bytesAt (p.resolve []) = (crateWith bytes).bytesAt (p.resolve []) := by
  cases hreads with
  | settings hgiven hdirectory =>
    cases hdirectory
    rfl
  | ignoreFile hhome hdirectory =>
    cases hhome
    rfl
  | source hchosen hhome hfinds hmem =>
    cases hchosen
    cases hhome
    cases hfinds with
    | file hthere hfile => exact absurd hfile (by decide)
    | directory hdirectory hrules =>
      cases hrules
      obtain ⟨names, hnames, rfl⟩ := List.mem_map.mp hmem
      have htree : (crateWith []).get? ["crate"] = some _ := rfl
      have hselected := (FileTree.mem_sources ((crateWith_namesDistinct []).of_get? htree) names).mp hnames
      obtain rfl := eq_lib_of_selected htree hselected (by decide +kernel)
      rfl

/-- What the ignored file holds changes nothing, not even that it is no text. -/
theorem run_of_crate :
    (crateWith []).NamesDistinct ∧ (crateWith [0xff]).NamesDistinct ∧
      (crateWith []).SamePaths (crateWith [0xff]) ∧
      (∀ p, Reads none "crate" { tree := crateWith [] } p →
        (crateWith []).bytesAt (p.resolve []) = (crateWith [0xff]).bytesAt (p.resolve [])) ∧
      ((run {} "crate").outcome { files := { tree := crateWith [0xff] } }).1 =
        ((run {} "crate").outcome { files := { tree := crateWith [] } }).1 := by
  have hput (bytes : List UInt8) :
      crateWith bytes = (crateWith []).put ["crate", "old", "x.rs"] (.file bytes) := rfl
  have hpaths : (crateWith []).SamePaths (crateWith [0xff]) := by
    rw [hput [], hput [0xff]]
    exact FileTree.SamePaths.put (fun _ => rfl) _ _ _
  have hbytes (p : Path) (hreads : Reads none "crate" { tree := crateWith [] } p) :=
    crateWith_bytesAt hreads [0xff]
  have hdistinct := crateWith_namesDistinct
  have hends := run_ends_of_stages none "crate" { files := { tree := crateWith [] } }
  exact ⟨hdistinct _, hdistinct _, hpaths, hbytes, hends.2 _ (hdistinct _) (hdistinct _) hpaths hbytes⟩

/-- Settings are given and there is nothing at the path; but the path starts at the home directory of nobody,
and this is found out first. So the run does not end with a missing input. -/
theorem run_of_stranger :
    (crateWith []).lookup? [] (Path.parse "~stranger/lib.rs") = none ∧
      ((run { settings := some {} } "~stranger/lib.rs").outcome { files := { tree := crateWith [] } }).1 =
        .error .noHome ∧
      ((run { settings := some {} } "~stranger/lib.rs").outcome { files := { tree := crateWith [] } }).1 ≠
        .error (.inputMissing "~stranger/lib.rs") :=
  ⟨rfl, rfl, nofun⟩

end Pipeline

end ClassDiagram
