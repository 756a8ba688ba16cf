import ClassDiagram.Proofs.Pipeline.Stages

namespace ClassDiagram

/-- Two steps in a row fail if the first fails, or else the second on what the first gave. -/
theorem bind_eq_error_iff {ε α β : Type} {result : Except ε α} {next : α → Except ε β} {error : ε} :
    (result >>= next) = .error error ↔
      result = .error error ∨ ∃ a, result = .ok a ∧ next a = .error error := by
  cases result <;> simp [bind, Except.bind]

theorem mapError_eq_error_iff {ε ε' α : Type} {result : Except ε α} {f : ε → ε'} {error : ε'} :
    result.mapError f = .error error ↔ ∃ cause, result = .error cause ∧ f cause = error := by
  cases result <;> simp [Except.mapError]

theorem FileSystem.contains_of_isDirectory {files : FileSystem} {p : Path}
    (hdirectory : files.isDirectory p = true) : files.contains p = true := by
  rw [contains]
  cases hlookup : files.lookup? p with
  | none => simp [isDirectory, hlookup] at hdirectory
  | some found => rfl

/-- A path fails to be expanded in one way only: there is no home for its first part. -/
theorem FileSystem.eq_noHome_of_expandHome {files : FileSystem} {p : Path} {failure : Failure}
    (hhome : files.expandHome p = .error failure) : failure = .noHome := by
  rw [expandHome] at hhome
  split at hhome
  · cases hhome
  · cases hhome
    rfl

theorem FileSystem.readBytes_error {files : FileSystem} {p : Path} {failure : Failure}
    (hread : files.readBytes p = .error failure) : ∃ error, failure = .file error := by
  rw [readBytes, mapError_eq_error_iff] at hread
  obtain ⟨fault, _, rfl⟩ := hread
  exact ⟨_, rfl⟩

/-- Text cannot be read where there is no file, or where the file holds no text. -/
theorem FileSystem.readText_error {files : FileSystem} {p : Path} {failure : Failure}
    (hread : files.readText p = .error failure) :
    (∃ error, failure = .file error) ∨ ∃ fault, failure = .encoding fault := by
  rw [readText, bind_eq_error_iff] at hread
  rcases hread with hbytes | ⟨bytes, _, htext⟩
  · exact .inl (readBytes_error hbytes)
  · obtain ⟨fault, _, rfl⟩ := mapError_eq_error_iff.mp htext
    exact .inr ⟨fault, rfl⟩

/-- An ignore file fails to be loaded when its text cannot be read. What is in the text never fails, since each
line gives a rule or none. -/
theorem IgnoreRule.load_error {files : FileSystem} {p : Path} {failure : Failure}
    (hload : IgnoreRule.load files p = .error failure) :
    (∃ error, failure = .file error) ∨ ∃ fault, failure = .encoding fault := by
  rw [load] at hload
  split at hload
  · rcases bind_eq_error_iff.mp hload with hread | ⟨text, _, hparsed⟩
    · exact FileSystem.readText_error hread
    · cases hparsed
  · cases hload

/-- A source cannot be read, or is no source in the language. That it is no text counts as the second. -/
theorem SourceUnit.readFrom_error {files : FileSystem} {p : Path} {failure : Failure}
    (hread : SourceUnit.readFrom files p = .error failure) :
    (∃ error, failure = .file error) ∨ ∃ error, failure = .source error := by
  rcases bind_eq_error_iff.mp hread with htext | ⟨text, _, hparse⟩
  · rcases bind_eq_error_iff.mp htext with hbytes | ⟨bytes, _, hdecode⟩
    · exact .inl (FileSystem.readBytes_error hbytes)
    · obtain ⟨fault, _, rfl⟩ := mapError_eq_error_iff.mp hdecode
      exact .inr ⟨_, rfl⟩
  · obtain ⟨error, _, rfl⟩ := mapError_eq_error_iff.mp hparse
    exact .inr ⟨error, rfl⟩

/-- The settings for a path cannot be read, which is not to say that a document in them is no use: the path
starts at the home directory of nobody, the settings file is no text file, or a scalar in it does not spell
its value or is an integer too long to be written out. -/
inductive Settings.Unreadable (files : FileSystem) (source : Path) : Failure → Prop
  | home {failure : Failure} (hhome : files.expandHome source = .error failure) : Unreadable files source failure
  | file {root : List String} {failure : Failure} (hroot : directoryFor files source = .ok root)
      (hthere : files.contains ((Path.absolute root).child fileName) = true)
      (hread : files.readText ((Path.absolute root).child fileName) = .error failure) :
      Unreadable files source failure
  | scalar {root : List String} {text : String} {fault : Yaml.Fault}
      (hroot : directoryFor files source = .ok root)
      (hthere : files.contains ((Path.absolute root).child fileName) = true)
      (hread : files.readText ((Path.absolute root).child fileName) = .ok text)
      (hblank : Text.strip text ≠ "") (hload : document text = .error fault) (hfault : fault ≠ .malformed) :
      Unreadable files source (.scalar fault)

namespace Settings

/-- A text of settings is refused with an error of settings, or with that of a scalar which the reader of
documents lets through as it is. -/
theorem ofText_error {root : List String} {text : String} {failure : Failure}
    (htext : ofText root text = .error failure) :
    (∃ error, failure = .settings error) ∨
      ∃ fault, failure = .scalar fault ∧ Text.strip text ≠ "" ∧ document text = .error fault ∧
        fault ≠ .malformed := by
  rw [ofText] at htext
  split at htext
  · cases htext
  · next hblank =>
    split at htext
    · cases htext
      exact .inl ⟨_, rfl⟩
    · next fault hmalformed hload =>
      cases htext
      exact .inr ⟨fault, rfl, hblank, hload, hmalformed⟩
    · obtain ⟨error, _, rfl⟩ := mapError_eq_error_iff.mp htext
      exact .inl ⟨error, rfl⟩

theorem ofText_of_fault {root : List String} {text : String} {fault : Yaml.Fault} (hblank : Text.strip text ≠ "")
    (hload : document text = .error fault) (hfault : fault ≠ .malformed) :
    ofText root text = .error (.scalar fault) := by
  rw [ofText, if_neg hblank, hload]
  cases fault with
  | malformed => exact absurd rfl hfault
  | _ => rfl

/-- The directory of a source can be told whenever its path can be expanded; a path that leads nowhere is told
by its text. -/
theorem directoryFor_error_iff {files : FileSystem} {source : Path} {failure : Failure} :
    directoryFor files source = .error failure ↔ files.expandHome source = .error failure := by
  rw [directoryFor, bind_eq_error_iff]
  refine or_iff_left ?_
  rintro ⟨p, _, hresolved⟩
  cases hresolved

/-- Loading settings fails in a way of its own when they cannot be read. The refusals of a document that was
read are all errors of settings, which the hypothesis sets aside. -/
theorem load_error_iff {files : FileSystem} {source : Path} {failure : Failure}
    (hother : ∀ error, failure ≠ .settings error) :
    load files source = .error failure ↔ Unreadable files source failure := by
  rw [load, bind_eq_error_iff, directoryFor_error_iff]
  constructor
  · rintro (hhome | ⟨root, hroot, hfile⟩)
    · exact .home hhome
    · dsimp only at hfile
      split at hfile
      · next hthere =>
        rcases bind_eq_error_iff.mp hfile with hread | ⟨text, hread, htext⟩
        · exact .file hroot hthere hread
        · rcases ofText_error htext with ⟨error, rfl⟩ | ⟨fault, rfl, hblank, hload, hfault⟩
          · exact absurd rfl (hother error)
          · exact .scalar hroot hthere hread hblank hload hfault
      · cases hfile
  · intro hunreadable
    cases hunreadable with
    | home hhome => exact .inl hhome
    | file hroot hthere hread =>
      refine .inr ⟨_, hroot, ?_⟩
      dsimp only
      rw [if_pos hthere]
      exact bind_eq_error_iff.mpr (.inl hread)
    | scalar hroot hthere hread hblank hload hfault =>
      refine .inr ⟨_, hroot, ?_⟩
      dsimp only
      rw [if_pos hthere]
      exact bind_eq_error_iff.mpr (.inr ⟨_, hread, ofText_of_fault hblank hload hfault⟩)

/-- Settings that cannot be read fail with no error of settings, so the two ways to fail can be told apart. -/
theorem Unreadable.ne_settings {files : FileSystem} {source : Path} {failure : Failure}
    (hunreadable : Unreadable files source failure) (error : SettingsError) : failure ≠ .settings error := by
  cases hunreadable with
  | home hhome => rw [FileSystem.eq_noHome_of_expandHome hhome]; exact nofun
  | file hroot hthere hread =>
    rcases FileSystem.readText_error hread with ⟨_, rfl⟩ | ⟨_, rfl⟩
    · exact nofun
    · exact nofun
  | scalar => exact nofun

end Settings

namespace Pipeline

theorem Gives.error_cases {w : Workspace} {p : Path} {failure : Failure} (hgives : Gives w p (.error failure)) :
    (∃ error, failure = .file error) ∨ ∃ error, failure = .source error := by
  generalize hresult : (Except.error failure : Except Failure SourceUnit) = result at hgives
  cases hgives with
  | atStart => exact SourceUnit.readFrom_error hresult.symm
  | afterRecords hlog records => exact SourceUnit.readFrom_error hresult.symm

/-- Reading the sources fails with the failure of one of them: its file, or the text in it. -/
theorem GivesAll.error_cases {w : Workspace} {sources : List Path} {result : Except Failure (List SourceUnit)}
    (hgives : GivesAll w sources result) {failure : Failure} (hresult : result = .error failure) :
    (∃ error, failure = .file error) ∨ ∃ error, failure = .source error := by
  induction hgives with
  | done => cases hresult
  | stop hfails =>
    cases hresult
    exact hfails.error_cases
  | @next p rest unit result hunit hrest ih =>
    cases result with
    | ok units => cases hresult
    | error failure' => exact ih hresult

/-- Without plugins the lookup of a renderer fails for want of the name only. -/
theorem rendererNamed_error {settings : Settings} {error : RendererError}
    (hrenderer : rendererNamed [] settings = .error error) :
    ∃ requested available, error = .unknownOutputType requested available := by
  rw [rendererNamed, Renderer.ofName, Renderer.factory] at hrenderer
  split at hrenderer
  · cases hrenderer
  · cases hrenderer
    exact ⟨_, _, rfl⟩

/-- Sources are found in a directory only after its ignore file was loaded, so one that cannot be read ends the
run. -/
theorem Finds.rules_ok {files : FileSystem} {excludePaths : List String} {p : Path} {sources : List Path}
    (hfinds : Finds files excludePaths p sources) (hdirectory : files.isDirectory p = true) :
    ∃ own, IgnoreRule.load files (Pipeline.ignoreFile (files.resolve p)) = .ok own := by
  cases hfinds with
  | file hthere hfile =>
    rw [hfile] at hdirectory
    cases hdirectory
  | directory hdirectory hrules => exact ⟨_, hrules⟩

/-- An ignore file that cannot be read ends a run with given settings, before any source is looked for. -/
theorem Ends.eq_of_ignoreFile {settings : Settings} {source : String} {w : Workspace} {p : Path}
    {failure : Failure} {result : Except Failure String} (hends : Ends (some settings) source w result)
    (hhome : w.files.expandHome (Path.parse source) = .ok p) (hdirectory : w.files.isDirectory p = true)
    (hrules : IgnoreRule.load w.files (Pipeline.ignoreFile (w.files.resolve p)) = .error failure) :
    result = .error failure := by
  have hno {sources : List Path} {excludePaths : List String} : ¬ Finds w.files excludePaths p sources := by
    intro hfinds
    obtain ⟨own, hown⟩ := hfinds.rules_ok hdirectory
    rw [hrules] at hown
    cases hown
  cases hends with
  | settings hchosen => cases hchosen
  | home hchosen hnone =>
    rw [hhome] at hnone
    cases hnone
  | missing hchosen hsame hmissing =>
    cases hhome.symm.trans hsame
    rw [FileSystem.contains_of_isDirectory hdirectory] at hmissing
    cases hmissing
  | ignoreFile hchosen hsame _ hfailed =>
    cases hhome.symm.trans hsame
    cases hrules.symm.trans hfailed
    rfl
  | source hchosen hsame hfinds _ =>
    cases hhome.symm.trans hsame
    exact absurd hfinds hno
  | renderer hchosen hsame hfinds _ _ =>
    cases hhome.symm.trans hsame
    exact absurd hfinds hno
  | drawn hchosen hsame hfinds _ _ =>
    cases hhome.symm.trans hsame
    exact absurd hfinds hno

/-- All failures of a run whose settings are given and whose path can be read, if no plugins are there. Each
stage has failures of its own kinds, so that the failure of a run tells the stage that it comes from. -/
theorem Ends.error_cases {settings : Settings} {source : String} {w : Workspace} {p : Path} {failure : Failure}
    (hends : Ends (some settings) source w (.error failure)) (hplugins : w.plugins = [])
    (hhome : w.files.expandHome (Path.parse source) = .ok p) :
    failure = .inputMissing source ∨ (∃ error, failure = .source error) ∨ (∃ error, failure = .file error) ∨
      (∃ requested available, failure = .renderer (.unknownOutputType requested available)) ∨
      ∃ fault, failure = .encoding fault ∧ w.files.isDirectory p = true ∧
        IgnoreRule.load w.files (Pipeline.ignoreFile (w.files.resolve p)) = .error (.encoding fault) := by
  cases hends with
  | settings hchosen => cases hchosen
  | home hchosen hnone =>
    rw [hhome] at hnone
    cases hnone
  | missing hchosen hsame hmissing => exact .inl rfl
  | ignoreFile hchosen hsame hdirectory hrules =>
    cases hhome.symm.trans hsame
    rcases IgnoreRule.load_error hrules with ⟨error, rfl⟩ | ⟨fault, rfl⟩
    · exact .inr (.inr (.inl ⟨error, rfl⟩))
    · exact .inr (.inr (.inr (.inr ⟨fault, rfl, hdirectory, hrules⟩)))
  | source hchosen hsame hfinds hfails =>
    rcases hfails.error_cases rfl with ⟨error, rfl⟩ | ⟨error, rfl⟩
    · exact .inr (.inr (.inl ⟨error, rfl⟩))
    · exact .inr (.inl ⟨error, rfl⟩)
  | renderer hchosen hsame hfinds hunits hrenderer =>
    rw [hplugins] at hrenderer
    obtain ⟨requested, available, rfl⟩ := rendererNamed_error hrenderer
    exact .inr (.inr (.inr (.inl ⟨requested, available, rfl⟩)))

end Pipeline

end ClassDiagram
