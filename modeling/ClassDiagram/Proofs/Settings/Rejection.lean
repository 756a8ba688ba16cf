import ClassDiagram.Proofs.Pipeline.Failures
import ClassDiagram.Proofs.Yaml.Values

namespace ClassDiagram.Settings

/-- The value that the text of a settings file gives under a key, null where it gives none. -/
def valueUnder (text key : String) : Value :=
  if Text.strip text = "" then .null
  else
    match Yaml.load text with
    | .ok (.fields entries) => Yaml.fieldOf entries key
    | _ => .null

/-- The settings where every key has this value. Each comes from the value under its own key, and is the default
where that value is no use for it. -/
def ofValues (root : List String) (value : String → Value) : Settings :=
  let defaults : Settings := { root }
  { root
    outputType := ((value "output_type").asText?.filter (· ≠ "")).getD defaults.outputType
    includeEnums := (value "include_enums").asFlag?.getD defaults.includeEnums
    visibilityMarkers := (value "visibility_markers").asFlag?.getD defaults.visibilityMarkers
    excludePaths := (value "exclude_paths").asTexts }

/-- Of a mapping only the value under each key counts: the last entry of the key, and null if there is none. -/
theorem ofFields_eq_ofValues (root : List String) (entries : List (String × Value)) :
    ofFields root entries = ofValues root (Yaml.fieldOf entries) := by
  have hname (name? : Option String) :
      (if name?.getD "" = "" then "plantuml" else name?.getD "") = (name?.filter (· ≠ "")).getD "plantuml" := by
    cases name? with
    | none => rfl
    | some name => by_cases hname : name = "" <;> simp [hname, Option.filter]
  rw [ofFields, ofValues]
  simp only [hname]

theorem ofValues_null (root : List String) : ofValues root (fun _ => .null) = { root } :=
  rfl

section Text

variable {root : List String} {text : String}

theorem valueUnder_of_blank (hblank : Text.strip text = "") : valueUnder text = fun _ => .null := by
  funext key
  rw [valueUnder, if_pos hblank]

theorem valueUnder_of_nothing (hload : Yaml.load text = .ok .nothing) : valueUnder text = fun _ => .null := by
  funext key
  rw [valueUnder, hload, ite_self]

theorem valueUnder_of_fields {entries : List (String × Value)} (htext : Text.strip text ≠ "")
    (hload : Yaml.load text = .ok (.fields entries)) : valueUnder text = Yaml.fieldOf entries := by
  funext key
  rw [valueUnder, if_neg htext, hload]

/-- What a text gives that can be loaded and holds no integer that is too long. -/
theorem ofText_of_load {loaded : Yaml.Loaded} (htext : Text.strip text ≠ "") (hload : Yaml.load text = .ok loaded)
    (hshort : hasOverlong loaded = false) : ofText root text = (ofLoaded root loaded).mapError .settings := by
  have hdocument : document text = .ok loaded := by
    simp [document, hload, hshort, bind, Except.bind]
  rw [ofText, if_neg htext, hdocument]

/-- A blank text gives the defaults, without being read as a document. Blanks that no document may hold are
accepted in this way. -/
theorem ofText_of_blank (hblank : Text.strip text = "") : ofText root text = .ok (ofValues root (valueUnder text)) := by
  rw [ofText, if_pos hblank, valueUnder_of_blank hblank, ofValues_null]

/-- A text that says nothing gives the defaults. Besides an empty document this is each value that counts as
false, such as an empty list. -/
theorem ofText_of_nothing (htext : Text.strip text ≠ "") (hload : Yaml.load text = .ok .nothing) :
    ofText root text = .ok (ofValues root (valueUnder text)) := by
  rw [ofText_of_load htext hload rfl, valueUnder_of_nothing hload, ofValues_null]
  rfl

/-- Something at the root that is neither a mapping nor says nothing is refused. -/
theorem ofText_of_other (htext : Text.strip text ≠ "") (hload : Yaml.load text = .ok .other) :
    ofText root text = .error (.settings .notAMapping) := by
  rw [ofText_of_load htext hload rfl]
  rfl

/-- A mapping gives settings unless an integer is too long to be written out. No value makes a mapping be
refused, since one that is no use for its setting leaves the default. -/
theorem ofText_of_fields {entries : List (String × Value)} (htext : Text.strip text ≠ "")
    (hload : Yaml.load text = .ok (.fields entries)) :
    ofText root text =
      if holdsOverlong (valueUnder text) then .error (.scalar .integerText)
      else .ok (ofValues root (valueUnder text)) := by
  rw [valueUnder_of_fields htext hload]
  split
  · next hlong =>
    refine ofText_of_fault htext ?_ (by simp)
    simp [document, hload, hasOverlong, hlong, bind, Except.bind]
  · next hshort =>
    rw [ofText_of_load htext hload (by simpa [hasOverlong] using hshort), ofLoaded, ofFields_eq_ofValues]
    rfl

/-- A text that cannot be loaded is refused where it is malformed, and fails with the fault of a scalar else.
The second is no refusal of the settings: the fault passes through as it is. -/
theorem ofText_of_load_error {fault : Yaml.Fault} (htext : Text.strip text ≠ "")
    (hload : Yaml.load text = .error fault) :
    ofText root text = .error (if fault = .malformed then .settings .malformed else .scalar fault) := by
  have hdocument : document text = .error fault := by
    simp [document, hload, bind, Except.bind]
  split
  · next hmalformed =>
    rw [ofText, if_neg htext, hdocument, hmalformed]
  · next hfault => exact ofText_of_fault htext hdocument hfault

end Text

section Load

variable {files : FileSystem} {source : Path} {root : List String}

/-- Without a settings file the defaults hold, with the directory of the source as their root. -/
theorem load_of_absent (hroot : directoryFor files source = .ok root)
    (habsent : files.contains ((Path.absolute root).child fileName) = false) :
    load files source = .ok { root } := by
  simp [load, hroot, habsent, bind, Except.bind, pure, Except.pure]

/-- A settings file that can be read leads to what its text gives, whatever directory it is found in. -/
theorem load_of_text {text : String} (hroot : directoryFor files source = .ok root)
    (hthere : files.contains ((Path.absolute root).child fileName) = true)
    (hread : files.readText ((Path.absolute root).child fileName) = .ok text) :
    load files source = ofText root text := by
  simp [load, hroot, hthere, hread, bind, Except.bind]

/-- The settings of a directory are refused exactly where its file holds a malformed text, or one with something
at its root that is neither a mapping nor says nothing. They are the defaults without a file. With one, they are
what the values under the keys make them, where the text is blank, says nothing, or is a mapping without an
integer too long to be written out; what is left are the scalars that do not spell a value, whose faults are no
refusals. -/
theorem load_refuses_exactly {files : FileSystem} {source : Path} {root : List String}
    (hroot : directoryFor files source = .ok root) :
    (files.contains ((Path.absolute root).child fileName) = false → load files source = .ok { root }) ∧
      ∀ text, files.contains ((Path.absolute root).child fileName) = true →
        files.readText ((Path.absolute root).child fileName) = .ok text →
        (load files source = .error (.settings .malformed) ↔
          Text.strip text ≠ "" ∧ Yaml.rootKind text = .error .malformed) ∧
        (load files source = .error (.settings .notAMapping) ↔
          Text.strip text ≠ "" ∧ Yaml.rootKind text = .ok .other) ∧
        ((∃ settings, load files source = .ok settings) ↔
          Text.strip text = "" ∨ Yaml.rootKind text = .ok .null ∨ Yaml.rootKind text = .ok .empty ∨
            Yaml.rootKind text = .ok .mapping ∧ holdsOverlong (valueUnder text) = false) ∧
        (∀ settings, load files source = .ok settings → settings = ofValues root (valueUnder text)) ∧
        ∀ failure, load files source = .error failure → (∃ error, failure = .settings error) ∨
          ∃ fault, failure = .scalar fault ∧
            (fault = .integerText ∧ Yaml.rootKind text = .ok .mapping ∧ holdsOverlong (valueUnder text) = true ∨
              Yaml.rootKind text = .error fault ∧
                (fault = .codePoint ∨ fault = .codePointOverflow ∨ fault.IsOfScalar)) := by
  refine ⟨load_of_absent hroot, fun text hthere hread => ?_⟩
  rw [load_of_text hroot hthere hread]
  by_cases htext : Text.strip text = ""
  · simp [ofText_of_blank htext, htext]
  · have hkind := Yaml.load_of_rootKind text
    cases hrootKind : Yaml.rootKind text with
    | error fault =>
      rw [hrootKind] at hkind
      have hfault := Yaml.load_fault hkind
      rw [ofText_of_load_error htext hkind]
      by_cases hmalformed : fault = .malformed
      · simp [hmalformed, htext]
      · simpa [hmalformed, htext] using hfault
    | ok kind =>
      rw [hrootKind] at hkind
      cases kind with
      | mapping =>
        obtain ⟨entries, hload⟩ := hkind
        rw [ofText_of_fields htext hload]
        cases hlong : holdsOverlong (valueUnder text) <;> simp [htext]
      | null => simp [ofText_of_nothing htext hkind, htext]
      | empty => simp [ofText_of_nothing htext hkind, htext]
      | other => simp [ofText_of_other htext hkind, htext]

end Load

/-- A directory that holds a settings file with this text, and nothing else. -/
def settledFiles (text : String) : FileSystem :=
  { tree := .directory [("crate", .directory [(".ruml.yml", .file (Text.encodeUtf8 text))])] }

theorem directoryFor_settledFiles (text : String) :
    directoryFor (settledFiles text) (Path.parse "crate") = .ok ["crate"] :=
  rfl

theorem contains_settledFiles (text : String) :
    (settledFiles text).contains ((Path.absolute ["crate"]).child fileName) = true :=
  rfl

/-- Settings with a number where a text belongs. -/
def numberText : String := "output_type: 3\n"

/-- What they make. -/
def numberSettings : Settings := { root := ["crate"], outputType := "3" }

theorem load_numberText :
    directoryFor (settledFiles numberText) (Path.parse "crate") = .ok ["crate"] ∧
      Yaml.rootKind numberText = .ok .mapping ∧
      load (settledFiles numberText) (Path.parse "crate") = .ok numberSettings := by
  have hroot := directoryFor_settledFiles numberText
  have hread : (settledFiles numberText).readText ((Path.absolute ["crate"]).child fileName) = .ok numberText :=
    eq_ok_of_toOption (by decide +kernel)
  obtain ⟨hkind, hshort, hvalue⟩ : Yaml.rootKind numberText = .ok .mapping ∧
      holdsOverlong (valueUnder numberText) = false ∧
      ofValues ["crate"] (valueUnder numberText) = numberSettings := by decide +kernel
  obtain ⟨_, hpresent⟩ := load_refuses_exactly hroot
  obtain ⟨_, _, hgiven, hvalues, _⟩ := hpresent numberText (contains_settledFiles numberText) hread
  obtain ⟨settings, hload⟩ := hgiven.mpr (.inr (.inr (.inr ⟨hkind, hshort⟩)))
  refine ⟨hroot, hkind, ?_⟩
  rw [hload, hvalues settings hload, hvalue]

/-- An empty list is neither a mapping nor null and is not refused. A date in a thirteenth month cannot be
loaded, and the failure is not a refusal of the settings. -/
theorem load_emptyList_and_impossibleDate :
    Yaml.rootKind "[]\n" = .ok .empty ∧
      load (settledFiles "[]\n") (Path.parse "crate") = .ok { root := ["crate"] } ∧
      Yaml.rootKind "2020-13-01\n" = .error (.date .month) ∧
      load (settledFiles "2020-13-01\n") (Path.parse "crate") = .error (.scalar (.date .month)) := by
  have hdate : Yaml.rootKind "2020-13-01\n" = .error (.date .month) := by decide +kernel
  have hread : (settledFiles "2020-13-01\n").readText ((Path.absolute ["crate"]).child fileName) =
      .ok "2020-13-01\n" := eq_ok_of_toOption (by decide +kernel)
  have hload := Yaml.load_of_rootKind "2020-13-01\n"
  rw [hdate] at hload
  refine ⟨by decide +kernel, eq_ok_of_toOption (by decide +kernel), hdate, ?_⟩
  rw [load_of_text (directoryFor_settledFiles _) (contains_settledFiles _) hread,
    ofText_of_load_error (by decide +kernel) hload]
  rfl

end ClassDiagram.Settings
