import ClassDiagram.Proofs.Workspace.Notes

namespace ClassDiagram

theorem Level.passes_trans {level limit least : Level} (hlevel : level.passes limit = true)
    (hlimit : limit.passes least = true) : level.passes least = true := by
  simp only [Level.passes, decide_eq_true_eq] at hlevel hlimit ⊢
  omega

namespace Log

/-- A log goes to the error stream from a limit up, and to the file at a place if there is one, and nowhere
else. It may let in more than the error stream shows. -/
structure IsConfigured (limit : Level) (place : Option (List String)) (log : Log) : Prop where
  handlers : log.handlers = .toErrors limit :: (place.map .toFile).toList
  contained : log.propagates = false
  lets : log.limit = some .debug ∨ place = none ∧ log.limit = some limit
  bounded : limit.passes .debug = true

variable {log : Log} {limit : Level} {place : Option (List String)}

theorem IsConfigured.reached (hlog : log.IsConfigured limit place) :
    log.reached = .toErrors limit :: (place.map .toFile).toList := by
  rw [Log.reached, hlog.contained, hlog.handlers]
  rfl

theorem IsConfigured.files_eq (hlog : log.IsConfigured limit place) : log.files = place.toList := by
  rw [Log.files, hlog.reached]
  cases place <;> rfl

theorem IsConfigured.file_eq (hlog : log.IsConfigured limit place) : log.file = place := by
  rw [Log.file, hlog.files_eq, Option.head?_toList]

/-- The limit of the log itself keeps nothing from a handler that the handler would take. -/
theorem IsConfigured.takers_eq (hlog : log.IsConfigured limit place) (level : Level) :
    log.takers level =
      (if level.passes limit then [.toErrors limit] else []) ++
        if level.passes .debug then (place.map .toFile).toList else [] := by
  have hreached : log.takers level =
      if log.letsIn level then
        (Handler.toErrors limit :: (place.map Handler.toFile).toList).filter fun h => level.passes h.limit
      else [] := by
    rw [takers, hlog.reached]
    rfl
  have hfiltered : (Handler.toErrors limit :: (place.map Handler.toFile).toList).filter
        (fun h => level.passes h.limit) =
      (if level.passes limit then [.toErrors limit] else []) ++
        if level.passes .debug then (place.map .toFile).toList else [] := by
    rw [← List.singleton_append, List.filter_append]
    cases place <;> simp [List.filter_cons, Handler.toErrors, Handler.toFile]
  rw [hreached, hfiltered]
  rcases hlog.lets with hdebug | ⟨rfl, hlimit⟩
  · have hlets : log.letsIn level = level.passes .debug := by rw [letsIn, hdebug, Option.getD_some]
    rw [hlets]
    cases hpasses : level.passes .debug with
    | true => rfl
    | false =>
      have hbelow : ¬ level.passes limit = true := fun hlevel => by
        simp [Level.passes_trans hlevel hlog.bounded] at hpasses
      simp [hbelow]
  · have hlets : log.letsIn level = level.passes limit := by rw [letsIn, hlimit, Option.getD_some]
    rw [hlets]
    cases level.passes limit <;> simp

/-- A record appears on the error stream once, if it reaches the limit that was set for it. -/
theorem IsConfigured.shown_eq (hlog : log.IsConfigured limit place) (clock : String) (r : Record) :
    log.shown clock r = if r.level.passes limit then r.streamLine else "" := by
  rw [shown, hlog.takers_eq]
  cases place <;> cases r.level.passes limit <;> cases r.level.passes .debug <;>
    simp [Handler.toErrors, Handler.toFile, Handler.place?, Handler.line]

/-- A record goes to the log file once if it reaches `Level.debug`, and to no other file. -/
theorem IsConfigured.filed_eq (hlog : log.IsConfigured limit place) (clock : String) (r : Record) :
    log.filed clock r =
      if r.level.passes .debug then place.toList.map fun names => (names, r.fileLine clock) else [] := by
  rw [filed, hlog.takers_eq]
  cases place <;> cases r.level.passes limit <;> cases r.level.passes .debug <;>
    simp [Handler.toErrors, Handler.toFile, Handler.place?, Handler.line]

theorem passes_streamLimit (isVerbose : Bool) : (streamLimit isVerbose).passes .debug = true := by
  cases isVerbose <;> rfl

/-- Setting the error stream takes away whatever was set before, so no assumption about the log is needed. -/
theorem isConfigured_streaming (log : Log) (isVerbose hasFile : Bool) :
    (log.streaming isVerbose hasFile).IsConfigured (streamLimit isVerbose) none where
  handlers := rfl
  contained := rfl
  lets := by cases hasFile <;> simp [streaming, restart, attach]
  bounded := passes_streamLimit isVerbose

/-- Attaching a file leaves the error stream as it was set. The limit of the log was lowered for the file
beforehand. -/
theorem isConfigured_attach (log : Log) (isVerbose : Bool) (place : List String) :
    ((log.streaming isVerbose true).attach (.toFile place)).IsConfigured (streamLimit isVerbose) (some place) where
  handlers := rfl
  contained := rfl
  lets := .inl rfl
  bounded := passes_streamLimit isVerbose

end Log

/-- The place of a log file, if it can be opened. -/
def FileSystem.openedAt (files : FileSystem) (file : Option Path) : Option (List String) :=
  file.bind fun p => (files.tree.placeForFile files.current (.absolute (files.resolve p))).toOption

namespace Job

/-- A file is opened for more text if there is a place for it. -/
theorem outcome_openForAppend (p : Path) (w : Workspace) :
    (openForAppend p).outcome w =
      match w.files.tree.placeForFile w.files.current p with
      | .error fault => (.error (.file ⟨fault, p.text⟩), w)
      | .ok place =>
        (.ok place, { w with files := { w.files with tree := w.files.tree.append place [] } }) := by
  rw [openForAppend, outcome_bind_of_ok (outcome_get w)]
  cases w.files.tree.placeForFile w.files.current p <;> rfl

theorem outcome_startLog (isVerbose hasFile : Bool) (w : Workspace) :
    (startLog isVerbose hasFile).outcome w =
      (.ok (), { w with log := w.log.streaming isVerbose hasFile }) := rfl

/-- The log goes to the error stream, and to the file that is asked for if it can be opened. If it cannot the
job fails, with the error stream set. -/
theorem outcome_configureLog (isVerbose : Bool) (file : Option Path) (w : Workspace) :
    (configureLog isVerbose file).outcome w =
      match file with
      | none => (.ok (), { w with log := w.log.streaming isVerbose false })
      | some p =>
        let q := Path.absolute (w.files.resolve p)
        match w.files.tree.placeForFile w.files.current q with
        | .error fault => (.error (.file ⟨fault, q.text⟩), { w with log := w.log.streaming isVerbose true })
        | .ok place =>
          (.ok (), { w with
            files := { w.files with tree := w.files.tree.append place [] }
            log := (w.log.streaming isVerbose true).attach (.toFile place) }) := by
  cases file with
  | none => rfl
  | some p =>
    have hopen := outcome_openForAppend (.absolute (w.files.resolve p))
      { w with log := w.log.streaming isVerbose true }
    rw [configureLog, outcome_bind_of_ok (outcome_startLog _ _ w)]
    dsimp only [Option.isSome_some] at hopen ⊢
    rw [outcome_bind_of_ok (outcome_get _)]
    dsimp only
    rw [outcome_bind, hopen]
    cases w.files.tree.placeForFile w.files.current (.absolute (w.files.resolve p)) <;> rfl

end Job

end ClassDiagram
