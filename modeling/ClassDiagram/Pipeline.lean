import ClassDiagram.Entity.Build
import ClassDiagram.Source.Read
import ClassDiagram.Source.Scan

namespace ClassDiagram

/-- How diagrams are made. What is not given is chosen for each path: the settings that hold for it, a scan
with the exclude patterns of these settings, and the renderer that they name. -/
structure Pipeline where
  settings : Option Settings := none
  scan : Option Scan := none
  renderer : Option Renderer := none

namespace Pipeline

/-- Builds the entities of a unit and reports what was skipped. -/
def build (unit : SourceUnit) : StateT Builder Job (List Entity) := do
  let (entities, builder) := (← get).build unit
  set builder
  builder.skipped.forM fun skip =>
    Job.note "builder" .debug ("Skipping " ++ skip.reason.text ++ ": " ++ skip.subject)
  Job.note "builder" .debug
    ("Built " ++ toString entities.length ++ " entities from " ++ sourceName unit.path ++ " ("
      ++ toString builder.skipped.length ++ " declarations skipped)")
  return entities

/-- The entities of a source file. -/
def entitiesOf (p : Path) : StateT Builder Job (List Entity) := do
  Job.note "pipeline" .debug ("Parsing " ++ p.text)
  build (← SourceUnit.read p)

/-- The settings for a path. -/
def settingsFor (pipeline : Pipeline) (source : String) : Job Settings :=
  match pipeline.settings with
  | some settings => pure settings
  | none => Job.reading (Settings.load · (Path.parse source))

/-- The scan for a path with the given settings. -/
def scanFor (pipeline : Pipeline) (settings : Settings) : Scan :=
  pipeline.scan.getD { excludePaths := settings.excludePaths, readsSettings := false }

/-- The entities of all sources for a path, in the order of the sources. One builder builds them all. -/
def collectWith (pipeline : Pipeline) (settings : Settings) (source : String) : Job (List Entity) := do
  let sources ← (pipeline.scanFor settings).run source
  let builder : Builder := { includeEnums := settings.includeEnums }
  let found ← (sources.mapM entitiesOf).run' builder
  return found.flatten

/-- The entities of all sources for a path. -/
def collect (pipeline : Pipeline) (source : String) : Job (List Entity) := do
  pipeline.collectWith (← pipeline.settingsFor source) source

/-- The renderer that settings name. -/
def rendererFor (pipeline : Pipeline) (settings : Settings) : Job Renderer := do
  match pipeline.renderer with
  | some renderer => return renderer
  | none =>
    let options := [(Renderer.visibilityOption, .flag settings.visibilityMarkers)]
    Job.ofExcept ((Renderer.ofName (← get).plugins (some settings.outputType) options).mapError .renderer)

/-- From a path to a diagram: finds the sources, builds the entities of each, and draws all of them at once, so
that a source can refer to the types of another. -/
def run (pipeline : Pipeline) (source : String) : Job String := do
  let settings ← pipeline.settingsFor source
  let entities ← pipeline.collectWith settings source
  let renderer ← pipeline.rendererFor settings
  let name := if renderer.name = "" then settings.outputType else renderer.name
  Job.note "pipeline" .info ("Rendering " ++ toString entities.length ++ " entities as " ++ name)
  return renderer.render entities

end Pipeline

end ClassDiagram
