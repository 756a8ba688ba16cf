import ClassDiagram.CommandLine.Help
import ClassDiagram.Pipeline

namespace ClassDiagram.CommandLine

/-- How a run of the command line ends: with a status, or with a failure that nothing takes care of. -/
inductive Ending where
  | exit (status : Nat)
  | failed (failure : Failure)
deriving Repr

/-- What a run of the command line shows. -/
structure Result where
  ending : Ending
  output : String := ""
deriving Repr

/-- Ends a run with a message on the error stream. -/
def stopWith (status : Nat) (message : String) : StateM Workspace Result := do
  modify fun w => { w with log := w.log.complain message }
  return { ending := .exit status }

/-- The settings of the input, overridden by the arguments: what the arguments say goes first. -/
def Arguments.override (a : Arguments) (settings : Settings) : Settings :=
  { settings with
    outputType := match a.outputType with
      | some name => if name = "" then settings.outputType else name
      | none => settings.outputType
    includeEnums := a.includeEnums || settings.includeEnums
    visibilityMarkers := a.visibilityMarkers || settings.visibilityMarkers }

/-- The path of the input; the current directory if none is given. -/
def Arguments.source (a : Arguments) : String :=
  a.input.getD "./"

/-- The message for a failure to make the diagram, if the command line takes care of it. -/
def failureMessage? : Failure → Option String
  | .source error => some (error.message ++ "\n")
  | .inputMissing text => some ((Failure.inputMissing text).message ++ "\n")
  | .renderer (.unknownOutputType requested available) =>
    some ((RendererError.unknownOutputType requested available).message ++ "\n")
  | .file error =>
    some (if error.fault = .missing then error.message ++ "\n"
      else "ruml failed to read input: " ++ error.message ++ "\n")
  | _ => none

/-- Sets the log up as the arguments say. -/
def setUpLog (a : Arguments) : Job Unit := do
  match a.logFile with
  | none => Job.configureLog a.verbose none
  | some (.named text) => Job.configureLog a.verbose (some (Path.parse text))
  | some .nameless =>
    Job.startLog a.verbose true
    throw .logNameless

/-- Delivers the diagram. -/
def deliver (a : Arguments) (diagram : String) : StateM Workspace Result := do
  match a.output with
  | none => return { ending := .exit 0, output := diagram ++ "\n" }
  | some .nameless => return { ending := .failed .outputNameless }
  | some (.named target) =>
    let p := Path.parse target
    match ← (Job.writeText p (diagram ++ "\n")).run with
    | .error failure => stopWith 1 ("ruml failed to write " ++ p.text ++ ": " ++ failure.message ++ "\n")
    | .ok () =>
      let _ ← (Job.note "cli" .info ("Diagram written to " ++ p.text)).run
      return { ending := .exit 0 }

/-- Makes the diagram with the given settings and delivers it. -/
def makeDiagram (a : Arguments) (settings : Settings) : StateM Workspace Result := do
  let pipeline : Pipeline := { settings := some settings }
  match ← (pipeline.run a.source).run with
  | .ok diagram => deliver a diagram
  | .error failure =>
    match failureMessage? failure with
    | some message => stopWith 1 message
    | none => return { ending := .failed failure }

/-- Does what the arguments ask for. -/
def perform (a : Arguments) : StateM Workspace Result := do
  match ← (setUpLog a).run with
  | .error failure => return { ending := .failed failure }
  | .ok () =>
    match ← (Job.reading (Settings.load · (Path.parse a.source))).run with
    | .error (.settings error) => stopWith 1 (error.message ++ "\n")
    | .error failure => return { ending := .failed failure }
    | .ok settings => makeDiagram a (a.override settings)

/-- Runs the command line. The diagram goes to the standard output or to a file. Failures that concern the input
are told on the error stream and end the run with status 1. -/
def run (words : List String) : StateM Workspace Result := do
  match Arguments.parse words with
  | .ok a => perform a
  | .error .help => return { ending := .exit 0, output := helpText }
  | .error .version => return { ending := .exit 0, output := versionText }
  | .error (.usage error) => stopWith 2 (usageErrorText error)

end ClassDiagram.CommandLine
