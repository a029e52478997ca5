import InterfaceGen.Console
import InterfaceGen.Introspection
import InterfaceGen.Startup
import InterfaceGen.Writing

/-!
# Run — generating files, or answering what values keys have

A run that can begin loads and merges the documents, exports the model, binds and renders the
templates and writes the files, each if it is asked for. Whatever goes wrong on the way is reported
and ends the run at that stage, or is collected if the others can still go on. Nothing is rendered
from documents with faults.
-/

namespace InterfaceGen

/-! ## Generation -/

/-- What a run did. -/
structure Report where
  /-- Files below the output root. -/
  written : List String
  /-- Files that were there already and were to be kept. -/
  skipped : List String
  /-- Documents of the merged model. -/
  exported : List String
  reported : List Diagnostic
  warnings : List String
  deriving Repr

namespace Report

/-- Whether nothing went wrong. -/
def isClean (r : Report) : Bool := r.reported.isEmpty

end Report

/-- A run on its way: the files as they are by now, what was printed, and what was done. -/
structure Run where
  files : FileSystem
  progress : Progress
  log : Log
  report : Report

namespace Run

/-- A count of faults. -/
def faultCount (ds : List Diagnostic) : String := toString ds.length ++ " error(s)"

/-- Prints lines. -/
def say (r : Run) (log : Log) : Run := { r with log := r.log ++ log }

/-- Begins a stage. -/
def enter (r : Run) (name : String) : Run :=
  let (progress, log) := r.progress.start name
  { r with progress := progress, log := r.log ++ log }

/-- Ends a stage that is done. -/
def done (r : Run) (message : Option String) : Run := r.say (r.progress.complete message)

/-- Ends a stage that failed, and reports why. -/
def failed (r : Run) (ds : List Diagnostic) : Run :=
  { r.say (r.progress.fail (faultCount ds)) with
    report := { r.report with reported := r.report.reported ++ ds } }

/-- Writes the merged documents to a directory. -/
def exportModel (r : Run) (m : Model) (directory : String) : Run :=
  let r := r.enter "Exporting model"
  let (files, outcome) := r.files.exportModel m directory
  let r := { r with files := files }
  match outcome with
  | .ok paths =>
    { r.done (some (toString paths.length ++ " documents")) with
      report := { r.report with exported := paths } }
  | .error ds => r.failed ds

/-- The line for the result of a job. -/
def jobLine (l : Logger) : JobResult → Log
  | .produced file =>
    l.log .verbose ("  📄 " ++ file.path ++ " ← " ++ file.template ++ " (" ++ file.entity ++ ")")
  | .nothing template entity =>
    l.log .verbose ("  ⏭️  " ++ template ++ " produced no file for " ++ entity)
  | .failed _ => []

/-- What is printed while jobs are rendered. -/
def renderingLog (l : Logger) (results : List JobResult) : Log :=
  l.log .debug ("Rendering " ++ toString results.length ++ " template instances") ++
    results.flatMap (jobLine l)

/-- Renders all jobs and writes their files. -/
def renderAndWrite (r : Run) (s : Settings) (output : String) (e : Engine) (m : Model)
    (o : Overlay) (b : Binding) : Run :=
  let r := r.enter "Rendering"
  let results := renderAll e m o b
  let files := results.filterMap JobResult.file?
  let r := (r.say (renderingLog r.progress.logger results)).done
    (some (toString files.length ++ " files"))
  let r := r.enter "Writing files"
  let (fs, w) := r.files.writeAll output ⟨s.delete, s.keep⟩
    (files.map fun f => (f.path, f.content))
  let kept := w.skipped.flatMap fun path =>
    r.progress.logger.log .verbose ("Kept existing " ++ path)
  let r := (r.say kept).done (some
    (toString w.written.length ++ " written, " ++ toString w.skipped.length ++ " skipped"))
  { r with
    files := fs
    report := { r.report with
      written := w.written
      skipped := w.skipped
      reported := r.report.reported ++ results.filterMap JobResult.reported? ++ w.reported } }

/-- Binds the templates, and goes on if they serve the model. -/
def bindAndRender (r : Run) (s : Settings) (output : String) (t : TemplateSet) (e : Engine)
    (m : Model) (o : Overlay) : Run :=
  let r := r.enter "Binding templates"
  match t.bind m with
  | .error ds => r.failed ds
  | .ok b => (r.done none).renderAndWrite s output e m o b

/-- Templates that are ready to be used, with the output root. -/
structure Target where
  output : String
  templates : TemplateSet
  engine : Engine

/-- The templates of a run that has an output root. -/
def target (fs : FileSystem) (s : Settings) : Except StartFault (Option Target) :=
  match s.output with
  | none => .ok none
  | some output => do
    let templates ← (fs.loadTemplates s.templateSource).mapError .templates
    let engine ← templates.engine.mapError .templates
    return some ⟨output, templates, engine⟩

/-- The number of stages. -/
def stages (s : Settings) (t : Option Target) : Nat :=
  1 + (if s.modelOutput.isSome then 1 else 0) + (if t.isSome then 3 else 0)

/-- What follows once there is a model. -/
def afterMerge (r : Run) (s : Settings) (o : Overlay) (t : Option Target) (m : Model)
    (clean : Bool) : Run :=
  let r := match s.modelOutput with
    | some directory => r.exportModel m directory
    | none => r
  match t with
  | none => r
  | some t =>
    if clean then r.bindAndRender s t.output t.templates t.engine m o
    else r.say (r.progress.logger.log .warning "Nothing generated: the model has errors")

/-- The message of a stage that loaded documents. -/
def loadedMessage (b : Build) (m : Model) : String :=
  toString b.count ++ " documents, " ++ toString m.localModules.length ++ " local modules"

/-- A run that is about to load its documents. -/
def ready (fs : FileSystem) (s : Settings) (t : Option Target) : Run :=
  let logger : Logger := ⟨s.isVerbose, false⟩
  let log := match t with
    | some t => logger.log .verbose ("Using templates from " ++ t.templates.description)
    | none => []
  ⟨fs, .ofTotal logger (stages s t), log, ⟨[], [], [], [], []⟩⟩

/-- Loads and merges the documents, and goes on from there. -/
def loadAndGo (r : Run) (s : Settings) (g : Glob) (o : Overlay) (t : Option Target) : Run :=
  let r := r.enter "Loading documents"
  let b := Build.ofLocations r.files g o s.primary s.dependencies
  let r := r.say (b.warnings.flatMap (r.progress.logger.log .warning ·))
  let r := { r with report := { r.report with warnings := b.warnings } }
  match b.model with
  | none => r.failed b.reported
  | some m =>
    let r := { r with report := { r.report with reported := b.reported } }
    (r.done (some (loadedMessage b m))).afterMerge s o t m b.reported.isEmpty

end Run

/-- Does what the settings ask for, short of answering for keys. -/
def generate (fs : FileSystem) (s : Settings) : Except StartFault Run := do
  s.validate fs
  let o ← fs.readOverlay s.overlay
  let g ← (Glob.parse s.pattern).mapError (.pattern s.pattern)
  let t ← Run.target fs s
  return (Run.ready fs s t).loadAndGo s g o t

/-! ## Introspection -/

/-- The answers for keys, and what went wrong before. -/
structure IntrospectionRun where
  answers : Introspection
  reported : List Diagnostic
  warnings : List String

/-- Answers what values the keys of the settings have. Nothing is written. -/
def introspect (fs : FileSystem) (s : Settings) : Except StartFault IntrospectionRun := do
  s.validate fs
  let o ← fs.readOverlay s.overlay
  let g ← (Glob.parse s.pattern).mapError (.pattern s.pattern)
  let b := Build.ofLocations fs g o s.primary s.dependencies
  let answers := match b.model with
    | some m => Introspection.ofModel m o s.keys
    | none => []
  return ⟨answers, b.reported, b.warnings⟩

end InterfaceGen
