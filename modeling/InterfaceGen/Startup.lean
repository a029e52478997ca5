import InterfaceGen.Overlay
import InterfaceGen.Settings

/-!
# Startup — what has to be in order before a run can begin

Settings that cannot be run, an overlay that cannot be read and a template set that cannot be used
stop a run before any document is loaded.
-/

namespace InterfaceGen

/-! ## Faults -/

/-- What is wrong with settings. -/
inductive SettingsFault where
  | noPrimary
  | missingTemplates (path : String)
  | noOutput
  | notADirectory (path : String)
  | notWritable (path : String)
  | notCreatable (path : String)
  | pattern (source : String) (fault : Glob.Fault)
  | overlay (fault : Overlay.Fault)
  deriving Repr, DecidableEq

/-- The wording of a fault. -/
def SettingsFault.message : SettingsFault → String
  | .noPrimary => "At least one primary document location (--rom) is required"
  | .missingTemplates path => "Template directory does not exist: " ++ path
  | .noOutput =>
    "An output directory (--codegen) is required unless --show-values or --output-model is given"
  | .notADirectory path => "Output path is not a directory: " ++ path
  | .notWritable path => "Output directory is not writable: " ++ path
  | .notCreatable path => "Output model directory cannot be created: " ++ path
  | .pattern source fault => "Invalid document pattern '" ++ source ++ "': " ++ fault.message
  | .overlay fault => fault.message

/-- Why a run cannot begin. -/
inductive StartFault where
  /-- A settings file or overlay cannot be read. -/
  | io (fault : FileFault)
  | json (fault : Json.Fault)
  | missingFile (path : String)
  | settings (fault : SettingsFault)
  | pattern (source : String) (fault : Glob.Fault)
  | templates (fault : TemplateSet.Fault)
  deriving Repr, DecidableEq

/-- The wording of a fault. -/
def StartFault.message : StartFault → String
  | .io fault => "IO error: " ++ fault.message
  | .json fault => "JSON parsing error: " ++ fault.message
  | .missingFile path => "Config file not found: " ++ path
  | .settings fault => "Invalid configuration: " ++ fault.message
  | .pattern source fault => "Invalid document pattern '" ++ source ++ "': " ++ fault.message
  | .templates fault => fault.message

/-! ## Files that are read at the start -/

namespace FileSystem

/-- The settings in a file. -/
def readSettings (fs : FileSystem) (path : String) : Except StartFault Settings := do
  let text ← (fs.readText path).mapError .io
  (Settings.parse text).mapError .json

/-- The overlay in a file; without a file, an empty one. -/
def readOverlay (fs : FileSystem) : Option String → Except StartFault Overlay
  | none => .ok Overlay.empty
  | some path => do
    if fs.isFile path then
      let text ← (fs.readText path).mapError .io
      let v ← (Json.parse text).mapError .json
      (Overlay.ofJson v).mapError fun fault => .settings (.overlay fault)
    else throw (.missingFile path)

/-- Whether a file name is that of a template: a name, a point and `tera`. -/
def isTemplateName (name : String) : Bool :=
  match Text.splitLast? '.' name.toList with
  | some (front, back) => !front.isEmpty && String.ofList back == "tera"
  | none => false

/-- The templates among the files of a walk. -/
def readTemplates (fs : FileSystem) : Walk → Except TemplateSet.Fault (List TemplateFile)
  | [] => .ok []
  | .error fault :: _ => .error (.search fault.message)
  | .ok found :: rest =>
    match Path.fileName? found.path with
    | some name =>
      if isTemplateName name then
        match fs.readText found.path with
        | .error fault => .error (.unreadable found.path fault.message)
        | .ok text =>
          (readTemplates fs rest).map (⟨"/".intercalate found.names, text⟩ :: ·)
      else readTemplates fs rest
    | none => readTemplates fs rest

/-- The template set from a source. -/
def loadTemplates (fs : FileSystem) : TemplateSource → Except TemplateSet.Fault TemplateSet
  | .builtIn name => TemplateSet.builtIn name
  | .directory path =>
    if fs.isDirectory path then
      (fs.readTemplates (fs.walk path)).map (TemplateSet.ofFiles path)
    else .error (.missingDirectory path)

end FileSystem

/-! ## Checking settings -/

namespace Settings

/-- A path and the paths above it, the empty one as the working directory. -/
def pathsAbove : Nat → String → List String
  | 0, _ => []
  | depth + 1, path =>
    (if path = "" then "." else path) ::
      match Path.parent? path with
      | some parent => pathsAbove depth parent
      | none => []

/-- An output directory has to be writable, if it is there. -/
def checkDirectory (fs : FileSystem) (path : String) : Except SettingsFault Unit :=
  if !fs.exists? path then .ok ()
  else if !fs.isDirectory path then .error (.notADirectory path)
  else if fs.isReadonly path then .error (.notWritable path)
  else .ok ()

/-- The nearest path above that is there has to be a directory in which others can be made. -/
def checkCreatable (fs : FileSystem) (path : String) : Except SettingsFault Unit :=
  match (pathsAbove ((Path.components path).length + 1) path).find? fs.exists? with
  | none => .ok ()
  | some above =>
    if fs.isDirectory above && !fs.isReadonly above then .ok () else .error (.notCreatable path)

/-- Checks a path that may not be given. -/
def checkOptional (check : String → Except SettingsFault Unit) :
    Option String → Except SettingsFault Unit
  | some path => check path
  | none => .ok ()

/-- The pattern for file names. -/
def glob (s : Settings) : Except SettingsFault Glob :=
  (Glob.parse s.pattern).mapError (.pattern s.pattern)

/-- Whether the settings can be run at all: the first fault counts. -/
def validate (fs : FileSystem) (s : Settings) : Except StartFault Unit := do
  if s.primary.isEmpty then throw (.settings .noPrimary)
  match s.templates with
  | some path => if !fs.isDirectory path then throw (.settings (.missingTemplates path))
  | none => pure ()
  match s.overlay with
  | some path => if !fs.isFile path then throw (.missingFile path)
  | none => pure ()
  if s.output.isNone && !s.isIntrospection && s.modelOutput.isNone then
    throw (.settings .noOutput)
  (checkOptional (checkDirectory fs) s.output).mapError .settings
  (checkOptional (checkDirectory fs) s.modelOutput).mapError .settings
  (checkOptional (checkCreatable fs) s.modelOutput).mapError .settings
  let _ ← s.glob.mapError .settings
  return ()

end Settings

end InterfaceGen
