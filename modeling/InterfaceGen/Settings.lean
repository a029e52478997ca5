import InterfaceGen.Generation.TemplateSet
import InterfaceGen.Json.Reader
import InterfaceGen.Loading

/-!
# Settings — everything a run is asked to do

Settings come from a file, from the command line, or from both: what is given later wins, and a
switch that is on stays on. They are checked before anything is loaded.
-/

namespace InterfaceGen

open Json

/-- What a run is asked to do. -/
structure Settings where
  /-- Locations of the documents to generate from. -/
  primary : List String
  /-- Locations of the documents that are only referred to. -/
  dependencies : List String
  templates : Option String
  builtIn : String
  /-- The output root. -/
  output : Option String
  delete : Bool
  keep : Bool
  listFiles : Bool
  overlay : Option String
  /-- Keys whose values are asked for; if there are any, nothing is generated. -/
  keys : List String
  /-- Where the merged documents go. -/
  modelOutput : Option String
  pattern : String
  verbose : Option Bool
  deriving Repr, DecidableEq

namespace Settings

/-- The settings of an empty settings file. -/
def unset : Settings where
  primary := []
  dependencies := []
  templates := none
  builtIn := TemplateSource.defaultName
  output := none
  delete := false
  keep := false
  listFiles := false
  overlay := none
  keys := []
  modelOutput := none
  pattern := defaultPattern
  verbose := none

/-- The settings of a run without a settings file. -/
def default : Settings := { unset with verbose := some false }

instance : Inhabited Settings := ⟨default⟩

def isVerbose (s : Settings) : Bool := s.verbose.getD false

/-- Whether values are asked for, and nothing is generated. -/
def isIntrospection (s : Settings) : Bool := !s.keys.isEmpty

/-- Where the templates come from. -/
def templateSource (s : Settings) : TemplateSource := .ofOptions s.templates s.builtIn

/-! ## Merging -/

/-- The later list, unless it is empty. -/
def laterList (earlier later : List String) : List String :=
  if later.isEmpty then earlier else later

/-- The later text, unless it is the usual one. -/
def laterText (usual earlier later : String) : String := if later = usual then earlier else later

/-- The settings with others over them. -/
def merge (s t : Settings) : Settings where
  primary := laterList s.primary t.primary
  dependencies := laterList s.dependencies t.dependencies
  templates := t.templates.or s.templates
  builtIn := laterText unset.builtIn s.builtIn t.builtIn
  output := t.output.or s.output
  delete := s.delete || t.delete
  keep := s.keep || t.keep
  listFiles := s.listFiles || t.listFiles
  overlay := t.overlay.or s.overlay
  keys := laterList s.keys t.keys
  modelOutput := t.modelOutput.or s.modelOutput
  pattern := laterText unset.pattern s.pattern t.pattern
  verbose := t.verbose.or s.verbose

/-! ## Reading and writing -/

/-- How settings are read: every field may be missing. -/
def record : Record Settings Settings where
  name := "GenerateConfig"
  fields := ["rom", "deprom", "templates", "internal_templates", "codegen", "delete",
    "no_overwrite", "list_generated_files", "config", "show_values", "output_model", "pattern",
    "verbose"]
  start := unset
  step l key v s := match key with
    | "rom" => return { s with primary := ← Reader.list Reader.path l v }
    | "deprom" => return { s with dependencies := ← Reader.list Reader.path l v }
    | "templates" => return { s with templates := ← Reader.optional Reader.path l v }
    | "internal_templates" => return { s with builtIn := ← Reader.string l v }
    | "codegen" => return { s with output := ← Reader.optional Reader.path l v }
    | "delete" => return { s with delete := ← Reader.bool l v }
    | "no_overwrite" => return { s with keep := ← Reader.bool l v }
    | "list_generated_files" => return { s with listFiles := ← Reader.bool l v }
    | "config" => return { s with overlay := ← Reader.optional Reader.path l v }
    | "show_values" => return { s with keys := ← Reader.list Reader.string l v }
    | "output_model" => return { s with modelOutput := ← Reader.optional Reader.path l v }
    | "pattern" => return { s with pattern := ← Reader.string l v }
    | _ => return { s with verbose := ← Reader.optional Reader.bool l v }
  finish _ s := .ok s

/-- The settings a text holds. -/
def parse (s : String) : Except Json.Fault Settings := Reader.ofText record.read s

/-- The settings a JSON value stands for. -/
def ofJson (v : Json) : Except Json.Fault Settings := Reader.ofJson record.read v

/-- A text or null. -/
def optionalText : Option String → Json
  | some s => .str s
  | none => .null

/-- The settings as JSON, every field written. -/
def toJson (s : Settings) : Json :=
  .obj [("rom", .arr (s.primary.map .str)), ("deprom", .arr (s.dependencies.map .str)),
    ("templates", optionalText s.templates), ("internal_templates", .str s.builtIn),
    ("codegen", optionalText s.output), ("delete", .bool s.delete),
    ("no_overwrite", .bool s.keep), ("list_generated_files", .bool s.listFiles),
    ("config", optionalText s.overlay), ("show_values", .arr (s.keys.map .str)),
    ("output_model", optionalText s.modelOutput), ("pattern", .str s.pattern),
    ("verbose", match s.verbose with
      | some b => .bool b
      | none => .null)]

end Settings

end InterfaceGen
