import InterfaceGen.Settings

/-!
# CommandLine — the options a run is started with

An option takes no value, one, or as many as follow it up to the next option. A value may be
attached with an equals sign, or to a one-letter option without; then no others follow. Paths may
not be empty, and only options with many values may be given twice.
-/

namespace InterfaceGen

namespace CommandLine

/-! ## Options -/

/-- An option. -/
inductive Key where
  | primary
  | dependencies
  | templates
  | builtIn
  | output
  | delete
  | keep
  | listFiles
  | overlay
  | keys
  | modelOutput
  | pattern
  | settings
  | verbose
  | help
  | version
  deriving Repr, DecidableEq

/-- The values an option takes. -/
inductive Arity where
  | none
  | one
  | many
  deriving Repr, DecidableEq

namespace Key

/-- The options by their long names. -/
def longNames : List (String × Key) :=
  [("rom", .primary), ("deprom", .dependencies), ("dr", .dependencies),
    ("templates", .templates), ("internal-templates", .builtIn), ("it", .builtIn),
    ("codegen", .output), ("delete", .delete), ("no-overwrite", .keep),
    ("list-generated-files", .listFiles), ("lf", .listFiles), ("config", .overlay),
    ("cf", .overlay), ("show-values", .keys), ("output-model", .modelOutput),
    ("pattern", .pattern), ("settings", .settings), ("verbose", .verbose), ("help", .help),
    ("version", .version)]

/-- The options by their letters. -/
def letters : List (Char × Key) :=
  [('r', .primary), ('t', .templates), ('c', .output), ('d', .delete), ('n', .keep),
    ('s', .keys), ('o', .modelOutput), ('v', .verbose), ('h', .help), ('V', .version)]

def arity : Key → Arity
  | .primary | .dependencies | .keys => .many
  | .templates | .builtIn | .output | .overlay | .modelOutput | .pattern | .settings => .one
  | .delete | .keep | .listFiles | .verbose | .help | .version => .none

/-- Whether the values of an option are paths. -/
def isPath : Key → Bool
  | .primary | .dependencies | .templates | .output | .overlay | .modelOutput | .settings => true
  | _ => false

end Key

/-- Why a command line is not followed: it is wrong, or asks for a text. -/
inductive Fault where
  | unknownArgument
  | invalidValue
  | argumentConflict
  | tooManyValues
  | displayHelp
  | displayVersion
  deriving Repr, DecidableEq

/-! ## Reading -/

/-- A command line as far as it was read. -/
structure Reading where
  /-- The options that are complete, with their values. -/
  given : List (Key × List String)
  /-- An option that may still get values. -/
  pending : Option (Key × List String)
  /-- Whether the next word may be a value of the pending option. -/
  accepting : Bool
  /-- Whether options are over. -/
  trailing : Bool
  deriving Repr

namespace Reading

def empty : Reading := ⟨[], none, false, false⟩

/-- Adds a complete option. -/
def add (r : Reading) (key : Key) (values : List String) : Except Fault Reading :=
  if key.arity ≠ .none ∧ values.isEmpty then .error .invalidValue
  else if key = .help then .error .displayHelp
  else if key = .version then .error .displayVersion
  else if key.arity ≠ .many ∧ (r.given.lookup key).isSome then .error .argumentConflict
  else if key.isPath ∧ values.contains "" then .error .invalidValue
  else .ok { r with given := r.given ++ [(key, values)], accepting := false }

/-- Completes the pending option. -/
def settle (r : Reading) : Except Fault Reading :=
  match r.pending with
  | none => .ok r
  | some (key, values) => { r with pending := none }.add key values

/-- An option with all its values at once. -/
def complete (r : Reading) (key : Key) (values : List String) : Except Fault Reading := do
  (← r.settle).add key values

/-- An option whose values follow. -/
def await (r : Reading) (key : Key) : Except Fault Reading := do
  return { ← r.settle with pending := some (key, []), accepting := true }

/-- A word that is no option: a value of the pending one. -/
def value (r : Reading) (word : String) : Except Fault Reading :=
  match r.pending with
  | some (key, values) =>
    if r.accepting then
      .ok { r with pending := some (key, values ++ [word]), accepting := key.arity = .many }
    else .error .unknownArgument
  | none => .error .unknownArgument

/-- An option by its long name, with the value attached to it. -/
def long (r : Reading) (name : String) (attached : Option String) : Except Fault Reading :=
  match Key.longNames.lookup name with
  | none => .error .unknownArgument
  | some key =>
    match key.arity, attached with
    | .none, some _ => .error .tooManyValues
    | .none, none => r.complete key []
    | _, some v => r.complete key [v]
    | _, none => r.await key

/-- Options by their letters; the first one that takes values takes the rest of the word. -/
def short (r : Reading) : List Char → Except Fault Reading
  | [] => .ok r
  | c :: rest =>
    match Key.letters.lookup c with
    | none => .error .unknownArgument
    | some key =>
      if key.arity = .none then do
        let r ← r.complete key []
        r.short rest
      else
        match rest with
        | [] => r.await key
        | '=' :: v => r.complete key [String.ofList v]
        | v => r.complete key [String.ofList v]

/-- The name before the first equals sign, and the value after it. -/
def splitAttached (cs : List Char) : String × Option String :=
  match cs.dropWhile (· ≠ '=') with
  | [] => (String.ofList cs, none)
  | _ :: v => (String.ofList (cs.takeWhile (· ≠ '=')), some (String.ofList v))

/-- The reading after a word. -/
def word (r : Reading) (w : String) : Except Fault Reading :=
  if r.trailing then .error .unknownArgument
  else
    match w.toList with
    | ['-', '-'] => .ok { r with trailing := true }
    | '-' :: '-' :: rest =>
      let (name, attached) := splitAttached rest
      r.long name attached
    | '-' :: c :: rest => r.short (c :: rest)
    | _ => r.value w

/-- The reading after some words. -/
def words (r : Reading) : List String → Except Fault Reading
  | [] => r.settle
  | w :: rest => do
    let r ← r.word w
    r.words rest

/-! ## Answers -/

/-- All values of an option. -/
def valuesOf (r : Reading) (key : Key) : List String :=
  (r.given.filter (·.1 = key)).flatMap (·.2)

/-- The value of an option that takes one. -/
def valueOf (r : Reading) (key : Key) : Option String := (r.valuesOf key).head?

/-- Whether an option is given. -/
def has (r : Reading) (key : Key) : Bool := (r.given.lookup key).isSome

/-- The settings of the command line alone. -/
def settings (r : Reading) : Settings where
  primary := r.valuesOf .primary
  dependencies := r.valuesOf .dependencies
  templates := r.valueOf .templates
  builtIn := (r.valueOf .builtIn).getD Settings.unset.builtIn
  output := r.valueOf .output
  delete := r.has .delete
  keep := r.has .keep
  listFiles := r.has .listFiles
  overlay := r.valueOf .overlay
  keys := r.valuesOf .keys
  modelOutput := r.valueOf .modelOutput
  pattern := (r.valueOf .pattern).getD Settings.unset.pattern
  verbose := if r.has .verbose then some true else none

end Reading

/-- What a command line asks for. -/
structure Request where
  settings : Settings
  /-- A file of settings, over which those of the command line are laid. -/
  settingsFile : Option String
  deriving Repr

/-- Reads a command line without the program's name. -/
def parse (args : List String) : Except Fault Request := do
  let r ← Reading.empty.words args
  return ⟨r.settings, r.valueOf .settings⟩

end CommandLine

end InterfaceGen
