import InterfaceGen.Template.Tree

/-!
# Template/Engine — templates that may use each other's macros

An engine is a set of templates in which every imported file is present. The macro spaces of a
template are its own under `self`, those it imports, and those that they can name themselves.
-/

namespace InterfaceGen

/-- Templates by name, in order. -/
structure Engine where
  templates : List Template
  deriving Repr

namespace Engine

/-- Why some sources make no engine. -/
inductive Fault where
  /-- A source is no template. -/
  | unreadable (name : String)
  /-- A template imports the macros of a file that is missing. -/
  | missingImport (name file : String)
  deriving Repr, DecidableEq

/-- The wording of a fault. -/
def Fault.message : Fault → String
  | .unreadable name => "Failed to parse '" ++ name ++ "'"
  | .missingImport name file =>
    "Template `" ++ name ++ "` loads macros from `" ++ file ++ "` which isn't present in Tera"

/-- The template with a name. -/
def template? (e : Engine) (name : String) : Option Template :=
  e.templates.find? (·.name == name)

/-- The templates of some sources. -/
def readAll : List (String × String) → Except Fault (List Template)
  | [] => .ok []
  | (name, source) :: rest =>
    match Template.parse? name source with
    | none => .error (.unreadable name)
    | some t => do
      let ts ← readAll rest
      return t :: ts

/-- An import whose file is missing, with the template that has it. -/
def missingImport? (e : Engine) : Option (String × String) :=
  e.templates.findSome? fun t =>
    (t.imports.find? fun i => (e.template? i.file).isNone).map fun i => (t.name, i.file)

/-- The engine of some sources, each with its name. -/
def build (sources : List (String × String)) : Except Fault Engine := do
  let e : Engine := ⟨← readAll sources⟩
  match e.missingImport? with
  | some (name, file) => throw (.missingImport name file)
  | none => return e

/-! ## Macro spaces -/

/-- Names of spaces with the files whose macros they hold. -/
abbrev Spaces := List (String × String)

/-- Adds the spaces whose names are still free. -/
def Spaces.addFree (spaces added : Spaces) : Spaces :=
  added.foldl (fun s (name, file) => if (s.lookup name).isSome then s else s ++ [(name, file)])
    spaces

/-- Gives a space its file, in place of an earlier one of its name. -/
def Spaces.set (name file : String) : Spaces → Spaces
  | [] => [(name, file)]
  | (n, f) :: rest => if n = name then (n, file) :: rest else (n, f) :: set name file rest

/-- The spaces that a template can name, imports followed `depth` deep. -/
def spaces (e : Engine) : Nat → Template → Spaces
  | 0, _ => []
  | depth + 1, t =>
    let own : Spaces := if t.macros.isEmpty then [] else [("self", t.name)]
    t.imports.foldl
      (fun s i =>
        let s := s.set i.space i.file
        match e.template? i.file with
        | some imported => s.addFree (e.spaces depth imported)
        | none => s)
      own

/-- Why a macro was not found. -/
inductive MacroFault where
  | unknownSpace (space template : String)
  | unknownMacro (space name template : String)
  deriving Repr, DecidableEq

/-- The wording of a fault. -/
def MacroFault.message : MacroFault → String
  | .unknownSpace space template =>
    "Macro namespace `" ++ space ++ "` was not found in template `" ++ template ++
      "`. Have you maybe forgotten to import it, or misspelled it?"
  | .unknownMacro space name template =>
    "Macro `" ++ space ++ "::" ++ name ++ "` not found in template `" ++ template ++ "`"

/-- The macro a template names, with the file it is defined in. -/
def findMacro (e : Engine) (template space name : String) :
    Except MacroFault (String × Template.Macro) :=
  let spaces := match e.template? template with
    | some t => e.spaces (e.templates.length + 1) t
    | none => []
  match spaces.lookup space with
  | none => .error (.unknownSpace space template)
  | some file =>
    match (e.template? file).bind (·.definition? name) with
    | some m => .ok (file, m)
    | none => .error (.unknownMacro space name template)

end Engine

end InterfaceGen
