import InterfaceGen.Types.Basic

/-!
# Diagnostic — what can be wrong with documents, templates and output

A run goes on after a diagnostic and reports all of them. Each constructor is one cause, and
`message` is its wording; paths are kept as they were spelled.
-/

namespace InterfaceGen

/-- One cause for which a run is not clean. -/
inductive Diagnostic where
  /-- A location cannot be read. -/
  | input (path message : String)
  /-- A file is no interface document. -/
  | parse (path message : String)
  | noDocuments (locations : String)
  | invalidDefinition (module message : String)
  /-- Two files declare the same type differently. -/
  | duplicateDefinition (module name first second : String)
  /-- Two files declare the same module in different versions. -/
  | versionConflict (module first second : String)
  | unknownImport (module target : String)
  | unresolvedReference (location reference : String)
  | ambiguousReference (location reference : String) (candidates : List String)
  /-- A qualified reference names a module that is not imported. -/
  | unimportedModule (module location reference target : String)
  /-- A parent is not of the kind of its child. -/
  | kindMismatch (location reference expected : String)
  | importCycle (modules : List String)
  | inheritanceCycle (types : List String)
  | missingTemplate (kind : EntityKind)
  | unknownTemplateKind (template : String)
  | render (template entity message : String)
  | write (path message : String)
  | exportModel (path message : String)
  deriving Repr, DecidableEq

namespace Diagnostic

/-- The members of a cycle, the first one repeated at the end. -/
def cycleText : List String → String
  | [] => ""
  | first :: rest => " -> ".intercalate (first :: rest) ++ " -> " ++ first

/-- The wording of a diagnostic. -/
def message : Diagnostic → String
  | .input path m => "Cannot read '" ++ path ++ "': " ++ m
  | .parse path m => "Failed to parse '" ++ path ++ "': " ++ m
  | .noDocuments locations => "No interface documents found in paths: " ++ locations
  | .invalidDefinition module m => "Invalid definition in module '" ++ module ++ "': " ++ m
  | .duplicateDefinition module name first second =>
    "Conflicting definitions of '" ++ module ++ "." ++ name ++ "' in '" ++ first ++ "' and '" ++
      second ++ "'"
  | .versionConflict module first second =>
    "Module '" ++ module ++ "' is declared with version '" ++ first ++ "' and '" ++ second ++ "'"
  | .unknownImport module target =>
    "Module '" ++ module ++ "' imports unknown module '" ++ target ++ "'"
  | .unresolvedReference location reference =>
    "Unresolved reference '" ++ reference ++ "' in " ++ location
  | .ambiguousReference location reference candidates =>
    "Ambiguous reference '" ++ reference ++ "' in " ++ location ++ ": candidates are " ++
      ", ".intercalate candidates
  | .unimportedModule module location reference target =>
    "Reference '" ++ reference ++ "' in " ++ location ++ " names module '" ++ target ++
      "', which '" ++ module ++ "' does not import"
  | .kindMismatch location reference expected =>
    "Reference '" ++ reference ++ "' in " ++ location ++ " must name a " ++ expected
  | .importCycle modules => "Import cycle detected: " ++ cycleText modules
  | .inheritanceCycle types => "Inheritance cycle detected: " ++ cycleText types
  | .missingTemplate kind => "No template bound for " ++ kind.name ++ " entities"
  | .unknownTemplateKind template =>
    "Template '" ++ template ++ "' does not start with a known entity kind"
  | .render template entity m =>
    "Failed to render '" ++ template ++ "' for " ++ entity ++ ": " ++ m
  | .write path m => "Failed to write '" ++ path ++ "': " ++ m
  | .exportModel path m => "Failed to export model to '" ++ path ++ "': " ++ m

/-- The wordings of some diagnostics, one on a line. -/
def lines (ds : List Diagnostic) : String := "\n".intercalate (ds.map message)

end Diagnostic

end InterfaceGen
