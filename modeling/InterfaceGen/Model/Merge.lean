import InterfaceGen.Graph
import InterfaceGen.Model.Build
import InterfaceGen.Overlay

/-!
# Model/Merge — from loaded documents to the model, or to everything that is wrong with them

The documents are collected into drafts; the import graph gives each module what it may refer to;
then every well-formed declaration is built. The model exists if nothing was reported on the way.
-/

namespace InterfaceGen

namespace Drafts

/-! ## Imports -/

/-- The import graph, and the imports of modules that no document declares. -/
def importGraph (drafts : Drafts) : Graph × List Diagnostic :=
  drafts.foldl
    (fun (g, reported) (name, draft) =>
      (draft.imports.keys.filter (· ≠ name)).foldl
        (fun (g, reported) target =>
          if drafts.has target then (g.addDependency name target, reported)
          else (g, reported ++ [.unknownImport name target]))
        (g.addNode name, reported))
    (Graph.empty, [])

/-- What each module may refer to. -/
def scope (drafts : Drafts) (imports : Graph) : Scope where
  types := drafts.map fun (name, draft) =>
    (name, draft.types.map fun (typeName, d) => (typeName, d.decl.kind))
  closures := drafts.map fun (name, _) => (name, imports.closure name)

/-! ## Types -/

/-- The well-formed declarations of a draft, built. -/
def buildTypes (s : Scope) (module : String) (draft : ModuleDraft) :
    List (String × Except (List Diagnostic) TypeDef) :=
  (draft.types.filter (·.2.wellFormed)).map fun (name, d) => (name, s.buildType module d)

/-- The types among the built declarations. -/
def builtTypes (built : List (String × Except (List Diagnostic) TypeDef)) : Table TypeDef :=
  built.filterMap fun
    | (name, .ok t) => some (name, t)
    | (_, .error _) => none

/-- The failures among the built declarations. -/
def buildFailures (built : List (String × Except (List Diagnostic) TypeDef)) : List Diagnostic :=
  built.flatMap fun
    | (_, .ok _) => []
    | (_, .error failed) => failed

/-- The module a draft becomes. -/
def finishModule (o : Overlay) (name : String) (draft : ModuleDraft) (types : Table TypeDef) :
    ModuleDef where
  name := name
  version := draft.version
  doc := draft.doc
  origin := draft.origin
  imports := draft.imports.values
  code := o.resolve name draft.code
  types := types
  documents := draft.documents

/-- The modules, with the failures in their declarations. -/
def finish (o : Overlay) (drafts : Drafts) (s : Scope) : Table ModuleDef × List Diagnostic :=
  let built := drafts.map fun (name, draft) => (name, draft, buildTypes s name draft)
  (built.map fun (name, draft, types) => (name, finishModule o name draft (builtTypes types)),
    built.flatMap fun (_, _, types) => buildFailures types)

end Drafts

/-- The graph of types and the types they extend. -/
def inheritanceGraph (modules : Table ModuleDef) : Graph :=
  (modules.values.flatMap (·.types.values)).foldl
    (fun g t =>
      match t.parent with
      | some parent => g.addDependency t.key.shown parent.shown
      | none => g)
    Graph.empty

/-! ## Merging -/

/-- The model of some documents under an overlay, or all diagnostics. -/
def merge (o : Overlay) (documents : List Loaded) : Except (List Diagnostic) Model :=
  let (drafts, collected) := Drafts.absorbAll [] (Loaded.sorted documents)
  let (imports, unknown) := drafts.importGraph
  let (modules, failed) := drafts.finish o (drafts.scope imports)
  let reported := collected ++ unknown ++ imports.cycles.map .importCycle ++ failed ++
    (inheritanceGraph modules).cycles.map .inheritanceCycle
  if reported.isEmpty then .ok ⟨modules, imports.order⟩ else .error reported

end InterfaceGen
