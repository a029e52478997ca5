import InterfaceGen.Document.Check
import InterfaceGen.Files.Path
import InterfaceGen.Overlay
import InterfaceGen.Table

/-!
# Model/Draft — what the documents of each module add up to

Documents are taken in the order of their paths. The first one of a module gives the version, the
first doc and the first import of a name count, generation parameters are laid over each other, and
the first declaration of a type is kept; a later one that is the same may only make it local.
-/

namespace InterfaceGen

/-! ## Loaded documents -/

/-- A document with its path and its origin. -/
structure Loaded where
  path : String
  origin : Origin
  document : Document
  deriving Repr

namespace Loaded

/-- Local before imported. -/
def originRank : Origin → Nat
  | .local => 0
  | .imported => 1

/-- The order in which documents are taken: by path, then by origin. -/
def compare (a b : Loaded) : Ordering :=
  (Path.compare a.path b.path).then (Ord.compare (originRank a.origin) (originRank b.origin))

/-- Documents in the order in which they are taken. -/
def sorted (documents : List Loaded) : List Loaded :=
  documents.mergeSort fun a b => a.compare b ≠ .gt

end Loaded

/-! ## Drafts -/

/-- A declaration as it was collected. A broken one keeps its name and is not built. -/
structure DeclDraft where
  decl : Declaration
  path : String
  origin : Origin
  wellFormed : Bool
  deriving Repr

/-- A module as it was collected. -/
structure ModuleDraft where
  version : String
  doc : Option String
  origin : Origin
  imports : Table Import
  code : Json
  types : Table DeclDraft
  documents : List String
  deriving Repr

/-- The modules collected so far. -/
abbrev Drafts := Table ModuleDraft

namespace DeclDraft

/-- Adds a declaration to those of its module. -/
def absorb (loaded : Loaded) (types : Table DeclDraft) (decl : Declaration) :
    Table DeclDraft × List Diagnostic :=
  let module := loaded.document.name
  let problems := decl.problems
  let reported := problems.map (Diagnostic.invalidDefinition module)
  match types.find? decl.name with
  | some kept =>
    if kept.decl.conflicts decl then
      (types, reported ++ [.duplicateDefinition module decl.name kept.path loaded.path])
    else
      (types.insert decl.name { kept with origin := kept.origin.combine loaded.origin }, reported)
  | none =>
    (types.insert decl.name ⟨decl, loaded.path, loaded.origin, problems.isEmpty⟩, reported)

/-- Adds declarations in order. -/
def absorbAll (loaded : Loaded) :
    Table DeclDraft → List Declaration → Table DeclDraft × List Diagnostic
  | types, [] => (types, [])
  | types, d :: rest =>
    let (types, first) := absorb loaded types d
    let (types, others) := absorbAll loaded types rest
    (types, first ++ others)

end DeclDraft

namespace ModuleDraft

/-- The draft a module starts with. -/
def start (loaded : Loaded) : ModuleDraft where
  version := loaded.document.version
  doc := none
  origin := loaded.origin
  imports := []
  code := .obj []
  types := []
  documents := []

/-- Adds imports, of which the first one of a name counts. -/
def addImports (imports : Table Import) (added : List Import) : Table Import :=
  added.foldl (fun t i => if t.has i.name then t else t.insert i.name i) imports

/-- Adds a document to the draft of its module. -/
def absorb (draft : ModuleDraft) (loaded : Loaded) : ModuleDraft × List Diagnostic :=
  let document := loaded.document
  let conflict := if versionsConflict draft.version document.version then
      [Diagnostic.versionConflict document.name draft.version document.version]
    else []
  let (types, reported) := DeclDraft.absorbAll loaded draft.types document.declarations
  ({ version := draft.version
     doc := draft.doc.or document.doc
     origin := draft.origin.combine loaded.origin
     imports := addImports draft.imports document.imports
     code := if document.code.isObject then draft.code.merge document.code else draft.code
     types := types
     documents := draft.documents ++ [loaded.path] },
    conflict ++ reported)

end ModuleDraft

namespace Drafts

/-- Adds a document. -/
def absorb (drafts : Drafts) (loaded : Loaded) : Drafts × List Diagnostic :=
  let module := loaded.document.name
  let draft := (drafts.find? module).getD (ModuleDraft.start loaded)
  let (draft, reported) := draft.absorb loaded
  (drafts.insert module draft, loaded.document.checkHeader ++ reported)

/-- Adds documents in order. -/
def absorbAll : Drafts → List Loaded → Drafts × List Diagnostic
  | drafts, [] => (drafts, [])
  | drafts, l :: rest =>
    let (drafts, first) := drafts.absorb l
    let (drafts, others) := absorbAll drafts rest
    (drafts, first ++ others)

end Drafts

end InterfaceGen
