import InterfaceGen.Model.Writer

/-!
# Generation/Context — what a template is given for an entity

A type and an event are given as they are in the model, with computed names added; a module is given
with its local definitions grouped by kind. Imported definitions stay reachable through the model.
-/

namespace InterfaceGen

namespace TypeDef

/-- The value of a type in a template. -/
def context (t : TypeDef) : Json :=
  .obj (t.members ++
    [("qualifiedName", .str t.key.shown), ("className", .str (Text.pascalCase t.name))])

end TypeDef

namespace Event

/-- The value of an event in a template. -/
def context (e : Event) : Json :=
  .obj (e.members ++
    [("qualifiedName", .str e.qualifiedName),
      ("ownerName", .str (Text.pascalCase e.owner.name))])

end Event

namespace ModuleDef

/-- The local types of a kind, as templates see them. -/
def localContexts (m : ModuleDef) (kind : EntityKind) : Json :=
  .arr (((m.typesOf kind).filter (·.origin.isLocal)).map TypeDef.context)

/-- The value of a module in a template. -/
def context (m : ModuleDef) : Json :=
  .obj ([("name", .str m.name), ("version", .str m.version)] ++ textMember "doc" m.doc ++
    [("origin", .str m.origin.name), ("imports", .arr (m.imports.map Import.toJson)),
      ("code", m.code), ("remoteClasses", m.localContexts .remoteClass),
      ("complexTypes", m.localContexts .complexType),
      ("enumTypes", m.localContexts .enumType), ("aliases", m.localContexts .alias),
      ("events", .arr ((m.events.filter (·.origin.isLocal)).map Event.context))])

end ModuleDef

/-- The program as templates see it. -/
structure Generator where
  name : String
  version : String
  deriving Repr, DecidableEq

namespace Generator

/-- This program. -/
def current : Generator := ⟨"kmd-codegen", "0.1.0"⟩

def toJson (g : Generator) : Json := .obj [("name", .str g.name), ("version", .str g.version)]

end Generator

end InterfaceGen
