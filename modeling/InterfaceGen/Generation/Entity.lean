import InterfaceGen.Generation.Context

/-!
# Generation/Entity — what files are generated for

The local entities of a model are its local modules and their local types and events. The modules
come in dependency order, and each is followed by its types in the order of their names and then by
its events.
-/

namespace InterfaceGen

/-- A module, a type or an event. -/
inductive Entity where
  | module (d : ModuleDef)
  | type (t : TypeDef)
  | event (e : Event)
  deriving Repr

namespace Entity

def kind : Entity → EntityKind
  | .module _ => .module
  | .type t => t.kind
  | .event _ => .event

/-- The name by which messages tell an entity apart from others of its kind. -/
def name : Entity → String
  | .module d => d.name
  | .type t => t.key.shown
  | .event e => e.owner.shown ++ "." ++ e.name

/-- An entity in the words of messages. -/
def words (e : Entity) : String := e.kind.name ++ " '" ++ e.name ++ "'"

/-- The value of an entity in a template. -/
def context : Entity → Json
  | .module d => d.context
  | .type t => t.context
  | .event e => e.context

end Entity

namespace ModuleDef

def localTypes (d : ModuleDef) : List TypeDef := d.types.values.filter (·.origin.isLocal)

def localEvents (d : ModuleDef) : List Event := d.events.filter (·.origin.isLocal)

/-- A module with its local types and events. -/
def entities (d : ModuleDef) : List Entity :=
  .module d :: d.localTypes.map .type ++ d.localEvents.map .event

end ModuleDef

end InterfaceGen
