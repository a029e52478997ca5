import InterfaceGen.Document.Basic
import InterfaceGen.Table
import InterfaceGen.Text.Words
import InterfaceGen.Types.Data

/-!
# Model/Basic — the merged model: modules, resolved types and their events

The model is what all documents together declare, with every reference bound to the key of a type.
Modules and types are kept in the order of their names, and `order` lists the modules after those
they import.
-/

namespace InterfaceGen

/-! ## Members of types -/

/-- A property, a parameter or a field of an event. -/
structure Field where
  name : String
  doc : Option String
  dataType : DataType
  optional : Bool
  defaultValue : Option Json
  deriving Repr

/-- A method. -/
structure Operation where
  name : String
  doc : Option String
  params : List Field
  /-- Nothing for a method that returns nothing. -/
  returnType : Option DataType
  returnDoc : Option String
  deriving Repr

/-- A constructor. -/
structure Constructor where
  doc : Option String
  params : List Field
  deriving Repr

/-- An event. -/
structure Event where
  name : String
  doc : Option String
  /-- The remote class that emits the event. -/
  owner : TypeKey
  origin : Origin
  properties : List Field
  deriving Repr

/-- The owner's name and the event's name, as in `PlayerEndOfStream`. -/
def Event.qualifiedName (e : Event) : String :=
  Text.pascalCase e.owner.name ++ Text.pascalCase e.name

/-! ## Types -/

/-- What a type is. -/
inductive TypeBody where
  | alias (target : Primitive)
  | enum (values : List String)
  | complex (parent : Option TypeKey) (properties : List Field)
  | remote (parent : Option TypeKey) (isAbstract : Bool) (constructor : Option Constructor)
      (methods : List Operation) (events : List Event)
  deriving Repr

/-- A declared type, resolved. -/
structure TypeDef where
  name : String
  module : String
  origin : Origin
  doc : Option String
  body : TypeBody
  deriving Repr

namespace TypeDef

def key (t : TypeDef) : TypeKey := ⟨t.module, t.name⟩

def kind (t : TypeDef) : EntityKind :=
  match t.body with
  | .alias _ => .alias
  | .enum _ => .enumType
  | .complex _ _ => .complexType
  | .remote _ _ _ _ _ => .remoteClass

/-- The type a type extends. -/
def parent (t : TypeDef) : Option TypeKey :=
  match t.body with
  | .complex parent _ => parent
  | .remote parent _ _ _ _ => parent
  | _ => none

def events (t : TypeDef) : List Event :=
  match t.body with
  | .remote _ _ _ _ events => events
  | _ => []

end TypeDef

/-! ## Modules and the model -/

/-- A module, merged from all documents that declare it. -/
structure ModuleDef where
  name : String
  version : String
  doc : Option String
  origin : Origin
  imports : List Import
  /-- Generation parameters, with the overlay laid over them. -/
  code : Json
  types : Table TypeDef
  /-- The paths of the documents, in path order. -/
  documents : List String
  deriving Repr

namespace ModuleDef

/-- The types of a kind, in the order of their names. -/
def typesOf (m : ModuleDef) (kind : EntityKind) : List TypeDef :=
  m.types.values.filter (·.kind = kind)

def events (m : ModuleDef) : List Event := m.types.values.flatMap (·.events)

end ModuleDef

/-- The merged model. -/
structure Model where
  modules : Table ModuleDef
  /-- The names of the modules, each after the modules it imports. -/
  order : List String
  deriving Repr

namespace Model

/-- The local modules, each after those it imports. -/
def localModules (m : Model) : List ModuleDef :=
  (m.order.filterMap m.modules.find?).filter (·.origin.isLocal)

/-- The type with a key. -/
def lookup (m : Model) (key : TypeKey) : Option TypeDef :=
  (m.modules.find? key.module).bind (·.types.find? key.name)

/-- All types, in the order of their modules' names and their own. -/
def types (m : Model) : List TypeDef := m.modules.values.flatMap (·.types.values)

def localTypes (m : Model) : List TypeDef := m.types.filter (·.origin.isLocal)

/-- The number of local entities of a kind. -/
def localCount (m : Model) : EntityKind → Nat
  | .module => m.localModules.length
  | .event => (m.localTypes.flatMap (·.events)).length
  | kind => (m.localTypes.filter (·.kind = kind)).length

end Model

end InterfaceGen
