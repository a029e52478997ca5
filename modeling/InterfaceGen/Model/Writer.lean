import InterfaceGen.Document.Writer
import InterfaceGen.Model.Basic

/-!
# Model/Writer — the model as JSON

This is the form that lookups and templates see. Docs and default values are left out when absent;
a parent, a constructor and a return type are written as null.
-/

namespace InterfaceGen

/-- A value, or null. -/
def orNull : Option Json → Json
  | some v => v
  | none => .null

namespace TypeKey

def toJson (k : TypeKey) : Json := .obj [("module", .str k.module), ("name", .str k.name)]

end TypeKey

namespace Field

def toJson (f : Field) : Json :=
  .obj ([("name", .str f.name)] ++ textMember "doc" f.doc ++
    [("dataType", f.dataType.toJson), ("optional", .bool f.optional)] ++
    optionalMember "defaultValue" f.defaultValue)

end Field

namespace Operation

def toJson (o : Operation) : Json :=
  .obj ([("name", .str o.name)] ++ textMember "doc" o.doc ++
    [("params", .arr (o.params.map Field.toJson)),
      ("returnType", orNull (o.returnType.map DataType.toJson))] ++
    textMember "returnDoc" o.returnDoc)

end Operation

namespace Constructor

def toJson (c : Constructor) : Json :=
  .obj (textMember "doc" c.doc ++ [("params", .arr (c.params.map Field.toJson))])

end Constructor

namespace Event

/-- The members of an event's object. -/
def members (e : Event) : Json.Members :=
  [("name", .str e.name)] ++ textMember "doc" e.doc ++
    [("owner", e.owner.toJson), ("origin", .str e.origin.name),
      ("properties", .arr (e.properties.map Field.toJson))]

def toJson (e : Event) : Json := .obj e.members

end Event

namespace TypeBody

/-- The members a type's body adds to its object. -/
def members : TypeBody → Json.Members
  | .alias target => [("kind", .str "alias"), ("target", .str target.name)]
  | .enum values => [("kind", .str "enum"), ("values", .arr (values.map .str))]
  | .complex parent properties =>
    [("kind", .str "complex"), ("extends", orNull (parent.map TypeKey.toJson)),
      ("properties", .arr (properties.map Field.toJson))]
  | .remote parent isAbstract constructor methods events =>
    [("kind", .str "remote"), ("extends", orNull (parent.map TypeKey.toJson)),
      ("isAbstract", .bool isAbstract),
      ("constructor", orNull (constructor.map Constructor.toJson)),
      ("methods", .arr (methods.map Operation.toJson)),
      ("events", .arr (events.map Event.toJson))]

end TypeBody

namespace TypeDef

/-- The members of a type's object. -/
def members (t : TypeDef) : Json.Members :=
  [("name", .str t.name), ("module", .str t.module), ("origin", .str t.origin.name)] ++
    textMember "doc" t.doc ++ t.body.members

def toJson (t : TypeDef) : Json := .obj t.members

end TypeDef

namespace ModuleDef

/-- The members of a module's object; the documents are not among them. -/
def members (m : ModuleDef) : Json.Members :=
  [("name", .str m.name), ("version", .str m.version)] ++ textMember "doc" m.doc ++
    [("origin", .str m.origin.name), ("imports", .arr (m.imports.map Import.toJson)),
      ("code", m.code), ("types", .obj (m.types.map fun (name, t) => (name, t.toJson)))]

def toJson (m : ModuleDef) : Json := .obj m.members

/-- The values a module offers to lookups and templates: its generation parameters at the top, and
its own members where no parameter has their name. -/
def valueSpace (m : ModuleDef) : Json :=
  let code : Json.Members := match m.code with
    | .obj members => members
    | _ => []
  .obj (code ++ m.members.filter fun (key, _) => (code.lookup key).isNone)

end ModuleDef

namespace Model

def toJson (m : Model) : Json :=
  .obj [("modules", .obj (m.modules.map fun (name, d) => (name, d.toJson))),
    ("moduleOrder", .arr (m.order.map .str))]

end Model

end InterfaceGen
