import InterfaceGen.Document.Basic
import InterfaceGen.Types.Data

/-!
# Document/Writer — an interface document as JSON

Members come in the order of the record's fields. An absent value and an empty section are left out;
the flags, the parameters of methods and constructors and the properties of events are always
written.
-/

namespace InterfaceGen

/-! ## Optional members -/

/-- A member, if there is a value. -/
def optionalMember (key : String) : Option Json → Json.Members
  | some v => [(key, v)]
  | none => []

/-- A member for a text, if there is one. -/
def textMember (key : String) (s : Option String) : Json.Members :=
  optionalMember key (s.map .str)

/-- A member for a list, unless it is empty. -/
def listMember {α : Type} (key : String) (f : α → Json) (as : List α) : Json.Members :=
  if as.isEmpty then [] else [(key, .arr (as.map f))]

/-! ## Members of types -/

namespace FieldDecl

def toJson (f : FieldDecl) : Json :=
  .obj ([("name", .str f.name)] ++ textMember "doc" f.doc ++
    [("type", .str f.type), ("optional", .bool f.optional)] ++
    optionalMember "defaultValue" f.defaultValue)

end FieldDecl

namespace ReturnDecl

def toJson (r : ReturnDecl) : Json :=
  .obj ([("type", .str r.type)] ++ textMember "doc" r.doc)

end ReturnDecl

namespace MethodDecl

def toJson (m : MethodDecl) : Json :=
  .obj ([("name", .str m.name)] ++ textMember "doc" m.doc ++
    [("params", .arr (m.params.map FieldDecl.toJson))] ++
    optionalMember "return" (m.result.map ReturnDecl.toJson))

end MethodDecl

namespace ConstructorDecl

def toJson (c : ConstructorDecl) : Json :=
  .obj (textMember "doc" c.doc ++ [("params", .arr (c.params.map FieldDecl.toJson))])

end ConstructorDecl

namespace EventDecl

def toJson (e : EventDecl) : Json :=
  .obj ([("name", .str e.name)] ++ textMember "doc" e.doc ++
    [("properties", .arr (e.properties.map FieldDecl.toJson))])

end EventDecl

/-! ## Types -/

namespace AliasDecl

def toJson (a : AliasDecl) : Json :=
  .obj ([("name", .str a.name)] ++ textMember "doc" a.doc ++ [("type", .str a.type)])

end AliasDecl

/-- The word of a type format. -/
def TypeFormat.name : TypeFormat → String
  | .register => "REGISTER"
  | .enum => "ENUM"

namespace ComplexTypeDecl

def toJson (c : ComplexTypeDecl) : Json :=
  .obj ([("name", .str c.name)] ++ textMember "doc" c.doc ++
    [("typeFormat", .str c.format.name)] ++ textMember "extends" c.parent ++
    listMember "properties" FieldDecl.toJson c.properties ++
    listMember "values" .str c.values)

end ComplexTypeDecl

namespace RemoteClassDecl

def toJson (r : RemoteClassDecl) : Json :=
  .obj ([("name", .str r.name)] ++ textMember "doc" r.doc ++ textMember "extends" r.parent ++
    [("abstract", .bool r.isAbstract)] ++
    optionalMember "constructor" (r.constructor.map ConstructorDecl.toJson) ++
    listMember "methods" MethodDecl.toJson r.methods ++
    listMember "events" EventDecl.toJson r.events)

end RemoteClassDecl

/-! ## Documents -/

namespace Import

def toJson (i : Import) : Json :=
  .obj [("name", .str i.name), ("version", .str i.version)]

end Import

namespace Document

def toJson (d : Document) : Json :=
  .obj ([("name", .str d.name), ("version", .str d.version)] ++ textMember "doc" d.doc ++
    listMember "imports" Import.toJson d.imports ++
    (if d.code.isNull then [] else [("code", d.code)]) ++
    listMember "aliases" AliasDecl.toJson d.aliases ++
    listMember "complexTypes" ComplexTypeDecl.toJson d.complexTypes ++
    listMember "remoteClasses" RemoteClassDecl.toJson d.remoteClasses ++
    textMember "origin" (d.origin.map Origin.name))

end Document

end InterfaceGen
