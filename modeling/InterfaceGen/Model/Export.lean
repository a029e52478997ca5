import InterfaceGen.Document.Basic
import InterfaceGen.Model.Basic

/-!
# Model/Export — a merged module written back as a document

Every reference is qualified, the types come in the order of their names, and the origin is
recorded. A method that returns nothing keeps its return only if it has something to say about it.
-/

namespace InterfaceGen

/-! ## Members of types -/

namespace Field

def toDecl (f : Field) : FieldDecl where
  name := f.name
  doc := f.doc
  type := f.dataType.spelling
  optional := f.optional
  defaultValue := f.defaultValue

end Field

namespace Operation

/-- The return as it is declared. -/
def resultDecl (o : Operation) : Option ReturnDecl :=
  match o.returnType, o.returnDoc with
  | some t, doc => some ⟨t.spelling, doc⟩
  | none, some doc => some ⟨Primitive.void.name, some doc⟩
  | none, none => none

def toDecl (o : Operation) : MethodDecl where
  name := o.name
  doc := o.doc
  params := o.params.map Field.toDecl
  result := o.resultDecl

end Operation

namespace Constructor

def toDecl (c : Constructor) : ConstructorDecl where
  doc := c.doc
  params := c.params.map Field.toDecl

end Constructor

namespace Event

def toDecl (e : Event) : EventDecl where
  name := e.name
  doc := e.doc
  properties := e.properties.map Field.toDecl

end Event

/-! ## Types -/

namespace TypeDef

/-- The declaration a resolved type came from, its references qualified. -/
def toDecl (t : TypeDef) : Declaration :=
  match t.body with
  | .alias target => .alias { name := t.name, doc := t.doc, type := target.name }
  | .enum values =>
    .complex {
      name := t.name, doc := t.doc, format := .enum, parent := none, properties := []
      values := values }
  | .complex parent properties =>
    .complex {
      name := t.name, doc := t.doc, format := .register, parent := parent.map (·.shown)
      properties := properties.map Field.toDecl, values := [] }
  | .remote parent isAbstract constructor methods events =>
    .remote {
      name := t.name, doc := t.doc, parent := parent.map (·.shown), isAbstract := isAbstract
      constructor := constructor.map Constructor.toDecl
      methods := methods.map Operation.toDecl
      events := events.map Event.toDecl }

end TypeDef

/-! ## Sections of a document -/

namespace Declaration

def alias? : Declaration → Option AliasDecl
  | .alias d => some d
  | _ => none

def complex? : Declaration → Option ComplexTypeDecl
  | .complex d => some d
  | _ => none

def remote? : Declaration → Option RemoteClassDecl
  | .remote d => some d
  | _ => none

end Declaration

namespace ModuleDef

/-- The document of a merged module. -/
def toDocument (m : ModuleDef) : Document :=
  let decls := m.types.values.map TypeDef.toDecl
  { name := m.name
    version := m.version
    doc := m.doc
    imports := m.imports
    code := m.code
    aliases := decls.filterMap Declaration.alias?
    complexTypes := decls.filterMap Declaration.complex?
    remoteClasses := decls.filterMap Declaration.remote?
    origin := some m.origin }

end ModuleDef

end InterfaceGen
