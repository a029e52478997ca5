import InterfaceGen.Json.Value
import InterfaceGen.Types.Basic

/-!
# Document/Basic — an interface document as it is written

A document declares one module: its name and version, the modules it imports, free generation
parameters under `code`, and its types. Types are referred to by their spelling; nothing here is
resolved.
-/

namespace InterfaceGen

/-! ## Members of types -/

/-- A property, a parameter or a field of an event. -/
structure FieldDecl where
  name : String
  doc : Option String
  type : String
  optional : Bool
  defaultValue : Option Json
  deriving Repr

/-- What a method returns. -/
structure ReturnDecl where
  type : String
  doc : Option String
  deriving Repr, DecidableEq

/-- A method of a remote class. -/
structure MethodDecl where
  name : String
  doc : Option String
  params : List FieldDecl
  result : Option ReturnDecl
  deriving Repr

/-- The constructor of a remote class. -/
structure ConstructorDecl where
  doc : Option String
  params : List FieldDecl
  deriving Repr

/-- An event of a remote class. -/
structure EventDecl where
  name : String
  doc : Option String
  properties : List FieldDecl
  deriving Repr

/-! ## Types -/

/-- Another name for a primitive. -/
structure AliasDecl where
  name : String
  doc : Option String
  type : String
  deriving Repr, DecidableEq

/-- Whether a complex type is a structure or an enumeration. -/
inductive TypeFormat where
  | register
  | enum
  deriving Repr, DecidableEq

/-- A structured type or an enumeration. -/
structure ComplexTypeDecl where
  name : String
  doc : Option String
  format : TypeFormat
  parent : Option String
  properties : List FieldDecl
  values : List String
  deriving Repr

/-- A remote class. -/
structure RemoteClassDecl where
  name : String
  doc : Option String
  parent : Option String
  isAbstract : Bool
  constructor : Option ConstructorDecl
  methods : List MethodDecl
  events : List EventDecl
  deriving Repr

/-- The declaration of a type. -/
inductive Declaration where
  | alias (decl : AliasDecl)
  | complex (decl : ComplexTypeDecl)
  | remote (decl : RemoteClassDecl)
  deriving Repr

namespace Declaration

def name : Declaration → String
  | .alias d => d.name
  | .complex d => d.name
  | .remote d => d.name

def isRemote : Declaration → Bool
  | .remote _ => true
  | _ => false

/-- Whether the declaration is a structured type. -/
def isRegister : Declaration → Bool
  | .complex d => d.format = .register
  | _ => false

end Declaration

/-! ## Documents -/

/-- An imported module. -/
structure Import where
  name : String
  version : String
  deriving Repr, DecidableEq

/-- An interface document. -/
structure Document where
  name : String
  version : String
  doc : Option String
  imports : List Import
  code : Json
  aliases : List AliasDecl
  complexTypes : List ComplexTypeDecl
  remoteClasses : List RemoteClassDecl
  /-- Written by an export, and of no meaning when the document is loaded. -/
  origin : Option Origin
  deriving Repr

/-- The types a document declares, in the order of their declaration. -/
def Document.declarations (d : Document) : List Declaration :=
  d.aliases.map .alias ++ d.complexTypes.map .complex ++ d.remoteClasses.map .remote

/-! ## Equality of declarations -/

/-- Whether two lists agree item by item. -/
def sameList {α : Type} (same : α → α → Bool) : List α → List α → Bool
  | [], [] => true
  | a :: as, b :: bs => same a b && sameList same as bs
  | _, _ => false

/-- Whether two optional values are both absent or agree. -/
def sameOptional {α : Type} (same : α → α → Bool) : Option α → Option α → Bool
  | none, none => true
  | some a, some b => same a b
  | _, _ => false

namespace FieldDecl

def same (a b : FieldDecl) : Bool :=
  a.name = b.name && a.doc = b.doc && a.type = b.type && a.optional = b.optional &&
    Json.sameOption a.defaultValue b.defaultValue

end FieldDecl

namespace MethodDecl

def same (a b : MethodDecl) : Bool :=
  a.name = b.name && a.doc = b.doc && sameList FieldDecl.same a.params b.params &&
    a.result = b.result

end MethodDecl

namespace ConstructorDecl

def same (a b : ConstructorDecl) : Bool :=
  a.doc = b.doc && sameList FieldDecl.same a.params b.params

end ConstructorDecl

namespace EventDecl

def same (a b : EventDecl) : Bool :=
  a.name = b.name && a.doc = b.doc && sameList FieldDecl.same a.properties b.properties

end EventDecl

namespace Declaration

/-- Whether two declarations are the same as written; default values compare as JSON. -/
def same : Declaration → Declaration → Bool
  | .alias a, .alias b => a = b
  | .complex a, .complex b =>
    a.name = b.name && a.doc = b.doc && a.format = b.format && a.parent = b.parent &&
      sameList FieldDecl.same a.properties b.properties && a.values = b.values
  | .remote a, .remote b =>
    a.name = b.name && a.doc = b.doc && a.parent = b.parent && a.isAbstract = b.isAbstract &&
      sameOptional ConstructorDecl.same a.constructor b.constructor &&
      sameList MethodDecl.same a.methods b.methods && sameList EventDecl.same a.events b.events
  | _, _ => false

/-- Two declarations of one name conflict unless they are the same as written. -/
def conflicts (a b : Declaration) : Bool := !a.same b

/-- **Declarations of one name agree in name when they are the same.** -/
theorem name_eq_of_same {a b : Declaration} (h : a.same b = true) : a.name = b.name := by
  cases a <;> cases b <;> simp_all [same, name]

end Declaration

end InterfaceGen
