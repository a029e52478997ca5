import InterfaceGen.Diagnostic
import InterfaceGen.Document.Basic
import InterfaceGen.Text.Split

/-!
# Document/Check — what a document can get wrong on its own

These checks need no other document: names are identifiers, no list of members declares a name
twice, an enumeration has values, an alias names a primitive. Every problem is reported, in the
order in which the parts are declared.
-/

namespace InterfaceGen

/-! ## The header -/

namespace Document

/-- The problems of one import. -/
def importProblems (module : String) (i : Import) : List String :=
  (if isModuleName i.name then [] else ["import '" ++ i.name ++ "' is not a valid module name"]) ++
    (if i.name = module then ["module imports itself"] else [])

/-- The problems of a document's name, version, imports and parameters. -/
def headerProblems (d : Document) : List String :=
  (if isModuleName d.name then [] else ["'" ++ d.name ++ "' is not a valid module name"]) ++
    (if Text.isBlankText d.version then ["module version is empty"] else []) ++
    d.imports.flatMap (importProblems d.name) ++
    (if d.code.isNull || d.code.isObject then [] else ["'code' must be an object"])

/-- The diagnostics of a document's header. -/
def checkHeader (d : Document) : List Diagnostic :=
  d.headerProblems.map (.invalidDefinition d.name)

end Document

/-! ## Lists of names -/

/-- The problems of a list of names, in order: a name that is no identifier, and a name that occurs
earlier; `seen` holds the names before. -/
def nameProblems (what : String) : List String → List String → List String
  | _, [] => []
  | seen, n :: rest =>
    (if isIdentifier n then [] else [what ++ " '" ++ n ++ "' is not a valid identifier"]) ++
      (if n ∈ seen then [what ++ " '" ++ n ++ "' is declared more than once"] else []) ++
      nameProblems what (n :: seen) rest

/-- The problems of the names of some fields. -/
def fieldProblems (what : String) (fields : List FieldDecl) : List String :=
  nameProblems what [] (fields.map (·.name))

/-! ## Declarations -/

namespace AliasDecl

/-- An alias stands for a primitive that has values. -/
def problems (a : AliasDecl) : List String :=
  match Primitive.ofName? (Text.trimmed a.type) with
  | none | some .void =>
    ["alias '" ++ a.name ++ "' must name a primitive type other than void, found '" ++ a.type ++
      "'"]
  | some _ => []

end AliasDecl

namespace ComplexTypeDecl

def enumProblems (c : ComplexTypeDecl) : List String :=
  (if c.values.isEmpty then ["enum '" ++ c.name ++ "' declares no values"] else []) ++
    (if c.properties.isEmpty && c.parent.isNone then []
      else ["enum '" ++ c.name ++ "' cannot declare properties or a parent"]) ++
    nameProblems ("enum '" ++ c.name ++ "' value") [] c.values

def registerProblems (c : ComplexTypeDecl) : List String :=
  (if c.values.isEmpty then []
    else ["structured type '" ++ c.name ++ "' cannot declare values"]) ++
    fieldProblems ("'" ++ c.name ++ "' property") c.properties

def problems (c : ComplexTypeDecl) : List String :=
  match c.format with
  | .enum => c.enumProblems
  | .register => c.registerProblems

end ComplexTypeDecl

namespace RemoteClassDecl

def constructorProblems (r : RemoteClassDecl) : List String :=
  match r.constructor with
  | some c => fieldProblems ("'" ++ r.name ++ "' constructor parameter") c.params
  | none => []

def methodProblems (owner : String) (m : MethodDecl) : List String :=
  fieldProblems ("'" ++ owner ++ "." ++ m.name ++ "' parameter") m.params

def eventProblems (owner : String) (e : EventDecl) : List String :=
  fieldProblems ("'" ++ owner ++ "." ++ e.name ++ "' property") e.properties

def problems (r : RemoteClassDecl) : List String :=
  r.constructorProblems ++
    nameProblems ("'" ++ r.name ++ "' method") [] (r.methods.map (·.name)) ++
    r.methods.flatMap (methodProblems r.name) ++
    nameProblems ("'" ++ r.name ++ "' event") [] (r.events.map (·.name)) ++
    r.events.flatMap (eventProblems r.name)

end RemoteClassDecl

namespace Declaration

/-- The problems of what a declaration holds besides its name. -/
def bodyProblems : Declaration → List String
  | .alias a => a.problems
  | .complex c => c.problems
  | .remote r => r.problems

/-- The problems of a declaration; it is well formed if there are none. -/
def problems (d : Declaration) : List String :=
  (if isIdentifier d.name then [] else ["'" ++ d.name ++ "' is not a valid type name"]) ++
    d.bodyProblems

end Declaration

/-! ## Versions -/

/-- Two versions of one module conflict unless they are the same text, white space at the ends
aside. -/
def versionsConflict (a b : String) : Bool :=
  Text.trimmed a ≠ Text.trimmed b

end InterfaceGen
