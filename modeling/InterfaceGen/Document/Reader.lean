import InterfaceGen.Document.Basic
import InterfaceGen.Json.Reader

/-!
# Document/Reader — reading an interface document

Every record names its fields in order, which is also the order of an array that stands for it. A
field is required, or null and absent mean the same, or it has a value when absent; `Draft` types
hold the fields met so far.
-/

namespace InterfaceGen

open Json

/-! ## Words -/

/-- The words of a type format. -/
def TypeFormat.words : List (String × TypeFormat) := [("REGISTER", .register), ("ENUM", .enum)]

/-! ## Fields, returns, methods -/

namespace FieldDecl

/-- A field as far as it was read. -/
structure Draft where
  name : Option String := none
  doc : Option String := none
  type : Option String := none
  optional : Bool := false
  defaultValue : Option Json := none

def record : Record Draft FieldDecl where
  name := "FieldDecl"
  fields := ["name", "doc", "type", "optional", "defaultValue"]
  start := {}
  step l key v d := match key with
    | "name" => return { d with name := some (← Reader.string l v) }
    | "doc" => return { d with doc := ← Reader.optional Reader.string l v }
    | "type" => return { d with type := some (← Reader.string l v) }
    | "optional" => return { d with optional := ← Reader.bool l v }
    | _ => return { d with defaultValue := ← Reader.optional Reader.json l v }
  finish fault d := do
    return {
      name := ← Record.required fault "name" d.name
      doc := d.doc
      type := ← Record.required fault "type" d.type
      optional := d.optional
      defaultValue := d.defaultValue }

end FieldDecl

namespace ReturnDecl

/-- A return as far as it was read. -/
structure Draft where
  type : Option String := none
  doc : Option String := none

def record : Record Draft ReturnDecl where
  name := "ReturnDecl"
  fields := ["type", "doc"]
  start := {}
  step l key v d := match key with
    | "type" => return { d with type := some (← Reader.string l v) }
    | _ => return { d with doc := ← Reader.optional Reader.string l v }
  finish fault d := do
    return { type := ← Record.required fault "type" d.type, doc := d.doc }

end ReturnDecl

namespace MethodDecl

/-- A method as far as it was read. -/
structure Draft where
  name : Option String := none
  doc : Option String := none
  params : List FieldDecl := []
  result : Option ReturnDecl := none

def record : Record Draft MethodDecl where
  name := "MethodDecl"
  fields := ["name", "doc", "params", "return"]
  start := {}
  step l key v d := match key with
    | "name" => return { d with name := some (← Reader.string l v) }
    | "doc" => return { d with doc := ← Reader.optional Reader.string l v }
    | "params" => return { d with params := ← Reader.list FieldDecl.record.read l v }
    | _ => return { d with result := ← Reader.optional ReturnDecl.record.read l v }
  finish fault d := do
    return {
      name := ← Record.required fault "name" d.name
      doc := d.doc
      params := d.params
      result := d.result }

end MethodDecl

namespace ConstructorDecl

def record : Record ConstructorDecl ConstructorDecl where
  name := "ConstructorDecl"
  fields := ["doc", "params"]
  start := ⟨none, []⟩
  step l key v d := match key with
    | "doc" => return { d with doc := ← Reader.optional Reader.string l v }
    | _ => return { d with params := ← Reader.list FieldDecl.record.read l v }
  finish _ d := .ok d

end ConstructorDecl

namespace EventDecl

/-- An event as far as it was read. -/
structure Draft where
  name : Option String := none
  doc : Option String := none
  properties : List FieldDecl := []

def record : Record Draft EventDecl where
  name := "EventDecl"
  fields := ["name", "doc", "properties"]
  start := {}
  step l key v d := match key with
    | "name" => return { d with name := some (← Reader.string l v) }
    | "doc" => return { d with doc := ← Reader.optional Reader.string l v }
    | _ => return { d with properties := ← Reader.list FieldDecl.record.read l v }
  finish fault d := do
    return {
      name := ← Record.required fault "name" d.name
      doc := d.doc
      properties := d.properties }

end EventDecl

/-! ## Types -/

namespace AliasDecl

/-- An alias as far as it was read. -/
structure Draft where
  name : Option String := none
  doc : Option String := none
  type : Option String := none

def record : Record Draft AliasDecl where
  name := "AliasDecl"
  fields := ["name", "doc", "type"]
  start := {}
  step l key v d := match key with
    | "name" => return { d with name := some (← Reader.string l v) }
    | "doc" => return { d with doc := ← Reader.optional Reader.string l v }
    | _ => return { d with type := some (← Reader.string l v) }
  finish fault d := do
    return {
      name := ← Record.required fault "name" d.name
      doc := d.doc
      type := ← Record.required fault "type" d.type }

end AliasDecl

namespace ComplexTypeDecl

/-- A complex type as far as it was read. -/
structure Draft where
  name : Option String := none
  doc : Option String := none
  format : TypeFormat := .register
  parent : Option String := none
  properties : List FieldDecl := []
  values : List String := []

def record : Record Draft ComplexTypeDecl where
  name := "ComplexTypeDecl"
  fields := ["name", "doc", "typeFormat", "extends", "properties", "values"]
  start := {}
  step l key v d := match key with
    | "name" => return { d with name := some (← Reader.string l v) }
    | "doc" => return { d with doc := ← Reader.optional Reader.string l v }
    | "typeFormat" => return { d with format := ← Reader.word TypeFormat.words l v }
    | "extends" => return { d with parent := ← Reader.optional Reader.string l v }
    | "properties" => return { d with properties := ← Reader.list FieldDecl.record.read l v }
    | _ => return { d with values := ← Reader.list Reader.string l v }
  finish fault d := do
    return {
      name := ← Record.required fault "name" d.name
      doc := d.doc
      format := d.format
      parent := d.parent
      properties := d.properties
      values := d.values }

end ComplexTypeDecl

namespace RemoteClassDecl

/-- A remote class as far as it was read. -/
structure Draft where
  name : Option String := none
  doc : Option String := none
  parent : Option String := none
  isAbstract : Bool := false
  constructor : Option ConstructorDecl := none
  methods : List MethodDecl := []
  events : List EventDecl := []

def record : Record Draft RemoteClassDecl where
  name := "RemoteClassDecl"
  fields := ["name", "doc", "extends", "abstract", "constructor", "methods", "events"]
  start := {}
  step l key v d := match key with
    | "name" => return { d with name := some (← Reader.string l v) }
    | "doc" => return { d with doc := ← Reader.optional Reader.string l v }
    | "extends" => return { d with parent := ← Reader.optional Reader.string l v }
    | "abstract" => return { d with isAbstract := ← Reader.bool l v }
    | "constructor" =>
      return { d with constructor := ← Reader.optional ConstructorDecl.record.read l v }
    | "methods" => return { d with methods := ← Reader.list MethodDecl.record.read l v }
    | _ => return { d with events := ← Reader.list EventDecl.record.read l v }
  finish fault d := do
    return {
      name := ← Record.required fault "name" d.name
      doc := d.doc
      parent := d.parent
      isAbstract := d.isAbstract
      constructor := d.constructor
      methods := d.methods
      events := d.events }

end RemoteClassDecl

/-! ## Imports and documents -/

namespace Import

/-- An import as far as it was read. -/
structure Draft where
  name : Option String := none
  version : String := ""

def record : Record Draft Import where
  name := "ImportDecl"
  fields := ["name", "version"]
  start := {}
  step l key v d := match key with
    | "name" => return { d with name := some (← Reader.string l v) }
    | _ => return { d with version := ← Reader.string l v }
  finish fault d := do
    return { name := ← Record.required fault "name" d.name, version := d.version }

end Import

namespace Document

/-- A document as far as it was read. -/
structure Draft where
  name : Option String := none
  version : Option String := none
  doc : Option String := none
  imports : List Import := []
  code : Json := .null
  aliases : List AliasDecl := []
  complexTypes : List ComplexTypeDecl := []
  remoteClasses : List RemoteClassDecl := []
  origin : Option Origin := none

def record : Record Draft Document where
  name := "InterfaceDocument"
  fields := ["name", "version", "doc", "imports", "code", "aliases", "complexTypes",
    "remoteClasses", "origin"]
  start := {}
  step l key v d := match key with
    | "name" => return { d with name := some (← Reader.string l v) }
    | "version" => return { d with version := some (← Reader.string l v) }
    | "doc" => return { d with doc := ← Reader.optional Reader.string l v }
    | "imports" => return { d with imports := ← Reader.list Import.record.read l v }
    | "code" => return { d with code := ← Reader.json l v }
    | "aliases" => return { d with aliases := ← Reader.list AliasDecl.record.read l v }
    | "complexTypes" =>
      return { d with complexTypes := ← Reader.list ComplexTypeDecl.record.read l v }
    | "remoteClasses" =>
      return { d with remoteClasses := ← Reader.list RemoteClassDecl.record.read l v }
    | _ => return { d with origin := ← Reader.optional (Reader.word Origin.words) l v }
  finish fault d := do
    return {
      name := ← Record.required fault "name" d.name
      version := ← Record.required fault "version" d.version
      doc := d.doc
      imports := d.imports
      code := d.code
      aliases := d.aliases
      complexTypes := d.complexTypes
      remoteClasses := d.remoteClasses
      origin := d.origin }

/-- The document a text holds. -/
def parse (s : String) : Except Fault Document := Reader.ofText record.read s

/-- The document a JSON value stands for. -/
def ofJson (v : Json) : Except Fault Document := Reader.ofJson record.read v

end Document

end InterfaceGen
