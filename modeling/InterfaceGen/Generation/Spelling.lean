import InterfaceGen.Table
import InterfaceGen.Text.Words
import InterfaceGen.Types.Data

/-!
# Generation/Spelling — how a language spells resolved types

A language has a word for each primitive and a form for each container; the name of a declared type
is put into camel case with a capital. An overlay may replace the word of a primitive, at any depth.
-/

namespace InterfaceGen

/-- A language in which types can be spelled. -/
inductive Language where
  | rust
  | typescript
  deriving Repr, DecidableEq

namespace Language

/-- The name of a language. -/
def name : Language → String
  | .rust => "rust"
  | .typescript => "typescript"

/-- The languages by all their names. -/
def words : List (String × Language) :=
  [("rust", .rust), ("typescript", .typescript), ("ts", .typescript)]

/-- The language with a name. -/
def ofName? (s : String) : Option Language := words.lookup s

/-- The language's own word for a primitive. -/
def primitive : Language → Primitive → String
  | .rust, .boolean => "bool"
  | .rust, .int => "i32"
  | .rust, .int64 => "i64"
  | .rust, .float => "f32"
  | .rust, .double => "f64"
  | .rust, .string => "String"
  | .rust, .void => "()"
  | .typescript, .boolean => "boolean"
  | .typescript, .string => "string"
  | .typescript, .void => "void"
  | .typescript, _ => "number"

def sequence (l : Language) (item : String) : String :=
  match l with
  | .rust => "Vec<" ++ item ++ ">"
  | .typescript => item ++ "[]"

def set (l : Language) (item : String) : String :=
  match l with
  | .rust => "BTreeSet<" ++ item ++ ">"
  | .typescript => "Set<" ++ item ++ ">"

/-- A map from strings. -/
def map (l : Language) (item : String) : String :=
  match l with
  | .rust => "BTreeMap<String, " ++ item ++ ">"
  | .typescript => "Record<string, " ++ item ++ ">"

end Language

/-- A language with some primitives spelled differently. -/
structure Dialect where
  language : Language
  spellings : Table String
  deriving Repr

namespace Dialect

def primitive (d : Dialect) (p : Primitive) : String :=
  match d.spellings.find? p.name with
  | some s => s
  | none => d.language.primitive p

def reference (key : TypeKey) : String := Text.pascalCase key.name

/-- The spelling of a type. -/
def spell (d : Dialect) : DataType → String
  | .primitive p => d.primitive p
  | .reference key => reference key
  | .sequence t => d.language.sequence (d.spell t)
  | .set t => d.language.set (d.spell t)
  | .map t => d.language.map (d.spell t)

/-- What is written for a method that returns nothing. -/
def void (d : Dialect) : String := d.primitive .void

end Dialect

end InterfaceGen
