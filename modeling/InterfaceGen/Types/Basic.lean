import InterfaceGen.Text.Split

/-!
# Types/Basic — primitives, names and keys of declared types

The nouns that documents, models and templates share: where a definition comes from, the primitive
types, the key of a declared type and the kinds of entities that are generated.
-/

namespace InterfaceGen

/-! ## Origins -/

/-- Whether a definition is generated, or only referred to. -/
inductive Origin where
  | local
  | imported
  deriving Repr, DecidableEq, Inhabited

namespace Origin

/-- The word for an origin. -/
def name : Origin → String
  | .local => "local"
  | .imported => "imported"

/-- The origins by their words. -/
def words : List (String × Origin) := [("local", .local), ("imported", .imported)]

def isLocal : Origin → Bool
  | .local => true
  | .imported => false

/-- What is local anywhere is local. -/
def combine : Origin → Origin → Origin
  | .imported, .imported => .imported
  | _, _ => .local

@[simp] theorem combine_self (a : Origin) : a.combine a = a := by cases a <;> rfl

/-- **Combining is local exactly when one of the two is.** -/
@[simp] theorem isLocal_combine (a b : Origin) :
    (a.combine b).isLocal = (a.isLocal || b.isLocal) := by
  cases a <;> cases b <;> rfl

end Origin

/-! ## Primitives -/

/-- A primitive type. -/
inductive Primitive where
  | boolean
  | int
  | int64
  | float
  | double
  | string
  | void
  deriving Repr, DecidableEq

namespace Primitive

/-- The spelling of a primitive in documents. -/
def name : Primitive → String
  | .boolean => "boolean"
  | .int => "int"
  | .int64 => "int64"
  | .float => "float"
  | .double => "double"
  | .string => "String"
  | .void => "void"

/-- All primitives, in the order in which messages list them. -/
def all : List Primitive := [.boolean, .int, .int64, .float, .double, .string, .void]

/-- The primitives by their spellings. -/
def words : List (String × Primitive) := all.map fun p => (p.name, p)

/-- The primitive spelled `s`. -/
def ofName? (s : String) : Option Primitive := words.lookup s

@[simp] theorem ofName?_name (p : Primitive) : ofName? p.name = some p := by cases p <;> rfl

theorem name_injective {p q : Primitive} (h : p.name = q.name) : p = q := by
  have := congrArg ofName? h
  simpa using this

end Primitive

/-! ## Names -/

/-- The characters that may start an identifier. -/
def isIdentifierStart (c : Char) : Bool := c.isAlpha || c == '_'

/-- The characters that may follow in an identifier. -/
def isIdentifierRest (c : Char) : Bool := c.isAlphanum || c == '_'

/-- An ASCII letter or underscore, then ASCII letters, digits and underscores. -/
def isIdentifierChars : List Char → Bool
  | [] => false
  | c :: cs => isIdentifierStart c && cs.all isIdentifierRest

/-- Whether a string can name a type, a member or a constant. -/
def isIdentifier (s : String) : Bool := isIdentifierChars s.toList

/-- Identifiers separated by dots. -/
def isModuleNameChars (cs : List Char) : Bool := (Text.splitOn '.' cs).all isIdentifierChars

/-- Whether a string can name a module. -/
def isModuleName (s : String) : Bool := isModuleNameChars s.toList

/-- The identity of a declared type. -/
structure TypeKey where
  module : String
  name : String
  deriving Repr, DecidableEq, Inhabited

namespace TypeKey

/-- The qualified name, `module.Name`. -/
def shown (k : TypeKey) : String := k.module ++ "." ++ k.name

/-- The key a qualified name spells; the module may hold dots, the name may not. -/
def parse? (s : String) : Option TypeKey :=
  match Text.splitLast? '.' s.toList with
  | some (module, name) =>
    if module.isEmpty || name.isEmpty then none
    else some ⟨String.ofList module, String.ofList name⟩
  | none => none

end TypeKey

/-! ## Entities -/

/-- The kinds of entities that templates are written for. -/
inductive EntityKind where
  | module
  | remoteClass
  | complexType
  | enumType
  | alias
  | event
  deriving Repr, DecidableEq

namespace EntityKind

/-- The name of a kind, with which the file names of its templates start. -/
def name : EntityKind → String
  | .module => "module"
  | .remoteClass => "remoteClass"
  | .complexType => "complexType"
  | .enumType => "enumType"
  | .alias => "alias"
  | .event => "event"

/-- All kinds, in the order in which they are bound. -/
def all : List EntityKind := [.module, .remoteClass, .complexType, .enumType, .alias, .event]

/-- The kind with a name. -/
def ofName? (s : String) : Option EntityKind := all.find? (·.name == s)

end EntityKind

end InterfaceGen
