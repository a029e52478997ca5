import InterfaceGen.Generation.Spelling
import InterfaceGen.Model.Writer
import InterfaceGen.Overlay
import InterfaceGen.Table
import InterfaceGen.Template.Render

/-!
# Generation/Filters — the filters and functions of templates

Names are put into the four cases, lists are joined, resolved types are spelled in a language, and
types are looked up in the model by their keys.
-/

namespace InterfaceGen

/-- Why a filter or function refuses its input. -/
inductive CallFault where
  | notAString (filter : String)
  | languageNotAString
  | unknownLanguage (name : String)
  | notAPrimitive (name : String)
  | notAType (fault : Json.Fault)
  | notAKey
  | unknownType (key : String)
  | notAnArray (value : Json)
  | separatorNotAString (value : Json)
  deriving Repr

/-- The wording of a fault. -/
def CallFault.message : CallFault → String
  | .notAString filter => filter ++ " filter expects a string"
  | .languageNotAString => "type_name: 'lang' must be a string"
  | .unknownLanguage name => "type_name: unknown language '" ++ name ++ "'"
  | .notAPrimitive name => "type_name: '" ++ name ++ "' is not a primitive"
  | .notAType fault => "type_name expects a resolved type: " ++ fault.message
  | .notAKey =>
    "lookup_type expects 'key' as \"module.Name\" or \x7bmodule, name\x7d"
  | .unknownType key => "lookup_type: no type '" ++ key ++ "'"
  | .notAnArray value =>
    "Filter `join` was called on an incorrect value: got `" ++ value.text ++
      "` but expected a Vec<Value>"
  | .separatorNotAString value =>
    "Filter `truncate` received an incorrect type for arg `sep`: got `" ++ value.text ++
      "` but expected a String"

namespace Filters

/-! ## Filters -/

/-- The four cases by the names of their filters. -/
def cases : List (String × (String → String)) :=
  [("camel_case", Text.camelCase), ("pascal_case", Text.pascalCase),
    ("snake_case", Text.snakeCase), ("screaming_snake_case", Text.screamingSnakeCase)]

/-- Puts a string into another case. -/
def changeCase (filter : String) (change : String → String) : Json → Except CallFault Json
  | .str s => .ok (.str (change s))
  | _ => .error (.notAString filter)

/-- A separator, in which a backslash with `n` or `t` stands for a line break or a tab. -/
def separator : List Char → List Char
  | '\\' :: 'n' :: rest => '\n' :: separator rest
  | '\\' :: 't' :: rest => '\t' :: separator rest
  | c :: rest => c :: separator rest
  | [] => []

/-- Joins the printed items of an array. -/
def join (v : Json) (args : Template.Args) : Except CallFault Json :=
  match v, args.lookup "sep" with
  | .arr items, some (.str sep) =>
    .ok (.str ((String.ofList (separator sep.toList)).intercalate (Template.printedItems items)))
  | .arr items, none => .ok (.str ("".intercalate (Template.printedItems items)))
  | .arr _, some other => .error (.separatorNotAString other)
  | other, _ => .error (.notAnArray other)

/-- The language an argument asks for. -/
def languageOf : Option Json → Except CallFault Language
  | none => .ok .rust
  | some (.str s) =>
    match Language.ofName? s with
    | some l => .ok l
    | none => .error (.unknownLanguage s)
  | some _ => .error .languageNotAString

/-- The language of an overlay, with the overlay's words for primitives. -/
def dialect (o : Overlay) (l : Language) : Dialect := ⟨l, o.spellings l.name⟩

/-- The spelling of a value: nothing is void, a string is a primitive, all else is a type. -/
def spellValue (d : Dialect) : Json → Except CallFault String
  | .null => .ok d.void
  | .str s =>
    match Primitive.ofName? s with
    | some p => .ok (d.primitive p)
    | none => .error (.notAPrimitive s)
  | v =>
    match DataType.ofJson v with
    | .ok t => .ok (d.spell t)
    | .error fault => .error (.notAType fault)

def typeName (o : Overlay) (v : Json) (args : Template.Args) : Except CallFault Json := do
  let l ← languageOf (args.lookup "lang")
  return .str (← spellValue (dialect o l) v)

/-! ## Functions -/

/-- The key an argument gives: as a qualified name, or by its two parts. -/
def keyOf : Option Json → Except CallFault TypeKey
  | some (.str s) =>
    match TypeKey.parse? s with
    | some key => .ok key
    | none => .error .notAKey
  | some (.obj members) =>
    match members.lookup "module", members.lookup "name" with
    | some (.str module), some (.str name) => .ok ⟨module, name⟩
    | _, _ => .error .notAKey
  | _ => .error .notAKey

/-- The types of a model by their qualified names. -/
def typeIndex (m : Model) : Table Json := .ofList (m.types.map fun t => (t.key.shown, t.toJson))

/-- The type an argument names. -/
def lookupType (m : Model) (args : Template.Args) : Except CallFault Json := do
  let key ← keyOf (args.lookup "key")
  match (typeIndex m).find? key.shown with
  | some type => return type
  | none => throw (.unknownType key.shown)

end Filters

/-- The filters and functions of a model under an overlay. -/
def templateCalls (m : Model) (o : Overlay) : Template.Calls where
  filter name :=
    match Filters.cases.lookup name with
    | some change => some fun v _ => (Filters.changeCase name change v).mapError (·.message)
    | none =>
      if name = "join" then some fun v args => (Filters.join v args).mapError (·.message)
      else if name = "type_name" then
        some fun v args => (Filters.typeName o v args).mapError (·.message)
      else none
  function name :=
    if name = "lookup_type" then
      some fun args => (Filters.lookupType m args).mapError (·.message)
    else none

end InterfaceGen
