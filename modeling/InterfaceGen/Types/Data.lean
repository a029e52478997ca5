import InterfaceGen.Json.Fault
import InterfaceGen.Types.Expr

/-!
# Types/Data — resolved types, their spelling and their JSON form

A resolved type names each declared type by its key. Its spelling is a type expression again, every
reference qualified. Its JSON form is an object with the member `kind`; a primitive and a reference
both carry a `name`, and the kind tells them apart.
-/

namespace InterfaceGen

/-- A type whose references are bound to declared types. -/
inductive DataType where
  | primitive (type : Primitive)
  | reference (key : TypeKey)
  | sequence (of : DataType)
  | set (of : DataType)
  | map (of : DataType)
  deriving Repr, DecidableEq

namespace DataType

/-- The spelling in a document, with every reference qualified. -/
def spelling : DataType → String
  | .primitive p => p.name
  | .reference k => k.shown
  | .sequence t => t.spelling ++ "[]"
  | .set t => t.spelling ++ "\x7b\x7d"
  | .map t => t.spelling ++ "<>"

def isVoid : DataType → Bool
  | .primitive .void => true
  | _ => false

/-- The keys a type refers to, at any depth. -/
def references : DataType → List TypeKey
  | .primitive _ => []
  | .reference k => [k]
  | .sequence t => t.references
  | .set t => t.references
  | .map t => t.references

/-! ## Writing -/

/-- The JSON form. -/
def toJson : DataType → Json
  | .primitive p => .obj [("kind", .str "primitive"), ("name", .str p.name)]
  | .reference k =>
    .obj [("kind", .str "reference"), ("module", .str k.module), ("name", .str k.name)]
  | .sequence t => .obj [("kind", .str "sequence"), ("of", t.toJson)]
  | .set t => .obj [("kind", .str "set"), ("of", t.toJson)]
  | .map t => .obj [("kind", .str "map"), ("of", t.toJson)]

/-! ## Reading -/

/-- The five forms of a type. -/
inductive Form where
  | primitive
  | reference
  | sequence
  | set
  | map
  deriving Repr, DecidableEq

/-- The forms by their words. -/
def Form.words : List (String × Form) :=
  [("primitive", .primitive), ("reference", .reference), ("sequence", .sequence),
    ("set", .set), ("map", .map)]

/-- What a form's payload is called in a fault. -/
def Form.payload : Form → String
  | .primitive => "struct variant TypeStructure::Primitive"
  | .reference => "struct TypeKey"
  | .sequence => "struct variant TypeStructure::Sequence"
  | .set => "struct variant TypeStructure::Set"
  | .map => "struct variant TypeStructure::Map"

/-- The word of a form; inside another type it may also be the form's number. -/
def readForm (inner : Bool) : Json → Except Json.Fault Form
  | .str s =>
    match Form.words.lookup s with
    | some f => .ok f
    | none => .error (.unknownVariant s (Form.words.map (·.1)))
  | .num (.int i) =>
    if inner && 0 ≤ i then
      match (Form.words.map (·.2))[i.toNat]? with
      | some f => .ok f
      | none => .error (.invalidValue (.num (.int i)) "variant index 0 <= i < 5")
    else .error (.invalidType (.num (.int i)) "variant identifier")
  | other => .error (.invalidType (Json.Found.ofJson other) "variant identifier")

/-- The word of a primitive. -/
def readPrimitiveWord (s : String) : Except Json.Fault Primitive :=
  match Primitive.ofName? s with
  | some p => .ok p
  | none => .error (.unknownVariant s (Primitive.words.map (·.1)))

/-- A primitive: its word, or an object whose only key is the word and whose value is null. -/
def readPrimitive : Json → Except Json.Fault Primitive
  | .str s => readPrimitiveWord s
  | .obj [(k, v)] => do
    let p ← readPrimitiveWord k
    match v with
    | .null => return p
    | .obj [] => return p
    | other => throw (.invalidType (Json.Found.ofJson other) "unit")
  | .obj _ => .error (.invalidValue .map "map with a single key")
  | other => .error (.invalidType (Json.Found.ofJson other) "string or map")

/-- A string. -/
def readString : Json → Except Json.Fault String
  | .str s => .ok s
  | other => .error (.invalidType (Json.Found.ofJson other) "a string")

/-- The kind among the members of an object. -/
def readKind (inner : Bool) (members : Json.Members) : Except Json.Fault Form :=
  match members.lookup "kind" with
  | some v => readForm inner v
  | none => .error (.missingField "kind")

/-- The key in the members of an object, its faults in the order of the members. -/
def readKeyMembers : Option String → Option String → Json.Members → Except Json.Fault TypeKey
  | some module, some name, [] => .ok ⟨module, name⟩
  | none, _, [] => .error (.missingField "module")
  | _, none, [] => .error (.missingField "name")
  | module, name, (k, v) :: rest =>
    if k = "module" then do
      let s ← readString v
      readKeyMembers (some s) name rest
    else if k = "name" then do
      let s ← readString v
      readKeyMembers module (some s) rest
    else readKeyMembers module name rest

/-- What an array of too many items was expected to be. -/
def elementsWords (n : Nat) : String :=
  toString n ++ (if n = 1 then " element in sequence" else " elements in sequence")

mutual

/-- Reads a type; `inner` tells whether it stands inside another one. -/
def read (inner : Bool) : Json → Except Json.Fault DataType
  | .obj members => do
    let form ← readKind inner members
    match form with
    | .primitive =>
      match members.lookup "name" with
      | some v => return .primitive (← readPrimitive v)
      | none => throw (.missingField "name")
    | .reference => return .reference (← readKeyMembers none none members)
    | .sequence => return .sequence (← readOf members)
    | .set => return .set (← readOf members)
    | .map => return .map (← readOf members)
  | .arr items => readItems inner items
  | other => .error (.invalidType (Json.Found.ofJson other) "internally tagged enum TypeStructure")

/-- Reads the member `of` of an object. -/
def readOf : List (String × Json) → Except Json.Fault DataType
  | [] => .error (.missingField "of")
  | (k, v) :: rest => if k = "of" then read true v else readOf rest

/-- Reads a type from an array: the kind, then the payload's fields in order. -/
def readItems (inner : Bool) : List Json → Except Json.Fault DataType
  | [] => .error (.missingField "kind")
  | kind :: payload => do
    let form ← readForm inner kind
    match form with
    | .primitive =>
      match payload with
      | [] => throw (.invalidLength 0 (form.payload ++ " with 1 element"))
      | v :: rest =>
        let p ← readPrimitive v
        if rest.isEmpty then return .primitive p
        else throw (.invalidLength (rest.length + 1) (elementsWords 1))
    | .reference =>
      match payload with
      | [] => throw (.invalidLength 0 (form.payload ++ " with 2 elements"))
      | [v] =>
        let _ ← readString v
        throw (.invalidLength 1 (form.payload ++ " with 2 elements"))
      | v :: w :: rest =>
        let module ← readString v
        let name ← readString w
        if rest.isEmpty then return .reference ⟨module, name⟩
        else throw (.invalidLength (rest.length + 2) (elementsWords 2))
    | .sequence => return .sequence (← readElement form payload)
    | .set => return .set (← readElement form payload)
    | .map => return .map (← readElement form payload)

/-- Reads the only item of a container's payload. -/
def readElement (form : Form) : List Json → Except Json.Fault DataType
  | [] => .error (.invalidLength 0 (form.payload ++ " with 1 element"))
  | v :: rest => do
    let t ← read true v
    if rest.isEmpty then return t
    else throw (.invalidLength (rest.length + 1) (elementsWords 1))

end

/-- The type whose JSON form is `v`. -/
def ofJson (v : Json) : Except Json.Fault DataType := read false v

end DataType

end InterfaceGen
