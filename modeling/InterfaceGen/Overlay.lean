import InterfaceGen.Json.Value
import InterfaceGen.Table
import InterfaceGen.Text.Split

/-!
# Overlay — values given at the start of a run, over what documents declare

An overlay has a global part, a part for each of some modules, and the spellings of primitives in
each language. The value at a key is read from the module's own values with the global part and then
the module's part laid over them: two objects are merged member by member, the new ones at the end,
and anything else is replaced. A key is a dotted path into the result.
-/

namespace InterfaceGen

namespace Json

/-! ## Laying one value over another -/

mutual

/-- `layer` laid over `base`. -/
def merge (base : Json) : Json → Json
  | .obj layer =>
    match base with
    | .obj members => .obj (mergeMembers members layer)
    | _ => .obj layer
  | layer => layer

/-- The members of one object laid over those of another. -/
def mergeMembers (base : Members) : List (String × Json) → Members
  | [] => base
  | (k, v) :: rest =>
    mergeMembers
      (base.set k (match base.lookup k with
        | some old => merge old v
        | none => v)) rest

end

/-- The empty object laid over an object changes nothing. -/
@[simp] theorem merge_obj_nil (members : Members) :
    merge (.obj members) (.obj []) = .obj members := by
  simp [merge, mergeMembers]

/-! ## Paths -/

/-- The index a segment spells: digits after an optional plus sign, below `2^64`. -/
def indexOf? (segment : String) : Option Nat :=
  let digits := match segment.toList with
    | '+' :: rest => rest
    | cs => cs
  if digits.isEmpty || !digits.all Char.isDigit then none
  else
    let n := digits.foldl (fun n c => 10 * n + (c.toNat - '0'.toNat)) 0
    if n < Nat.pow 2 64 then some n else none

/-- The item of an array whose member `name` is the given text. -/
def named? (name : String) (items : List Json) : Option Json :=
  items.find? fun item =>
    match item.get? "name" with
    | some (.str s) => s == name
    | _ => false

/-- One step of a path: in an object a segment is a key, in an array an index, or else the `name` of
one of the items, so that a list of named things can be addressed like an object. -/
def step? (v : Json) (segment : String) : Option Json :=
  match v with
  | .obj members => members.lookup segment
  | .arr items =>
    match indexOf? segment with
    | some i => items[i]?
    | none => named? segment items
  | _ => none

/-- The value at the end of some steps. -/
def follow? : Json → List String → Option Json
  | v, [] => some v
  | v, segment :: rest =>
    match step? v segment with
    | some w => follow? w rest
    | none => none

/-- The value at a dotted path; the path without segments is the value itself. -/
def at? (v : Json) (path : String) : Option Json :=
  let path := Text.trimmed path
  if path = "" then some v else follow? v (Text.pieces '.' path)

end Json

/-! ## Overlays -/

/-- Values laid over those of the documents. -/
structure Overlay where
  global : Json.Members
  modules : Json.Members
  typeMappings : Json.Members
  deriving Repr

namespace Overlay

def empty : Overlay := ⟨[], [], []⟩

instance : Inhabited Overlay := ⟨empty⟩

/-! ## Reading -/

/-- Why a value is no overlay. -/
inductive Fault where
  | notAnObject
  | modulesNotAnObject
  | moduleNotAnObject (module : String)
  | typeMappingsNotAnObject
  deriving Repr, DecidableEq

/-- The wording of a fault. -/
def Fault.message : Fault → String
  | .notAnObject => "config overlay must be a JSON object"
  | .modulesNotAnObject => "'modules' must map module names to objects"
  | .moduleNotAnObject module => "overlay for module '" ++ module ++ "' must be an object"
  | .typeMappingsNotAnObject => "'typeMappings' must be an object"

/-- The members of a part of an overlay, which is an object or absent. -/
def part (fault : Fault) : Option Json → Except Fault Json.Members
  | none => .ok []
  | some (.obj members) => .ok members
  | some _ => .error fault

/-- The overlay a value stands for: what is left after its parts are taken out is global. -/
def ofJson : Json → Except Fault Overlay
  | .obj members => do
    let modules ← part .modulesNotAnObject (members.lookup "modules")
    let members := Json.Members.remove "modules" members
    match modules.find? fun (_, v) => !v.isObject with
    | some (name, _) => throw (.moduleNotAnObject name)
    | none => pure ()
    let typeMappings ← part .typeMappingsNotAnObject (members.lookup "typeMappings")
    return ⟨Json.Members.remove "typeMappings" members, modules, typeMappings⟩
  | _ => .error .notAnObject

/-! ## Lookup -/

/-- The values with the overlay's parts for `module` laid over them. -/
def resolve (o : Overlay) (module : String) (defaults : Json) : Json :=
  let resolved := defaults.merge (.obj o.global)
  match o.modules.lookup module with
  | some scope => resolved.merge scope
  | none => resolved

/-- The value at a dotted key. -/
def lookup (o : Overlay) (module key : String) (defaults : Json) : Option Json :=
  (o.resolve module defaults).at? key

/-- The spellings of primitives in a language. -/
def spellings (o : Overlay) (language : String) : Table String :=
  match o.typeMappings.lookup language with
  | some (.obj members) =>
    Table.ofList (members.filterMap fun (k, v) => v.str?.map fun s => (k, s))
  | _ => []

@[simp] theorem resolve_empty (module : String) (members : Json.Members) :
    empty.resolve module (.obj members) = .obj members := by
  simp [resolve, empty]

/-- Whether two overlays say the same. -/
def same (a b : Overlay) : Bool :=
  Json.same (.obj a.global) (.obj b.global) && Json.same (.obj a.modules) (.obj b.modules) &&
    Json.same (.obj a.typeMappings) (.obj b.typeMappings)

end Overlay

end InterfaceGen
