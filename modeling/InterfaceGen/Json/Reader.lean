import InterfaceGen.Json.Fault
import InterfaceGen.Json.Source

/-!
# Json/Reader — reading typed values from JSON

A reader takes the source of a value to a result or to the first fault in the order of the text.
A record is read from an object, whose unknown members are passed over, or from an array, whose
items are the record's fields in their order. A text may nest containers 127 deep, except inside
members that are passed over; a value at hand has no such bound.
-/

namespace InterfaceGen.Json

/-- Where a source comes from. -/
inductive Medium where
  | text
  | value
  deriving Repr, DecidableEq

/-- How deep the containers of a source may still nest. -/
structure Limits where
  medium : Medium
  /-- One more than the number of containers that may still be entered. -/
  room : Nat
  deriving Repr, DecidableEq

namespace Limits

/-- The limits of a whole text. -/
def text : Limits := ⟨.text, 128⟩

/-- The limits of a value at hand. -/
def value : Limits := ⟨.value, 0⟩

/-- The limits inside a container. -/
def enter (l : Limits) : Except Fault Limits :=
  match l.medium with
  | .value => .ok l
  | .text => if l.room ≤ 1 then .error .malformed else .ok { l with room := l.room - 1 }

@[simp] theorem enter_value : enter value = .ok value := rfl

end Limits

/-- Reads a value of type `α`. -/
abbrev Reader (α : Type) := Limits → Source → Except Fault α

namespace Reader

/-- The fault of a source that is not what was expected. -/
def mismatch (expected : String) : Source → Fault
  | .null => .invalidType .null expected
  | .bool b => .invalidType (.bool b) expected
  | .num n => .invalidType (.num n) expected
  | .str s => .invalidType (.str s) expected
  | .seq _ _ => .invalidType .seq expected
  | .map _ _ => .invalidType .map expected
  | .unreadable => .malformed
  | .malformed => .malformed

/-- Reads a string and calls it by the given words in a fault. -/
def stringAs (expected : String) : Reader String
  | _, .str s => .ok s
  | _, other => .error (mismatch expected other)

/-- Reads a string. -/
def string : Reader String := stringAs "a string"

/-- Reads a path. -/
def path : Reader String := stringAs "path string"

/-- Reads a truth value. -/
def bool : Reader Bool
  | _, .bool b => .ok b
  | _, other => .error (mismatch "a boolean" other)

/-- Reads null as nothing and all else by `r`. -/
def optional {α : Type} (r : Reader α) : Reader (Option α)
  | _, .null => .ok none
  | l, other => (r l other).map some

/-- Reads the items of an array in order. -/
def items {α : Type} (r : Reader α) (l : Limits) : List Source → Except Fault (List α)
  | [] => .ok []
  | v :: rest => do
    let a ← r l v
    let as ← items r l rest
    return a :: as

/-- Reads an array. -/
def list {α : Type} (r : Reader α) : Reader (List α)
  | l, .seq vs ended => do
    let as ← items r (← l.enter) vs
    if ended then return as else throw .malformed
  | _, other => .error (mismatch "a sequence" other)

/-- Passes over a value of any shape, which only has to be well formed. -/
def skip : Reader Unit
  | _, v => if v.wellFormed then .ok () else .error .malformed

/-! ## Any value -/

mutual

/-- Reads any value. -/
def json : Limits → Source → Except Fault Json
  | _, .null => .ok .null
  | _, .bool b => .ok (.bool b)
  | _, .num n => .ok (.num n)
  | _, .str s => .ok (.str s)
  | l, .seq vs ended => do
    let vs ← jsonItems (← l.enter) vs
    if ended then return .arr vs else throw .malformed
  | l, .map ms ended => do
    let ms ← jsonMembers (← l.enter) ms []
    if ended then return .obj ms else throw .malformed
  | _, .unreadable => .error .malformed
  | _, .malformed => .error .malformed

def jsonItems : Limits → List Source → Except Fault (List Json)
  | _, [] => .ok []
  | l, v :: rest => do
    let v ← json l v
    let vs ← jsonItems l rest
    return v :: vs

/-- Reads members onto those read before, a repeated key in its first place with its last value. -/
def jsonMembers : Limits → List (String × Source) → Members → Except Fault Members
  | _, [], acc => .ok acc
  | l, (k, v) :: rest, acc => do
    let v ← json l v
    jsonMembers l rest (acc.set k v)

end

/-! ## Words -/

/-- The member of `words` spelled `s`. -/
def wordOf {α : Type} (words : List (String × α)) (s : String) : Except Fault α :=
  match words.lookup s with
  | some a => .ok a
  | none => .error (.unknownVariant s (words.map (·.1)))

/-- A word as the only member of an object, whose value has to be null. -/
def wordMember {α : Type} (words : List (String × α)) (key : String) (v : Source) :
    Except Fault α := do
  let a ← wordOf words key
  match v with
  | .null => return a
  | other => throw (mismatch "unit" other)

/-- Reads one of a few words: a string, or an object whose only key is the word and whose value is
null. -/
def word {α : Type} (words : List (String × α)) : Reader α
  | _, .str s => wordOf words s
  | l, .map ms ended =>
    match l.medium, ms, ended with
    | .value, [(k, v)], _ => wordMember words k v
    | .value, _, _ => .error (.invalidValue .map "map with a single key")
    | .text, [], _ => .error .malformed
    | .text, (k, v) :: rest, ended => do
      let _ ← l.enter
      let a ← wordMember words k v
      if rest.isEmpty && ended then return a else throw .malformed
  | l, other =>
    match l.medium with
    | .value => .error (mismatch "string or map" other)
    | .text => .error .malformed

end Reader

/-! ## Records -/

/-- How a record is read: the state `σ` gathers the fields that were met, and `finish` builds the
record from it, asking for the fault of a field that is missing. -/
structure Record (σ α : Type) where
  name : String
  fields : List String
  start : σ
  step : Limits → String → Source → σ → Except Fault σ
  finish : (String → Fault) → σ → Except Fault α

namespace Record

variable {σ α : Type}

/-- Reads the members of an object in order; `seen` holds the fields met before. -/
def members (r : Record σ α) (l : Limits) :
    List String → σ → List (String × Source) → Except Fault σ
  | _, s, [] => .ok s
  | seen, s, (k, v) :: rest =>
    if k ∈ r.fields then
      if k ∈ seen then .error (.duplicateField k)
      else do
        let s ← r.step l k v s
        r.members l (k :: seen) s rest
    else do
      Reader.skip l v
      r.members l seen s rest

/-- Reads the items of an array as the given fields; also how many items are left over. -/
def positions (r : Record σ α) (l : Limits) :
    List String → σ → List Source → Except Fault (σ × Nat)
  | [], s, rest => .ok (s, rest.length)
  | _, s, [] => .ok (s, 0)
  | f :: fs, s, v :: rest => do
    let s ← r.step l f v s
    r.positions l fs s rest

/-- What a record expects of an array. -/
def arrayWords (r : Record σ α) : String :=
  let n := r.fields.length
  "struct " ++ r.name ++ " with " ++ toString n ++ (if n = 1 then " element" else " elements")

/-- Reads the record. -/
def read (r : Record σ α) : Reader α
  | l, .map ms ended => do
    let s ← r.members (← l.enter) [] r.start ms
    if ended then r.finish .missingField s else throw .malformed
  | l, .seq vs ended => do
    let (s, extra) ← r.positions (← l.enter) r.fields r.start vs
    if ended then
      if extra = 0 then r.finish (fun f => .invalidLength (r.fields.idxOf f) r.arrayWords) s
      else
        match l.medium with
        | .text => throw .malformed
        | .value => throw (.invalidLength vs.length "fewer elements in array")
    else throw .malformed
  | _, other => .error (Reader.mismatch ("struct " ++ r.name) other)

/-- The value of a required field. -/
def required {β : Type} (fault : String → Fault) (name : String) : Option β → Except Fault β
  | some b => .ok b
  | none => .error (fault name)

end Record

namespace Reader

/-! ## Whole texts and values -/

/-- Reads a text that holds one value and nothing else. -/
def ofText {α : Type} (r : Reader α) (s : String) : Except Fault α :=
  match Source.scan s with
  | (v, rest) => do
    let a ← r .text v
    match rest with
    | some rest => if (Source.skipBlank rest).isEmpty then return a else throw .malformed
    | none => throw .malformed

/-- Reads a value at hand. -/
def ofJson {α : Type} (r : Reader α) (v : Json) : Except Fault α :=
  r .value (Source.ofJson v)

end Reader

/-- The value of a JSON text. -/
def parse (s : String) : Except Fault Json := Reader.ofText Reader.json s

end InterfaceGen.Json
