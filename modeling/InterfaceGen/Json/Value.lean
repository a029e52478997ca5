import InterfaceGen.Json.Number

/-!
# Json/Value — JSON values whose objects keep the order of their members

An object is a list of members. Setting a key that is already there keeps its place, removing one
moves the last member into the gap, and two objects are the same when they have the same members in
any order.
-/

namespace InterfaceGen

/-- A JSON value. -/
inductive Json where
  | null
  | bool (value : Bool)
  | num (value : Json.Number)
  | str (value : String)
  | arr (items : List Json)
  | obj (members : List (String × Json))
  deriving Repr

namespace Json

instance : Inhabited Json := ⟨.null⟩

/-- An object's members in order. -/
abbrev Members := List (String × Json)

/-- An integer value. -/
def int (i : Int) : Json := .num (.int i)

/-! ## Members of objects -/

namespace Members

/-- Gives `key` the value: in its place if the object has it, at the end if not. -/
def set (key : String) (value : Json) : Members → Members
  | [] => [(key, value)]
  | (k, v) :: rest => if k = key then (k, value) :: rest else (k, v) :: set key value rest

/-- The members without the last of them, and the last. -/
def popLast : Members → Option (Members × (String × Json))
  | [] => none
  | [m] => some ([], m)
  | m :: rest => (popLast rest).map fun (front, last) => (m :: front, last)

/-- The members without `key`; the last member takes the place of the one removed. -/
def remove (key : String) : Members → Members
  | [] => []
  | (k, v) :: rest =>
    if k = key then
      match popLast rest with
      | none => []
      | some (front, last) => last :: front
    else (k, v) :: remove key rest

/-- The object built by setting the members in turn. -/
def ofList (members : Members) : Members :=
  members.foldl (fun acc (k, v) => set k v acc) []

@[simp] theorem lookup_set_self (key : String) (value : Json) (ms : Members) :
    (ms.set key value).lookup key = some value := by
  induction ms with
  | nil => simp [set]
  | cons m ms ih =>
    obtain ⟨k, v⟩ := m
    by_cases h : k = key
    · subst h; simp [set]
    · have : (key == k) = false := by simpa using Ne.symm h
      simp [set, h, List.lookup_cons, this, ih]

@[simp] theorem lookup_set_ne {key other : String} (h : other ≠ key) (value : Json)
    (ms : Members) : (ms.set key value).lookup other = ms.lookup other := by
  have hk : (other == key) = false := by simpa using h
  induction ms with
  | nil => simp [set, List.lookup_cons, hk]
  | cons m ms ih =>
    obtain ⟨k, v⟩ := m
    by_cases hkey : k = key
    · subst hkey; simp [set, List.lookup_cons, hk]
    · by_cases ho : other = k
      · subst ho; simp [set, hkey]
      · have : (other == k) = false := by simpa using ho
        simp [set, hkey, List.lookup_cons, this, ih]

end Members

/-! ## Views -/

/-- The member `key` of an object. -/
def get? (key : String) : Json → Option Json
  | .obj members => members.lookup key
  | _ => none

def str? : Json → Option String
  | .str s => some s
  | _ => none

def isNull : Json → Bool
  | .null => true
  | _ => false

def isObject : Json → Bool
  | .obj _ => true
  | _ => false

/-! ## Sameness -/

mutual

/-- Whether two values are the same: objects in any order of members, doubles by value. -/
def same : Json → Json → Bool
  | .null, .null => true
  | .bool a, .bool b => a == b
  | .num a, .num b => a.same b
  | .str a, .str b => a == b
  | .arr a, .arr b => sameItems a b
  | .obj a, .obj b => a.length == b.length && sameMembers a b
  | _, _ => false

/-- Whether two arrays hold the same values in the same order. -/
def sameItems : List Json → List Json → Bool
  | [], [] => true
  | a :: as, b :: bs => same a b && sameItems as bs
  | _, _ => false

/-- Whether every one of the members is the same in the other object. -/
def sameMembers : List (String × Json) → List (String × Json) → Bool
  | [], _ => true
  | (k, v) :: rest, other =>
    (match other.lookup k with
      | some w => same v w
      | none => false) && sameMembers rest other

end

/-- Whether two optional values are both absent or the same. -/
def sameOption : Option Json → Option Json → Bool
  | none, none => true
  | some a, some b => same a b
  | _, _ => false

end Json

end InterfaceGen
