import InterfaceGen.Json.Value
import InterfaceGen.Text.Split

/-!
# Template/Scope — what the variables of a template stand for

Frames hold assigned variables and the state of a loop; they are searched from the innermost out,
and the values given to the whole template come last. A frame whose variable lacks the rest of a
path does not hide an outer one that has it.
-/

namespace InterfaceGen.Template

/-! ## Following a path -/

/-- The index a segment spells: digits without a sign or a leading zero, below `2^64`. -/
def indexOf? (segment : String) : Option Nat :=
  let cs := segment.toList
  if cs.isEmpty || !cs.all Char.isDigit || (cs.head? == some '0' && cs.length != 1) then none
  else
    let n := cs.foldl (fun n c => 10 * n + (c.toNat - '0'.toNat)) 0
    if n < Nat.pow 2 64 then some n else none

/-- The member or item a segment names. -/
def step? (v : Json) (segment : String) : Option Json :=
  match v with
  | .obj members => members.lookup segment
  | .arr items => (indexOf? segment).bind (items[·]?)
  | _ => none

/-- The value at the end of some segments. -/
def follow? : Json → List String → Option Json
  | v, [] => some v
  | v, segment :: rest => (step? v segment).bind (follow? · rest)

theorem follow?_append (v : Json) (front back : List String) :
    follow? v (front ++ back) = (follow? v front).bind (follow? · back) := by
  induction front generalizing v with
  | nil => rfl
  | cons s rest ih =>
    simp only [List.cons_append, follow?]
    cases step? v s with
    | none => rfl
    | some w => exact ih w

/-! ## Loops and frames -/

/-- Where a loop stands. -/
structure Loop where
  key : Option String
  value : String
  index : Nat
  count : Nat
  currentKey : String
  currentValue : Json
  deriving Repr

namespace Loop

/-- The value of a path under the loop's own names. -/
def find? (l : Loop) (path : List String) : Option Json :=
  match path with
  | ["loop", "index"] => some (.int (l.index + 1))
  | ["loop", "index0"] => some (.int l.index)
  | ["loop", "first"] => some (.bool (l.index == 0))
  | ["loop", "last"] => some (.bool (l.index + 1 == l.count))
  | [] => none
  | first :: rest =>
    if first = l.value then follow? l.currentValue rest
    else if l.key = some first ∧ rest.isEmpty then some (.str l.currentKey)
    else none

end Loop

/-- Variables that were assigned, and a loop's own. -/
structure Frame where
  assigned : Json.Members
  loop : Option Loop
  deriving Repr

namespace Frame

def empty : Frame := ⟨[], none⟩

/-- The value of a path in a frame: assigned variables before those of the loop. -/
def find? (f : Frame) (path : List String) : Option Json :=
  let found := match path with
    | [] => none
    | first :: rest => (f.assigned.lookup first).bind (follow? · rest)
  found.or (f.loop.bind (·.find? path))

/-- Gives a variable a value. -/
def assign (f : Frame) (name : String) (v : Json) : Frame :=
  { f with assigned := f.assigned.set name v }

end Frame

/-- What is in scope: the frames, innermost first, the values given to the whole template, and the
template whose nodes are rendered. -/
structure Scope where
  inner : Frame
  outer : List Frame
  globals : Json.Members
  template : String
  deriving Repr

namespace Scope

/-- The scope a template starts with. -/
def start (globals : Json.Members) (template : String) : Scope :=
  ⟨Frame.empty, [], globals, template⟩

/-- The value of a path in the given frames, or else among the given values. -/
def findIn (globals : Json.Members) (path : List String) : List Frame → Option Json
  | [] =>
    match path with
    | [] => none
    | first :: rest => (globals.lookup first).bind (follow? · rest)
  | f :: rest => (f.find? path).or (findIn globals path rest)

/-- The value of a dotted path. -/
def find? (s : Scope) (path : String) : Option Json :=
  findIn s.globals (Text.pieces '.' path) (s.inner :: s.outer)

/-- Gives a variable a value in the innermost frame. -/
def assign (s : Scope) (name : String) (v : Json) : Scope :=
  { s with inner := s.inner.assign name v }

/-- The scope inside a new frame. -/
def enter (s : Scope) (f : Frame) : Scope :=
  { s with inner := f, outer := s.inner :: s.outer }

/-- The scope of an embedded file: a frame of its own, and another name in messages. -/
def embed (s : Scope) (file : String) : Scope :=
  { s.enter Frame.empty with template := file }

/-- The scope of a macro: its arguments and the given values, nothing of its caller's. -/
def call (s : Scope) (file : String) (args : Json.Members) : Scope :=
  ⟨⟨args, none⟩, [], s.globals, file⟩

end Scope

end InterfaceGen.Template
