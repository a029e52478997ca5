/-!
# Table — maps and sets of strings in the order of their keys

A table is a list of entries whose keys increase; strings compare by code point, which is also the
order of their bytes. `insert` keeps the order and overwrites, so two tables with the same entries
are equal lists.
-/

namespace InterfaceGen

/-- A map from strings, its entries in the order of their keys. -/
abbrev Table (α : Type) := List (String × α)

namespace Table

variable {α : Type}

/-- The value of `key`. -/
def find? (key : String) (t : Table α) : Option α := t.lookup key

/-- Whether the table has `key`. -/
def has (key : String) (t : Table α) : Bool := (t.find? key).isSome

/-- The keys, in order. -/
def keys (t : Table α) : List String := t.map (·.1)

/-- The values, in the order of their keys. -/
def values (t : Table α) : List α := t.map (·.2)

/-- Gives `key` the value. -/
def insert (key : String) (value : α) : Table α → Table α
  | [] => [(key, value)]
  | (k, v) :: rest =>
    if key = k then (key, value) :: rest
    else if key < k then (key, value) :: (k, v) :: rest
    else (k, v) :: insert key value rest

/-- The table of some entries, the last one of a key counting. -/
def ofList (entries : List (String × α)) : Table α :=
  entries.foldl (fun t (k, v) => t.insert k v) []

@[simp] theorem find?_nil (key : String) : find? key ([] : Table α) = none := rfl

@[simp] theorem find?_insert_self (key : String) (value : α) (t : Table α) :
    (t.insert key value).find? key = some value := by
  induction t with
  | nil => simp [insert, find?]
  | cons e t ih =>
    obtain ⟨k, v⟩ := e
    by_cases h : key = k
    · subst h; simp [insert, find?]
    · have hb : (key == k) = false := by simpa using h
      by_cases hlt : key < k
      · simp [insert, h, hlt, find?]
      · simpa [insert, h, hlt, find?, List.lookup_cons, hb] using ih

@[simp] theorem find?_insert_ne {key other : String} (h : other ≠ key) (value : α)
    (t : Table α) : (t.insert key value).find? other = t.find? other := by
  have hk : (other == key) = false := by simpa using h
  induction t with
  | nil => simp [insert, find?, List.lookup_cons, hk]
  | cons e t ih =>
    obtain ⟨k, v⟩ := e
    by_cases heq : key = k
    · subst heq; simp [insert, find?, List.lookup_cons, hk]
    · by_cases hlt : key < k
      · simp [insert, heq, hlt, find?, List.lookup_cons, hk]
      · simp only [insert, heq, hlt, if_false, find?, List.lookup_cons]
        cases hok : other == k with
        | true => rfl
        | false => simpa [find?] using ih

end Table

/-- A set of strings, in increasing order. -/
abbrev Names := List String

namespace Names

/-- Adds a name. -/
def insert (name : String) : Names → Names
  | [] => [name]
  | n :: rest =>
    if name = n then n :: rest
    else if name < n then name :: n :: rest
    else n :: insert name rest

/-- The set of some names. -/
def ofList (names : List String) : Names := names.foldl (fun s n => s.insert n) []

@[simp] theorem mem_insert {name other : String} {s : Names} :
    other ∈ s.insert name ↔ other = name ∨ other ∈ s := by
  induction s with
  | nil => simp [insert]
  | cons n rest ih =>
    by_cases h : name = n
    · subst h; simp [insert]
    · by_cases hlt : name < n
      · simp [insert, h, hlt]
      · simp only [insert, h, hlt, if_false, List.mem_cons, ih]
        constructor
        · rintro (h | h | h) <;> simp [h]
        · rintro (h | h | h) <;> simp [h]

end Names

end InterfaceGen
