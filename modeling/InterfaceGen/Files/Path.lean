import InterfaceGen.Text.Split

/-!
# Files/Path — path spellings and the components they stand for

A path is kept as it was spelled, and compared and ordered by its components: repeated slashes and
dots in the middle do not count, a leading dot does, and `..` stays.
-/

namespace InterfaceGen

/-! ## Components -/

/-- A component of a path. -/
inductive Component where
  | root
  | current
  | parent
  | normal (name : String)
  deriving Repr, DecidableEq

namespace Component

/-- The spelling of a component. -/
def spelling : Component → String
  | .root => "/"
  | .current => "."
  | .parent => ".."
  | .normal name => name

/-- The place of a component in the order: the root, the dot, two dots, then names. -/
def rank : Component → Nat
  | .root => 0
  | .current => 1
  | .parent => 2
  | .normal _ => 3

/-- The order of components; names compare as texts. -/
def compare : Component → Component → Ordering
  | .normal a, .normal b => if a < b then .lt else if a = b then .eq else .gt
  | a, b => Ord.compare a.rank b.rank

/-- **Only equal components compare as equal.** -/
theorem compare_eq_iff {a b : Component} : a.compare b = .eq ↔ a = b := by
  cases a with
  | normal s =>
    cases b with
    | normal t =>
      simp only [compare, normal.injEq]
      split
      · rename_i hlt
        constructor
        · intro h; cases h
        · rintro rfl; exact absurd hlt (String.lt_irrefl s)
      · split <;> rename_i h
        · exact iff_of_true rfl h
        · exact iff_of_false (fun h => by cases h) h
    | _ => exact iff_of_false (fun h => by cases h) (fun h => by cases h)
  | _ =>
    cases b with
    | normal t => exact iff_of_false (fun h => by cases h) (fun h => by cases h)
    | _ => decide

/-- The component a piece between slashes stands for, except at the start of a path. -/
def ofPiece? (piece : String) : Option Component :=
  if piece = "" ∨ piece = "." then none
  else if piece = ".." then some .parent
  else some (.normal piece)

end Component

namespace Path

/-- The components of a path. -/
def components (path : String) : List Component :=
  match Text.pieces '/' path with
  | [] => []
  | first :: rest =>
    let start := if first = "" then (if rest.isEmpty then [] else [Component.root])
      else if first = "." then [.current]
      else (Component.ofPiece? first).toList
    start ++ rest.filterMap Component.ofPiece?

/-- The lexicographic order of lists of components. -/
def compareComponents : List Component → List Component → Ordering
  | [], [] => .eq
  | [], _ :: _ => .lt
  | _ :: _, [] => .gt
  | a :: as, b :: bs =>
    match a.compare b with
    | .eq => compareComponents as bs
    | o => o

theorem compareComponents_eq_iff {as bs : List Component} :
    compareComponents as bs = .eq ↔ as = bs := by
  induction as generalizing bs with
  | nil => cases bs <;> simp [compareComponents]
  | cons a as ih =>
    cases bs with
    | nil => simp [compareComponents]
    | cons b bs =>
      simp only [compareComponents, List.cons.injEq]
      cases h : a.compare b with
      | eq => simp [Component.compare_eq_iff.1 h, ih]
      | lt =>
        have : a ≠ b := fun e => by simp [Component.compare_eq_iff.2 e] at h
        simp [this]
      | gt =>
        have : a ≠ b := fun e => by simp [Component.compare_eq_iff.2 e] at h
        simp [this]

/-- The order of paths. -/
def compare (a b : String) : Ordering := compareComponents (components a) (components b)

/-- Whether two spellings name the same path. -/
def same (a b : String) : Bool := components a = components b

/-- **Two spellings compare as equal exactly if they name the same path.** -/
theorem compare_eq_iff_same {a b : String} : compare a b = .eq ↔ same a b = true := by
  simp [compare, same, compareComponents_eq_iff]

/-- Appends a component to a spelling; an absolute one replaces it. -/
def join (base path : String) : String :=
  if path.startsWith "/" then path
  else if base = "" then path
  else if base.endsWith "/" then base ++ path
  else base ++ "/" ++ path

/-- The plain spelling of some components. -/
def ofComponents (cs : List Component) : String :=
  cs.foldl (fun path c => join path c.spelling) ""

/-- The path without its last component, if it has one to lose. -/
def parent? (path : String) : Option String :=
  match (components path).reverse with
  | [] => none
  | .root :: _ => none
  | _ :: rest => some (ofComponents rest.reverse)

/-- The name a path ends with. -/
def fileName? (path : String) : Option String :=
  match (components path).getLast? with
  | some (.normal name) => some name
  | _ => none

/-- The path with another name at its end; a path that ends with no name gets one. -/
def withFileName (path name : String) : String :=
  match fileName? path, parent? path with
  | some _, some parent => join parent name
  | _, _ => join path name

/-! ## Sorted sets of paths -/

/-- Adds a path to a set in path order; an equal path that is there already keeps its spelling. -/
def insert (path : String) : List String → List String
  | [] => [path]
  | p :: rest =>
    match compare path p with
    | .lt => path :: p :: rest
    | .eq => p :: rest
    | .gt => p :: insert path rest

/-- The set of some paths, in path order. -/
def ofList (paths : List String) : List String := paths.foldl (fun s p => insert p s) []

end Path

end InterfaceGen
