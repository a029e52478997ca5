import InterfaceGen.Files.System

/-!
# Files/Walk — everything below a directory

Links are followed, names come in order, and a directory comes before what it holds. A link back to
a directory that the walk is in is reported, and so is one that leads nowhere.
-/

namespace InterfaceGen

/-- A file that a walk met. -/
structure Found where
  /-- The path as it is spelled from where the walk began. -/
  path : String
  /-- The names from there. -/
  names : List String
  /-- Where the file is. -/
  location : Location
  deriving Repr, DecidableEq

/-- Something a walk could not enter. -/
inductive WalkFault where
  | io (path : String) (fault : FileFault)
  | loop (path ancestor : String)
  deriving Repr, DecidableEq

namespace WalkFault

/-- The path a fault is about. -/
def path : WalkFault → String
  | .io path _ => path
  | .loop path _ => path

/-- The wording of a fault. -/
def message : WalkFault → String
  | .io path fault => "IO error for operation on " ++ path ++ ": " ++ fault.message
  | .loop path ancestor =>
    "File system loop found: " ++ path ++ " points to an ancestor " ++ ancestor

end WalkFault

/-- What a walk meets, in order. -/
abbrev Walk := List (Except WalkFault Found)

namespace FileSystem

/-- A directory that the walk is in. -/
structure Opened where
  path : String
  location : Location

/-- Whether the entry at a location is a link. -/
def isLink (fs : FileSystem) (l : Location) : Bool :=
  match fs.at? l with
  | some (.link _) => true
  | _ => false

/-- What is met below a directory; `depth` bounds how deep directories lie, and `inside` holds those
around this one, the innermost first. -/
def walkBelow (fs : FileSystem) : Nat → List Opened → String → List String → Location → Walk
  | 0, _, _, _, _ => []
  | depth + 1, outside, path, names, l =>
    let inside := ⟨path, l⟩ :: outside
    (fs.names l).flatMap fun name =>
      let path := Path.join path name
      let names := names ++ [name]
      let linked := fs.isLink (l ++ [name])
      match fs.locate path with
      | .error fault => [.error (.io path fault)]
      | .ok (m, .directory _) =>
        match (if linked then inside.find? (·.location == m) else none) with
        | some ancestor => [.error (.loop path ancestor.path)]
        | none => fs.walkBelow depth inside path names m
      | .ok (m, _) => [.ok ⟨path, names, m⟩]

/-- How deep a walk can get: each link on its way down leads to another directory, and from there to
the next link it gets ever deeper. -/
def maxDepth (fs : FileSystem) : Nat := (fs.entries.length + 1) * (fs.entries.length + 1)

/-- The files below a directory. -/
def walk (fs : FileSystem) (path : String) : Walk :=
  match fs.locate path with
  | .error fault => [.error (.io path fault)]
  | .ok (l, .directory _) => fs.walkBelow fs.maxDepth [] path [] l
  | .ok (l, _) => [.ok ⟨path, [], l⟩]

end FileSystem

end InterfaceGen
