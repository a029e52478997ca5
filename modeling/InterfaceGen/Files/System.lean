import InterfaceGen.Files.Path

/-!
# Files/System — a tree of files, directories and links

A file system maps locations to entries, and a path leads from the working directory to one of them,
through links if need be. Changing it either yields the changed file system or says why not, in the
words of the operating system.
-/

namespace InterfaceGen

/-! ## Entries -/

/-- What a file holds. -/
inductive Content where
  | text (s : String)
  /-- Bytes that are no UTF-8 text. -/
  | bytes (b : List UInt8)
  deriving Repr, DecidableEq

/-- What is at a location. -/
inductive Entry where
  | directory (readonly : Bool)
  | file (content : Content)
  | link (target : String)
  deriving Repr, DecidableEq

namespace Entry

def isFile : Entry → Bool
  | .file _ => true
  | _ => false

def isDirectory : Entry → Bool
  | .directory _ => true
  | _ => false

end Entry

/-- The names that lead from the root to an entry. -/
abbrev Location := List String

/-- Why something cannot be done with a path. -/
inductive FileFault where
  | notFound
  | alreadyExists
  | notADirectory
  | isADirectory
  | busy
  | tooManyLinks
  /-- The bytes of a file are no text. -/
  | notText
  /-- A whole tree cannot be made. -/
  | noTree
  deriving Repr, DecidableEq

/-- The wording of a fault. -/
def FileFault.message : FileFault → String
  | .notFound => "No such file or directory (os error 2)"
  | .alreadyExists => "File exists (os error 17)"
  | .notADirectory => "Not a directory (os error 20)"
  | .isADirectory => "Is a directory (os error 21)"
  | .busy => "Device or resource busy (os error 16)"
  | .tooManyLinks => "Too many levels of symbolic links (os error 40)"
  | .notText => "stream did not contain valid UTF-8"
  | .noTree => "failed to create whole tree"

/-- A file system with a working directory. The root is a directory without an entry of its own. -/
structure FileSystem where
  entries : List (Location × Entry)
  current : Location
  deriving Repr

namespace FileSystem

/-- The entry at a location. -/
def at? (fs : FileSystem) (l : Location) : Option Entry :=
  if l = [] then some (.directory false) else fs.entries.lookup l

/-- Whether a directory is at a location. -/
def hasDirectory (fs : FileSystem) (l : Location) : Bool := (fs.at? l).any Entry.isDirectory

/-- Puts an entry at a location, in place of an earlier one. -/
def put (fs : FileSystem) (l : Location) (e : Entry) : FileSystem :=
  { fs with entries := (l, e) :: fs.entries.filter (·.1 ≠ l) }

/-- Takes away a location and all below it. -/
def removeTree (fs : FileSystem) (l : Location) : FileSystem :=
  { fs with entries := fs.entries.filter fun (m, _) => !l.isPrefixOf m }

/-- An empty directory that is the working directory. -/
def empty : FileSystem := ⟨[(["work"], .directory false)], ["work"]⟩

/-- The names in a directory, in order. -/
def names (fs : FileSystem) (l : Location) : List String :=
  (fs.entries.filterMap fun (m, _) =>
    if m.dropLast = l then m.getLast? else none).mergeSort fun a b => !decide (b < a)

@[simp] theorem at?_put_self (fs : FileSystem) {l : Location} (h : l ≠ []) (e : Entry) :
    (fs.put l e).at? l = some e := by
  simp [at?, put, h]

theorem at?_put_ne (fs : FileSystem) {l m : Location} (h : m ≠ l) (e : Entry) :
    (fs.put l e).at? m = fs.at? m := by
  have hml : (m == l) = false := by simpa using h
  simp only [at?, put, List.lookup_cons, hml]
  split
  · rfl
  · induction fs.entries with
    | nil => rfl
    | cons x rest ih =>
      obtain ⟨k, v⟩ := x
      by_cases hk : k = l
      · subst hk
        simpa [List.lookup_cons, hml] using ih
      · cases hmk : m == k with
        | true => simp [hk, hmk, List.lookup_cons]
        | false => simpa [hk, hmk, List.lookup_cons] using ih

/-! ## Following paths -/

/-- What a path leads to. -/
inductive Target where
  | entry (l : Location) (e : Entry)
  /-- Nothing is there, in a directory that is. -/
  | free (l : Location)
  deriving Repr

/-- The steps of a path; a slash at the end asks for a directory. -/
def steps (path : String) : List String :=
  (Text.pieces '/' path).filter (· ≠ "") ++ (if path.endsWith "/" then ["."] else [])

/-- Where a path starts. -/
def origin (path : String) (here : Location) : Location :=
  if path.startsWith "/" then [] else here

/-- Follows steps from a directory. The last step's link is followed only if `follow`; what a link
leads to is left to `onLink`. The working directory may be gone: then nothing can be put there. -/
def walkWith (fs : FileSystem) (follow : Bool)
    (onLink : Location → List String → Except FileFault Target) :
    Location → List String → Except FileFault Target
  | l, [] =>
    match fs.at? l with
    | some e => .ok (.entry l e)
    | none => .error .notFound
  | l, name :: rest =>
    if name = "." then walkWith fs follow onLink l rest
    else if name = ".." then walkWith fs follow onLink l.dropLast rest
    else
      let next := l ++ [name]
      match fs.at? next with
      | none => if rest.isEmpty && fs.hasDirectory l then .ok (.free next) else .error .notFound
      | some (.directory _) => walkWith fs follow onLink next rest
      | some (.file c) =>
        if rest.isEmpty then .ok (.entry next (.file c)) else .error .notADirectory
      | some (.link target) =>
        if rest.isEmpty && !follow then .ok (.entry next (.link target))
        else onLink (origin target l) (steps target ++ rest)

/-- How many links one path may lead through. -/
def maxLinks : Nat := 40

/-- Follows steps through at most `links` links. -/
def walkTo (fs : FileSystem) (follow : Bool) :
    Nat → Location → List String → Except FileFault Target
  | 0, _, _ => .error .tooManyLinks
  | links + 1, l, ss => fs.walkWith follow (fs.walkTo follow links) l ss

/-- What a path leads to; the link it ends with is followed only if `follow`. -/
def find (fs : FileSystem) (follow : Bool) (path : String) : Except FileFault Target :=
  if path = "" then .error .notFound
  else fs.walkTo follow (maxLinks + 1) (origin path fs.current) (steps path)

/-! ## Looking -/

/-- The location and entry a path leads to, through links. -/
def locate (fs : FileSystem) (path : String) : Except FileFault (Location × Entry) :=
  match fs.find true path with
  | .ok (.entry l e) => .ok (l, e)
  | .ok (.free _) => .error .notFound
  | .error f => .error f

/-- Whether anything is at a path. -/
def exists? (fs : FileSystem) (path : String) : Bool := (fs.locate path).isOk

/-- Whether a path leads to an entry with a property. -/
def leadsTo (fs : FileSystem) (p : Entry → Bool) (path : String) : Bool :=
  match fs.locate path with
  | .ok (_, e) => p e
  | .error _ => false

def isFile (fs : FileSystem) (path : String) : Bool := fs.leadsTo Entry.isFile path

def isDirectory (fs : FileSystem) (path : String) : Bool := fs.leadsTo Entry.isDirectory path

/-- Whether a path leads to a directory in which nothing can be made. -/
def isReadonly (fs : FileSystem) (path : String) : Bool :=
  fs.leadsTo (fun | .directory readonly => readonly | _ => false) path

/-- The text of a file. -/
def readText (fs : FileSystem) (path : String) : Except FileFault String :=
  match fs.locate path with
  | .ok (_, .file (.text s)) => .ok s
  | .ok (_, .file (.bytes _)) => .error .notText
  | .ok _ => .error .isADirectory
  | .error f => .error f

/-- The names in the directory at a path, and its location. -/
def list (fs : FileSystem) (path : String) : Except FileFault (Location × List String) :=
  match fs.locate path with
  | .ok (l, .directory _) => .ok (l, fs.names l)
  | .ok _ => .error .notADirectory
  | .error f => .error f

/-! ## Changing -/

/-- Makes a directory. -/
def makeDirectory (fs : FileSystem) (path : String) : Except FileFault FileSystem :=
  let trimmed := String.ofList (path.toList.reverse.dropWhile (· == '/')).reverse
  match fs.find false (if trimmed = "" then path else trimmed) with
  | .ok (.free l) => .ok (fs.put l (.directory false))
  | .ok (.entry _ _) => .error .alreadyExists
  | .error f => .error f

/-- Makes a directory and those above it, as many as are missing, and tells what stopped it; those
that were made by then stay. `depth` bounds their number. -/
def makeTreeTo (fs : FileSystem) : Nat → String → FileSystem × Option FileFault
  | 0, _ => (fs, some .noTree)
  | depth + 1, path =>
    if path = "" then (fs, none)
    else
      match fs.makeDirectory path with
      | .ok made => (made, none)
      | .error .notFound =>
        match Path.parent? path with
        | none => (fs, some .noTree)
        | some parent =>
          match fs.makeTreeTo depth parent with
          | (above, some f) => (above, some f)
          | (above, none) =>
            match above.makeDirectory path with
            | .ok made => (made, none)
            | .error f => (above, if above.isDirectory path then none else some f)
      | .error f => (fs, if fs.isDirectory path then none else some f)

/-- Makes a directory and those above it, and tells what stopped it. -/
def makeTree (fs : FileSystem) (path : String) : FileSystem × Option FileFault :=
  fs.makeTreeTo ((Path.components path).length + 1) path

/-- Makes a directory and those above it, or none of them. -/
def makeDirectories (fs : FileSystem) (path : String) : Except FileFault FileSystem :=
  match fs.makeTree path with
  | (made, none) => .ok made
  | (_, some f) => .error f

/-- Writes to a file, which is made if it is not there. -/
def write (fs : FileSystem) (path : String) (c : Content) : Except FileFault FileSystem :=
  match fs.find true path with
  | .ok (.free l) => .ok (fs.put l (.file c))
  | .ok (.entry l (.file _)) => .ok (fs.put l (.file c))
  | .ok (.entry _ _) => .error .isADirectory
  | .error f => .error f

/-- Writes a text to a file, which is made if it is not there. -/
def writeText (fs : FileSystem) (path text : String) : Except FileFault FileSystem :=
  fs.write path (.text text)

/-- Makes a link. -/
def makeLink (fs : FileSystem) (path target : String) : Except FileFault FileSystem :=
  match fs.find false path with
  | .ok (.free l) => .ok (fs.put l (.link target))
  | .ok (.entry _ _) => .error .alreadyExists
  | .error f => .error f

/-- Makes a directory read-only, or writable again. -/
def setReadonly (fs : FileSystem) (path : String) (readonly : Bool) :
    Except FileFault FileSystem :=
  match fs.find true path with
  | .ok (.entry l (.directory _)) => .ok (fs.put l (.directory readonly))
  | .ok (.entry _ _) => .error .notADirectory
  | .ok (.free _) => .error .notFound
  | .error f => .error f

/-- Takes away what a path names, with all below it. -/
def remove (fs : FileSystem) (path : String) : Except FileFault FileSystem :=
  match fs.find false path with
  | .ok (.entry l _) => .ok (fs.removeTree l)
  | .ok (.free _) => .error .notFound
  | .error f => .error f

/-- Takes away a file or a link. -/
def removeFile (fs : FileSystem) (path : String) : Except FileFault FileSystem :=
  match fs.find false path with
  | .ok (.entry _ (.directory _)) => .error .isADirectory
  | .ok (.entry l _) => .ok (fs.removeTree l)
  | .ok (.free _) => .error .notFound
  | .error f => .error f

/-- Whether a path ends with a step that is no name. -/
def endsWithDots (path : String) : Bool :=
  match ((Text.pieces '/' path).filter (· ≠ "")).getLast? with
  | some step => step == "." || step == ".."
  | none => true

/-- Moves a file to another path, over a file or link that is there. -/
def moveFile (fs : FileSystem) (source target : String) : Except FileFault FileSystem :=
  match fs.find false source with
  | .ok (.entry l e) =>
    if endsWithDots target then .error .busy
    else if target.endsWith "/" then .error .notADirectory
    else
      match fs.find false target with
      | .ok (.entry _ (.directory _)) => .error .isADirectory
      | .ok (.entry m _) => .ok ((fs.removeTree l).put m e)
      | .ok (.free m) => .ok ((fs.removeTree l).put m e)
      | .error f => .error f
  | .ok (.free _) => .error .notFound
  | .error f => .error f

end FileSystem

end InterfaceGen
