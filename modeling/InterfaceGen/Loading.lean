import InterfaceGen.Diagnostic
import InterfaceGen.Document.Reader
import InterfaceGen.Files.Glob
import InterfaceGen.Files.Walk
import InterfaceGen.Model.Merge

/-!
# Loading — from locations to documents, and on to the model

A location is a file, which is taken as it is, or a directory, whose files count if their names
match the pattern. A file that is found from a primary location is local even if it is also a
dependency. What cannot be read is reported, and the rest is merged all the same.
-/

namespace InterfaceGen

/-- The pattern for file names that is used when nothing else is asked for. -/
def defaultPattern : String := "*.kmd.json"

namespace FileSystem

/-! ## Finding files -/

/-- Whether a path ends with a name that the pattern accepts. -/
def matchesName (g : Glob) (path : String) : Bool :=
  match Path.fileName? path with
  | some name => g.accepts name
  | none => false

/-- The documents below a directory, and what could not be entered. -/
def documentsBelow (fs : FileSystem) (g : Glob) (location : String) :
    List String × List Diagnostic :=
  let met := fs.walk location
  (met.filterMap fun
    | .ok found => if matchesName g found.path then some found.path else none
    | .error _ => none,
  met.filterMap fun
    | .ok _ => none
    | .error fault => some (.input fault.path fault.message))

/-- The documents at a location, and what is wrong with it. -/
def documentsAt (fs : FileSystem) (g : Glob) (location : String) :
    List String × List Diagnostic :=
  if fs.isFile location then ([location], [])
  else if fs.isDirectory location then fs.documentsBelow g location
  else ([], [.input location "no such file or directory"])

/-- The documents at some locations as a set in path order, and what is wrong with the locations. -/
def discover (fs : FileSystem) (g : Glob) (locations : List String) :
    List String × List Diagnostic :=
  let found := locations.map (fs.documentsAt g)
  (Path.ofList (found.flatMap (·.1)), found.flatMap (·.2))

/-! ## Reading documents -/

/-- The document in a file. -/
def readDocument (fs : FileSystem) (path : String) : Except Diagnostic Document :=
  match fs.readText path with
  | .error fault => .error (.input path fault.message)
  | .ok text => (Document.parse text).mapError fun fault => .parse path fault.message

/-- The document in a file, with its origin. -/
def loadDocument (fs : FileSystem) (origin : Origin) (path : String) : Except Diagnostic Loaded :=
  (fs.readDocument path).map (⟨path, origin, ·⟩)

end FileSystem

/-- What was loaded. -/
structure Loading where
  /-- Local documents first, each set in path order. -/
  documents : List Loaded
  reported : List Diagnostic
  warnings : List String

namespace Loading

/-- Locations as messages list them. -/
def listed (locations : List String) : String := ", ".intercalate locations

/-- Loads the documents of primary locations and of dependencies. -/
def ofLocations (fs : FileSystem) (g : Glob) (primary dependencies : List String) : Loading :=
  let (locals, primaryFaults) := fs.discover g primary
  let (others, otherFaults) := fs.discover g dependencies
  let imported := others.filter fun p => !locals.any (Path.same p)
  let results := locals.map (fs.loadDocument .local) ++ imported.map (fs.loadDocument .imported)
  { documents := successes results
    reported := primaryFaults ++ otherFaults ++
      (if locals.isEmpty then [.noDocuments (listed primary)] else []) ++ failures results
    warnings :=
      if !dependencies.isEmpty && others.isEmpty then
        ["No dependency documents found in paths: " ++ listed dependencies]
      else [] }

/-- Whether there is nothing to generate from. -/
def isVoid (l : Loading) : Bool :=
  l.reported.any fun
    | .noDocuments _ => true
    | _ => false

end Loading

/-! ## Building the model -/

/-- What loading and merging yield. The model is there if the documents that could be read fit
together. -/
structure Build where
  model : Option Model
  reported : List Diagnostic
  warnings : List String
  /-- The number of documents that could be read. -/
  count : Nat

namespace Build

def ofLoading (o : Overlay) (l : Loading) : Build :=
  if l.isVoid then ⟨none, l.reported, l.warnings, l.documents.length⟩
  else
    match merge o l.documents with
    | .ok m => ⟨some m, l.reported, l.warnings, l.documents.length⟩
    | .error failed => ⟨none, l.reported ++ failed, l.warnings, l.documents.length⟩

/-- Loads and merges the documents of some locations. -/
def ofLocations (fs : FileSystem) (g : Glob) (o : Overlay) (primary dependencies : List String) :
    Build :=
  ofLoading o (Loading.ofLocations fs g primary dependencies)

/-- Whether there is a model and nothing was reported. -/
def isClean (b : Build) : Bool := b.model.isSome && b.reported.isEmpty

end Build

end InterfaceGen
