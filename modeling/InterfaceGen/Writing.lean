import InterfaceGen.Diagnostic
import InterfaceGen.Document.Writer
import InterfaceGen.Files.System
import InterfaceGen.Generation.Rendering
import InterfaceGen.Model.Export

/-!
# Writing — rendered files and exported documents on their way to the file system

A file is written beside its destination first and then moved there, so that nobody sees half of it.
One that fails is reported and the others are still written.
-/

namespace InterfaceGen

/-! ## Rendered files -/

/-- How files reach the output root. -/
structure WriteOptions where
  /-- Empty the root first. -/
  delete : Bool
  /-- Leave files that are there alone. -/
  keep : Bool
  deriving Repr, DecidableEq

/-- What became of the files, their paths below the root. -/
structure Written where
  written : List String
  skipped : List String
  reported : List Diagnostic
  deriving Repr

namespace FileSystem

/-- The name under which a file is written before it is moved. -/
def draftName (path : String) : String :=
  "." ++ (Path.fileName? path).getD "" ++ ".kmd-tmp"

/-- Makes the directory of a path if it is not there, and tells what stopped it. -/
def withParent (fs : FileSystem) (path : String) : FileSystem × Option FileFault :=
  match Path.parent? path with
  | some parent => if fs.exists? parent then (fs, none) else fs.makeTree parent
  | none => (fs, none)

/-- Writes a file beside its path and moves it there; also the file system that is left if this
fails. -/
def writeWhole (fs : FileSystem) (path text : String) : FileSystem × Option FileFault :=
  match fs.withParent path with
  | (ready, some fault) => (ready, some fault)
  | (ready, none) =>
    let draft := Path.withFileName path (draftName path)
    match ready.writeText draft text with
    | .error fault => (ready, some fault)
    | .ok drafted =>
      match drafted.moveFile draft path with
      | .ok moved => (moved, none)
      | .error fault => (((drafted.removeFile draft).toOption).getD drafted, some fault)

/-- Empties a directory, which itself stays. -/
def clear (fs : FileSystem) (root : String) : FileSystem × List Diagnostic :=
  match fs.list root with
  | .error .notFound => (fs, [])
  | .error fault => (fs, [.write root fault.message])
  | .ok (l, names) => (names.foldl (fun fs name => fs.removeTree (l ++ [name])) fs, [])

/-- Writes one file below the root. -/
def writeOne (fs : FileSystem) (root : String) (keep : Bool) (path text : String) :
    FileSystem × Written :=
  let destination := Path.join root path
  if keep && fs.exists? destination then (fs, ⟨[], [path], []⟩)
  else
    match fs.writeWhole destination text with
    | (fs, none) => (fs, ⟨[path], [], []⟩)
    | (fs, some fault) => (fs, ⟨[], [], [.write destination fault.message]⟩)

/-- Writes files below the root in order. -/
def writeEach (fs : FileSystem) (root : String) (keep : Bool) :
    List (String × String) → FileSystem × Written
  | [] => (fs, ⟨[], [], []⟩)
  | (path, text) :: rest =>
    let (fs, first) := fs.writeOne root keep path text
    let (fs, others) := writeEach fs root keep rest
    (fs, ⟨first.written ++ others.written, first.skipped ++ others.skipped,
      first.reported ++ others.reported⟩)

/-- Writes files below the root, which is emptied first if the options say so. -/
def writeAll (fs : FileSystem) (root : String) (options : WriteOptions)
    (files : List (String × String)) : FileSystem × Written :=
  let (fs, cleared) := if options.delete then fs.clear root else (fs, [])
  let (fs, w) := fs.writeEach root options.keep files
  (fs, { w with reported := cleared ++ w.reported })

/-! ## Exported documents -/

/-- The text of a module's document. -/
def documentText (m : ModuleDef) : String := m.toDocument.toJson.pretty ++ "\n"

/-- Writes the documents of some modules into a directory. -/
def exportEach (fs : FileSystem) (directory : String) :
    List ModuleDef → FileSystem × List String × List Diagnostic
  | [] => (fs, [], [])
  | m :: rest =>
    let path := Path.join directory (m.name ++ ".kmd.json")
    match fs.writeText path (documentText m) with
    | .ok fs =>
      let (fs, written, reported) := exportEach fs directory rest
      (fs, path :: written, reported)
    | .error fault =>
      let (fs, written, reported) := exportEach fs directory rest
      (fs, written, .exportModel path fault.message :: reported)

/-- Writes the documents of all modules into a directory, which is made if it is not there. -/
def exportModel (fs : FileSystem) (m : Model) (directory : String) :
    FileSystem × Except (List Diagnostic) (List String) :=
  match fs.makeTree directory with
  | (fs, some fault) => (fs, .error [.exportModel directory fault.message])
  | (fs, none) =>
    let (fs, written, reported) := fs.exportEach directory m.modules.values
    (fs, if reported.isEmpty then .ok written else .error reported)

end FileSystem

end InterfaceGen
