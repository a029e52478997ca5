import InterfaceGen.Program

/-!
# Main — the command line

The program does not search the disk itself: the paths of the files below the working directory come
from standard input, one on a line. They are read, the program runs on them, and the files it
changed are written back.
-/

namespace InterfaceGen.Main

/-- The content of some bytes. -/
def contentOf (bytes : ByteArray) : Content :=
  match String.fromUTF8? bytes with
  | some s => .text s
  | none => .bytes bytes.toList

/-- The bytes of a content. -/
def bytesOf : Content → ByteArray
  | .text s => s.toUTF8
  | .bytes b => ⟨b.toArray⟩

/-- The files with one more, and the directories above it. -/
def addFile (fs : FileSystem) (path : String) (c : Content) : FileSystem :=
  let ready := match Path.parent? path with
    | some parent => (fs.makeDirectories parent).toOption.getD fs
    | none => fs
  (ready.write path c).toOption.getD ready

/-- The spelling of a location from the working directory. -/
def spelling (fs : FileSystem) (l : Location) : String := "/".intercalate (l.drop fs.current.length)

/-- The locations of files that are not what they were. -/
def changed (before after : FileSystem) : List (Location × Content) :=
  after.entries.filterMap fun (l, e) =>
    match e with
    | .file c => if before.at? l = some e then none else some (l, c)
    | _ => none

/-- The locations of files that are gone. -/
def gone (before after : FileSystem) : List Location :=
  before.entries.filterMap fun (l, e) =>
    if e.isFile && (after.at? l).isNone then some l else none

/-- The lines of standard input. -/
partial def readLines (input : IO.FS.Stream) (acc : List String) : IO (List String) := do
  let line ← input.getLine
  if line.isEmpty then return acc.reverse
  readLines input (Text.trimmed line :: acc)

/-- Reads the files at some paths. -/
def readFiles (paths : List String) : IO FileSystem :=
  paths.foldlM
    (fun fs (path : String) => do
      let bytes ← IO.FS.readBinFile path
      return addFile fs path (contentOf bytes))
    FileSystem.empty

/-- Brings the disk to where the program left its files. -/
def writeBack (before after : FileSystem) : IO Unit := do
  for l in gone before after do
    IO.FS.removeFile (spelling before l)
  for (l, c) in changed before after do
    let path := spelling before l
    match Path.parent? path with
    | some parent => if parent ≠ "" then IO.FS.createDirAll parent
    | none => pure ()
    IO.FS.writeBinFile path (bytesOf c)

/-- Prints a line on its stream. -/
def printLine (l : Line) : IO Unit :=
  match l.stream with
  | .output => IO.print l.text
  | .errors => IO.eprint l.text

end InterfaceGen.Main

/-- Runs the program on the files named on standard input. -/
def main (args : List String) : IO UInt32 := do
  let paths ← InterfaceGen.Main.readLines (← IO.getStdin) []
  let before ← InterfaceGen.Main.readFiles (paths.filter (· ≠ ""))
  let outcome := InterfaceGen.Program.run before args
  InterfaceGen.Main.writeBack before outcome.files
  outcome.log.forM InterfaceGen.Main.printLine
  return outcome.code.toUInt32
