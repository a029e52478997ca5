import InterfaceGen.Text.Split
import InterfaceGen.Types.Basic

/-!
# Generation/TemplateFile — a template's file name tells what it is for

The name up to the first underscore or point is the kind of entity the template is rendered for.
Files in a directory `partials`, and those that start with an underscore, are only there to be used
by others.
-/

namespace InterfaceGen

/-- A template source, named by its path below the root of its set. -/
structure TemplateFile where
  name : String
  source : String
  deriving Repr, DecidableEq

namespace TemplateFile

/-- A source of whole lines. -/
def lines (ls : List String) : String := "".intercalate (ls.map (· ++ "\n"))

/-- The directory whose files are all partial. -/
def partialsDirectory : String := "partials"

/-- The last part of the name. -/
def fileName (f : TemplateFile) : String := ((Text.pieces '/' f.name).getLast?).getD f.name

/-- Whether the file is never rendered on its own. -/
def isPartial (f : TemplateFile) : Bool :=
  f.fileName.startsWith "_" || (Text.pieces '/' f.name).contains partialsDirectory

/-- The part of the file name that names a kind. -/
def kindWord (f : TemplateFile) : String :=
  String.ofList (f.fileName.toList.takeWhile fun c => c != '_' && c != '.')

/-- The kind of entity the file is named for. -/
def kind? (f : TemplateFile) : Option EntityKind := EntityKind.ofName? f.kindWord

end TemplateFile

end InterfaceGen
