import InterfaceGen.Diagnostic
import InterfaceGen.Generation.BuiltIn.Rust
import InterfaceGen.Generation.BuiltIn.TypeScript
import InterfaceGen.Model.Basic
import InterfaceGen.Template.Engine

/-!
# Generation/TemplateSet — the templates of a run, and what each is bound to

A set is a directory of templates or a built-in one. Binding gives every kind of entity its
templates; it fails if a file is named for no kind, or if a kind that has local entities is left
without templates.
-/

namespace InterfaceGen

/-! ## Sources of sets -/

/-- Where a template set comes from. -/
inductive TemplateSource where
  | directory (path : String)
  | builtIn (name : String)
  deriving Repr, DecidableEq

namespace TemplateSource

/-- The built-in set that is used when nothing else is asked for. -/
def defaultName : String := "rust"

/-- A directory wins over a built-in set. -/
def ofOptions (directory : Option String) (builtIn : String) : TemplateSource :=
  match directory with
  | some path => .directory path
  | none => .builtIn builtIn

instance : Inhabited TemplateSource := ⟨.builtIn defaultName⟩

end TemplateSource

/-! ## Sets -/

/-- The templates of a set, in the order of their names. -/
structure TemplateSet where
  description : String
  files : List TemplateFile
  deriving Repr

namespace TemplateSet

/-- Why a template set cannot be used. -/
inductive Fault where
  | unknownBuiltIn (name : String)
  | missingDirectory (path : String)
  /-- The directory cannot be searched. -/
  | search (message : String)
  | unreadable (path message : String)
  | engine (description : String) (fault : Engine.Fault)
  deriving Repr, DecidableEq

/-- The built-in sets by all their names. -/
def builtIns : List (String × List TemplateFile) :=
  [("rust", BuiltIn.Rust.files), ("typescript", BuiltIn.TypeScript.files),
    ("ts", BuiltIn.TypeScript.files)]

/-- The names of built-in sets that messages list. -/
def builtInNames : List String := ["rust", "typescript"]

/-- The wording of a fault. -/
def Fault.message : Fault → String
  | .unknownBuiltIn name =>
    "Template set unavailable: unknown built-in template set '" ++ name ++ "' (available: " ++
      ", ".intercalate builtInNames ++ ")"
  | .missingDirectory path =>
    "Template set unavailable: template directory '" ++ path ++ "' does not exist"
  | .search message => "Template set unavailable: " ++ message
  | .unreadable path message =>
    "Template set unavailable: cannot read '" ++ path ++ "': " ++ message
  | .engine description fault =>
    "Template set unavailable: " ++ description ++ ": " ++ fault.message

/-- A set of some files. -/
def ofFiles (description : String) (files : List TemplateFile) : TemplateSet :=
  ⟨description, files.mergeSort fun a b => !decide (b.name < a.name)⟩

/-- The built-in set with a name. -/
def builtIn (name : String) : Except Fault TemplateSet :=
  match builtIns.lookup name with
  | some files => .ok (ofFiles ("built-in '" ++ name ++ "'") files)
  | none => .error (.unknownBuiltIn name)

/-- The engine of the set's templates. -/
def engine (t : TemplateSet) : Except Fault Engine :=
  (Engine.build (t.files.map fun f => (f.name, f.source))).mapError (.engine t.description)

end TemplateSet

/-! ## Binding -/

/-- The templates of each kind: names of files with the kinds they are bound to, in file order. -/
abbrev Binding := List (String × EntityKind)

namespace Binding

/-- The templates of a kind, in the order of their names. -/
def templatesFor (b : Binding) (kind : EntityKind) : List String :=
  (b.filter (·.2 = kind)).map (·.1)

end Binding

namespace TemplateSet

/-- The files that are rendered. -/
def rendered (t : TemplateSet) : List TemplateFile := t.files.filter (!·.isPartial)

/-- What the files of the set would be bound to. -/
def binding (t : TemplateSet) : Binding :=
  t.rendered.filterMap fun f => f.kind?.map (f.name, ·)

/-- The files that are named for no kind. -/
def unknownKinds (t : TemplateSet) : List Diagnostic :=
  (t.rendered.filter fun f => f.kind?.isNone).map fun f => .unknownTemplateKind f.name

/-- The kinds that have local entities and no template. -/
def missingKinds (t : TemplateSet) (m : Model) : List Diagnostic :=
  (EntityKind.all.filter fun kind =>
    (t.binding.templatesFor kind).isEmpty && decide (0 < m.localCount kind)).map .missingTemplate

/-- Binds every file to its kind, or reports all that stands in the way. -/
def bind (t : TemplateSet) (m : Model) : Except (List Diagnostic) Binding :=
  let reported := t.unknownKinds ++ t.missingKinds m
  if reported.isEmpty then .ok t.binding else .error reported

end TemplateSet

end InterfaceGen
