import InterfaceGen.Generation.Entity
import InterfaceGen.Generation.Filters
import InterfaceGen.Generation.TemplateSet
import InterfaceGen.Files.Path

/-!
# Generation/Rendering — the files that templates yield for local entities

Every template is rendered for every local entity of its kind. The first line of its text is the
file's path below the output root and the rest is the content; a blank first line means no file. A
pair that fails is reported and the others still count, and two pairs may not yield the same file.
-/

namespace InterfaceGen

/-! ## Jobs -/

/-- A template to be rendered for an entity of a module. -/
structure Job where
  template : String
  module : ModuleDef
  entity : Entity
  deriving Repr

namespace Job

/-- The jobs of an entity: one for each template of its kind. -/
def ofEntity (b : Binding) (d : ModuleDef) (e : Entity) : List Job :=
  (b.templatesFor e.kind).map (⟨·, d, e⟩)

/-- The jobs of a module and what it declares. -/
def ofModule (b : Binding) (d : ModuleDef) : List Job := d.entities.flatMap (ofEntity b d)

/-- The jobs of a model: modules in dependency order. -/
def ofModel (m : Model) (b : Binding) : List Job := m.localModules.flatMap (ofModule b)

/-- The values a template is given: the entity under two names, its module, the whole model, the
generation parameters and the program. -/
def values (model : Json) (o : Overlay) (j : Job) : Json.Members :=
  Json.Members.set j.entity.kind.name j.entity.context
    [("module", j.module.context), ("model", model),
      ("config", o.resolve j.module.name j.module.valueSpace),
      ("generator", Generator.current.toJson), ("entity", j.entity.context)]

end Job

/-! ## Destinations -/

/-- Why a destination is refused. -/
inductive DestinationFault where
  | leavesRoot (destination : String)
  | notRelative (destination : String)
  | noFile (destination : String)
  deriving Repr, DecidableEq

/-- The wording of a fault. -/
def DestinationFault.message : DestinationFault → String
  | .leavesRoot d => "destination '" ++ d ++ "' must not contain '..'"
  | .notRelative d => "destination '" ++ d ++ "' must be a relative path"
  | .noFile d => "destination '" ++ d ++ "' names no file"

/-- The names among some components, unless one of them leads elsewhere. -/
def destinationNames (destination : String) :
    List Component → Except DestinationFault (List Component)
  | [] => .ok []
  | .normal name :: rest => (destinationNames destination rest).map (.normal name :: ·)
  | .current :: rest => destinationNames destination rest
  | .parent :: _ => .error (.leavesRoot destination)
  | .root :: _ => .error (.notRelative destination)

/-- The path of a destination, which stays below the output root. -/
def destinationPath (destination : String) : Except DestinationFault String := do
  let names ← destinationNames destination (Path.components destination)
  if names.isEmpty then throw (.noFile destination) else return Path.ofComponents names

/-- **A destination that is accepted is made of names only.** -/
theorem destinationNames_normal {destination : String} {cs names : List Component}
    (h : destinationNames destination cs = .ok names) :
    ∀ c ∈ names, ∃ name, c = .normal name := by
  induction cs generalizing names with
  | nil =>
    obtain rfl : [] = names := by simpa [destinationNames] using h
    simp
  | cons c rest ih =>
    cases c with
    | root => simp [destinationNames] at h
    | parent => simp [destinationNames] at h
    | current => exact ih (by simpa [destinationNames] using h)
    | normal name =>
      simp only [destinationNames] at h
      cases hr : destinationNames destination rest with
      | error f => simp [hr, Except.map] at h
      | ok others =>
        obtain rfl : .normal name :: others = names := by simpa [hr, Except.map] using h
        intro c hc
        rcases List.mem_cons.1 hc with rfl | hc
        · exact ⟨name, rfl⟩
        · exact ih hr c hc

/-! ## Results -/

/-- A file that was rendered and is not written yet. -/
structure OutputFile where
  path : String
  content : String
  template : String
  entity : String
  deriving Repr, DecidableEq

/-- What became of a job. -/
inductive JobResult where
  | produced (file : OutputFile)
  | nothing (template entity : String)
  | failed (reported : Diagnostic)
  deriving Repr

namespace Job

/-- The file that a rendered text stands for, if any. -/
def ofText (j : Job) (text : String) : JobResult :=
  let (first, rest) := Text.firstLine text.toList
  let destination := String.ofList (Text.trim first)
  if destination = "" then .nothing j.template j.entity.words
  else
    match destinationPath destination with
    | .error fault => .failed (.render j.template j.entity.words fault.message)
    | .ok path =>
      .produced ⟨path, String.ofList (rest.getD []), j.template, j.entity.words⟩

/-- What a job yields by itself, given what its template yields. -/
def result (j : Job) : Except String String → JobResult
  | .error message => .failed (.render j.template j.entity.words message)
  | .ok text => j.ofText text

end Job

namespace JobResult

/-- The report on a file whose path another one has already. -/
def duplicate (file first : OutputFile) : Diagnostic :=
  .render file.template file.entity
    ("destination '" ++ file.path ++ "' is already produced by '" ++ first.template ++ "' for " ++
      first.entity)

/-- The results in order, every file whose path was produced before refused. -/
def refuseDuplicates : List OutputFile → List JobResult → List JobResult
  | _, [] => []
  | earlier, .produced file :: rest =>
    match earlier.find? (·.path == file.path) with
    | some first => .failed (duplicate file first) :: refuseDuplicates earlier rest
    | none => .produced file :: refuseDuplicates (file :: earlier) rest
  | earlier, r :: rest => r :: refuseDuplicates earlier rest

def file? : JobResult → Option OutputFile
  | .produced file => some file
  | _ => none

def reported? : JobResult → Option Diagnostic
  | .failed reported => some reported
  | _ => none

/-- **No two files are produced at one path** — nor at the path of an earlier one. -/
theorem nodup_paths_refuseDuplicates (earlier : List OutputFile) (rs : List JobResult) :
    (((refuseDuplicates earlier rs).filterMap file?).map (·.path)).Nodup ∧
      ∀ p ∈ ((refuseDuplicates earlier rs).filterMap file?).map (·.path),
        p ∉ earlier.map (·.path) := by
  induction rs generalizing earlier with
  | nil => simp [refuseDuplicates]
  | cons r rest ih =>
    cases r with
    | nothing t e => exact ih earlier
    | failed d => exact ih earlier
    | produced file =>
      simp only [refuseDuplicates]
      cases hf : earlier.find? (·.path == file.path) with
      | some first => exact ih earlier
      | none =>
        obtain ⟨hnodup, hnew⟩ := ih (file :: earlier)
        have hfresh : file.path ∉ earlier.map (·.path) := by
          intro hmem
          obtain ⟨g, hg, hpath⟩ := List.mem_map.1 hmem
          have := List.find?_eq_none.1 hf g hg
          simp [hpath] at this
        simp only [List.filterMap_cons, file?, List.map_cons, List.nodup_cons, List.mem_cons,
          forall_eq_or_imp]
        refine ⟨⟨fun hmem => ?_, hnodup⟩, hfresh, fun p hp => ?_⟩
        · have := hnew _ hmem
          simp at this
        · have := hnew p hp
          simp only [List.map_cons, List.mem_cons, not_or] at this
          exact this.2

end JobResult

/-- What some jobs yield, one result for each, if `render` is what their templates yield. -/
def collect (render : Job → Except String String) (jobs : List Job) : List JobResult :=
  JobResult.refuseDuplicates [] (jobs.map fun j => j.result (render j))

/-- Everything that rendering yields, job by job. -/
def renderAll (e : Engine) (m : Model) (o : Overlay) (b : Binding) : List JobResult :=
  let model := m.toJson
  let c := templateCalls m o
  collect (fun j => e.render c j.template (j.values model o)) (Job.ofModel m b)

end InterfaceGen
