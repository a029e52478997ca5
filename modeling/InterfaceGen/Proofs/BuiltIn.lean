import InterfaceGen.Generation.TemplateSet
import InterfaceGen.Proofs.Context
import InterfaceGen.Proofs.Jobs
import InterfaceGen.Proofs.Template.Opening
import Mathlib.Data.List.FinRange

/-!
# Proofs/BuiltIn — the templates of the built-in sets pass the check

Each of the built-in sets is read, sorted and checked once. It can be bound to every model, since it
has a template for every kind; each of its templates passes the check for its kind, and starts with
the line that the language lays down. Main statements: `Language.bind_builtIn`,
`Language.exists_engine`.
-/

namespace InterfaceGen

open Template (LinePart OpeningLine)

/-! ## Reading sources -/

/-- The template that some characters hold. -/
def Template.ofChars? (name : String) (cs : List Char) : Option Template := do
  let tags ← (pieces? (cs.length + 1) cs).map (trimmedTags false)
  let (imports, tags) := splitImports tags.length tags
  let draft ← Draft.empty.pushAll tags
  if draft.blocks.isEmpty then
    return ⟨name, draft.nodes.reverse, draft.macros, imports⟩
  else none

theorem Template.parse?_eq (name source : String) :
    parse? name source = ofChars? name source.toList := rfl

/-- The characters of whole lines are those of the lines, each with a line break. -/
theorem TemplateFile.toList_lines {ls : List String} {css : List (List Char)}
    (h : List.Forall₂ (fun l cs => l = String.ofList cs) ls css) :
    (TemplateFile.lines ls).toList = css.flatMap (· ++ ['\n']) := by
  have hjoin : ∀ ts : List (List Char), [].intercalate ts = ts.flatten := fun ts => by
    induction ts with
    | nil => rfl
    | cons t ts ih => cases ts <;> simp_all [List.intercalate, List.intersperse]
  rw [lines, String.toList_intercalate, String.toList_empty, hjoin]
  induction h with
  | nil => rfl
  | cons heq h ih => rw [List.map_cons, List.map_cons, List.flatten_cons, ih, heq]; simp

namespace Engine

/-- The engine of some sources, given as characters. -/
def ofChars? (sources : List (String × List Char)) : Option Engine :=
  (sources.mapM fun (name, cs) => Template.ofChars? name cs).map (⟨·⟩)

theorem readAll_of_mapM {sources : List (String × String)} {ts : List Template}
    (h : (sources.map fun (name, source) => (name, source.toList)).mapM
      (fun (name, cs) => Template.ofChars? name cs) = some ts) : readAll sources = .ok ts := by
  induction sources generalizing ts with
  | nil =>
    obtain rfl : [] = ts := by simpa using h
    rfl
  | cons source sources ih =>
    simp only [List.map_cons, List.mapM_cons, Option.bind_eq_bind, Option.bind_eq_some_iff] at h
    obtain ⟨t, ht, rest, hrest, heq⟩ := h
    obtain rfl := Option.some.inj heq
    simp [readAll, Template.parse?_eq, ht, ih hrest, bind, Except.bind, pure, Except.pure]

/-- **An engine in which nothing is missing is built of its sources.** -/
theorem build_of_ofChars {sources : List (String × String)} {e : Engine}
    (h : ofChars? (sources.map fun (name, source) => (name, source.toList)) = some e)
    (himports : e.missingImport? = none) : build sources = .ok e := by
  obtain ⟨ts, hts, rfl⟩ := Option.map_eq_some_iff.1 h
  simp [build, readAll_of_mapM hts, himports, bind, Except.bind, pure, Except.pure]

end Engine

/-! ## Sets in order -/

namespace Language

/-- The files of a language's set, in the order in which they are listed. -/
def sources : Language → List TemplateFile
  | .rust => BuiltIn.Rust.files
  | .typescript => BuiltIn.TypeScript.files

/-- The files of a language's set, in the order of their names. -/
def files : Language → List TemplateFile
  | .rust => [⟨"alias.tera", BuiltIn.Rust.aliasType⟩,
    ⟨"complexType.tera", BuiltIn.Rust.complexType⟩, ⟨"enumType.tera", BuiltIn.Rust.enumType⟩,
    ⟨"event.tera", BuiltIn.Rust.event⟩, ⟨"module.tera", BuiltIn.Rust.module⟩,
    ⟨"partials/fields.tera", BuiltIn.Rust.fields⟩, ⟨"partials/header.tera", BuiltIn.Rust.header⟩,
    ⟨"remoteClass.tera", BuiltIn.Rust.remoteClass⟩]
  | .typescript => [⟨"alias.tera", BuiltIn.TypeScript.aliasType⟩,
    ⟨"complexType.tera", BuiltIn.TypeScript.complexType⟩,
    ⟨"enumType.tera", BuiltIn.TypeScript.enumType⟩, ⟨"event.tera", BuiltIn.TypeScript.event⟩,
    ⟨"module_index.tera", BuiltIn.TypeScript.moduleIndex⟩,
    ⟨"partials/header.tera", BuiltIn.TypeScript.header⟩,
    ⟨"remoteClass.tera", BuiltIn.TypeScript.remoteClass⟩,
    ⟨"remoteClass_factory.tera", BuiltIn.TypeScript.remoteClassFactory⟩]

/-- The templates of a language's set, and the kinds they are bound to. -/
def binding : Language → Binding
  | .rust => [("alias.tera", .alias), ("complexType.tera", .complexType),
    ("enumType.tera", .enumType), ("event.tera", .event), ("module.tera", .module),
    ("remoteClass.tera", .remoteClass)]
  | .typescript => [("alias.tera", .alias), ("complexType.tera", .complexType),
    ("enumType.tera", .enumType), ("event.tera", .event), ("module_index.tera", .module),
    ("remoteClass.tera", .remoteClass), ("remoteClass_factory.tera", .remoteClass)]

/-- A language's set by one of its names. -/
def builtIn (l : Language) (name : String) : TemplateSet := ⟨"built-in '" ++ name ++ "'", l.files⟩

end Language

/-- Files whose names ascend are what they are sorted to, in whatever order they come. -/
theorem TemplateSet.ofFiles_eq {files sorted : List TemplateFile} (hp : files.Perm sorted)
    (h : sorted.Pairwise (·.name < ·.name)) (description : String) :
    ofFiles description files = ⟨description, sorted⟩ := by
  have hle : ∀ a b : TemplateFile, (!decide (b.name < a.name)) = true ↔ a.name ≤ b.name :=
    fun a b => by rw [Bool.not_eq_true', decide_eq_false_iff_not, not_lt]
  have hnames : (sorted.map (·.name)).Nodup := List.pairwise_map.2 (h.imp ne_of_lt)
  have hperm := (List.mergeSort_perm files fun a b => !decide (b.name < a.name)).trans hp
  have hsorted := List.pairwise_mergeSort (trans_key TemplateFile.name)
    (total_key TemplateFile.name) files
  rw [ofFiles, hperm.eq_of_pairwise (fun a b ha hb hab hba => ?_) hsorted
    (h.imp fun hlt => (hle _ _).2 hlt.le)]
  exact List.inj_on_of_nodup_map hnames (hperm.mem_iff.1 ha) hb
    (le_antisymm ((hle a b).1 hab) ((hle b a).1 hba))

namespace Language

variable {l : Language} {name : String}

theorem perm_files (l : Language) : l.sources.Perm l.files := by
  have hrust : (List.finRange 8).Perm [4, 2, 3, 5, 0, 7, 6, 1] := by decide
  have htypescript : (List.finRange 8).Perm [5, 3, 4, 6, 0, 7, 1, 2] := by decide
  cases l with
  | rust => exact hrust.map BuiltIn.Rust.files.get
  | typescript => exact htypescript.map BuiltIn.TypeScript.files.get

theorem ascending_files (l : Language) : l.files.Pairwise (·.name < ·.name) := by
  have h : (l.files.map (·.name)).Pairwise (· < ·) := by
    cases l <;> decide +kernel
  exact List.pairwise_map.1 h

/-- **A name of a language is a name of its built-in set.** -/
theorem builtIn_eq (h : ofName? name = some l) :
    TemplateSet.builtIn name = .ok (l.builtIn name) := by
  have hfiles : TemplateSet.builtIns.lookup name = some l.sources := by
    have hmap := Table.find?_map (fun _ => sources) name words
    rw [show Table.find? name words = some l from h] at hmap
    exact hmap
  rw [TemplateSet.builtIn, hfiles]
  exact congrArg Except.ok (TemplateSet.ofFiles_eq l.perm_files l.ascending_files _)

/-- **A built-in set can be bound to every model.** -/
theorem bind_builtIn (l : Language) (name : String) (m : Model) :
    (l.builtIn name).bind m = .ok l.binding := by
  have hunknown : (l.builtIn name).unknownKinds = [] := by
    have h : ((l.files.filter (!·.isPartial)).filter (·.kind?.isNone)).isEmpty = true := by
      cases l <;> decide +kernel
    rw [TemplateSet.unknownKinds, List.map_eq_nil_iff]
    exact List.isEmpty_iff.1 h
  have hbinding : (l.builtIn name).binding = l.binding := by
    have h : ((l.files.filter (!·.isPartial)).filterMap fun f => f.kind?.map (f.name, ·)) =
        l.binding := by cases l <;> decide +kernel
    exact h
  have hmissing : (l.builtIn name).missingKinds m = [] := by
    have h : EntityKind.all.all (fun kind => !(l.binding.templatesFor kind).isEmpty) = true := by
      cases l <;> decide
    rw [TemplateSet.missingKinds, hbinding, List.map_eq_nil_iff, List.filter_eq_nil_iff]
    intro kind hkind
    have hsome := List.all_eq_true.1 h kind hkind
    simp only [Bool.not_eq_true'] at hsome
    simp [hsome]
  exact TemplateSet.bind_eq_ok_iff.2 ⟨⟨hunknown, hmissing⟩, hbinding⟩

end Language

/-! ## First lines -/

/-- The name of the template for the factory of a remote class. -/
def factoryTemplate : String := "remoteClass_factory.tera"

namespace Language

/-- Characters of a line. -/
def chars (s : String) : LinePart := .chars s.toList

/-- A name in a line, as it is. -/
def plain (path : String) : LinePart := .value path none

/-- A name in a line, in snake case. -/
def snake (path : String) : LinePart := .value path (some "snake_case")

/-- The line that a language's template for types starts with. -/
def typeOpening (l : Language) (template : String) : OpeningLine :=
  match l with
  | .rust =>
    ⟨none, [chars "src/", snake "module.name", chars "/", snake "entity.name", chars ".rs"]⟩
  | .typescript =>
    if template = factoryTemplate then
      ⟨some "entity.isAbstract", [plain "module.name", chars "/create", plain "entity.className",
        chars ".ts"]⟩
    else ⟨none, [plain "module.name", chars "/", plain "entity.className", chars ".ts"]⟩

/-- The line that a language's template of a kind starts with. -/
def opening (l : Language) (kind : EntityKind) (template : String) : OpeningLine :=
  match l, kind with
  | .rust, .module => ⟨none, [chars "src/", snake "module.name", chars "/mod.rs"]⟩
  | .typescript, .module => ⟨none, [plain "module.name", chars "/index.ts"]⟩
  | .rust, .event =>
    ⟨none, [chars "src/", snake "module.name", chars "/events/", snake "entity.qualifiedName",
      chars ".rs"]⟩
  | .typescript, .event =>
    ⟨none, [plain "module.name", chars "/events/", plain "entity.qualifiedName", chars ".ts"]⟩
  | l, _ => l.typeOpening template

end Language

/-! ## The check -/

namespace Engine

/-- How deep the built-in templates nest macros and files. -/
def builtInDepth : Nat := 4

/-- Whether a template passes the check for a kind and starts with the line of a language. -/
def serves (e : Engine) (l : Language) (template : String) (kind : EntityKind) : Bool :=
  match e.template? template with
  | some t => Template.isSafeTo e builtInDepth template kind.env t.nodes &&
      decide (Template.opening? t.nodes = some (l.opening kind template))
  | none => false

/-- Every template that a language binds to a kind passes the check for it and starts with its
line. -/
def Checked (e : Engine) (l : Language) : Prop :=
  ∀ template kind, (template, kind) ∈ l.binding → ∃ t, e.template? template = some t ∧
    Template.isSafeTo e builtInDepth template kind.env t.nodes = true ∧
    Template.opening? t.nodes = some (l.opening kind template)

/-- Whether the sources of a language make an engine that serves all its kinds. -/
def passes (l : Language) (sources : List (String × List Char)) : Bool :=
  (ofChars? sources).any fun e => e.missingImport?.isNone &&
    l.binding.all fun (template, kind) => e.serves l template kind

end Engine

namespace Language

/-- The files of a language's set with their characters. -/
def characters (l : Language) : List (String × List Char) :=
  l.files.map fun f => (f.name, f.source.toList)

set_option maxRecDepth 20000 in
theorem passes_rust : Engine.passes .rust (characters .rust) = true := by
  simp only [characters, files, List.map_cons, List.map_nil, BuiltIn.Rust.aliasType,
    BuiltIn.Rust.complexType, BuiltIn.Rust.enumType, BuiltIn.Rust.event, BuiltIn.Rust.module,
    BuiltIn.Rust.fields, BuiltIn.Rust.header, BuiltIn.Rust.remoteClass]
  iterate 8 rw [TemplateFile.toList_lines (by repeat' constructor)]
  decide +kernel

set_option maxRecDepth 20000 in
theorem passes_typescript : Engine.passes .typescript (characters .typescript) = true := by
  simp only [characters, files, List.map_cons, List.map_nil, BuiltIn.TypeScript.aliasType,
    BuiltIn.TypeScript.complexType, BuiltIn.TypeScript.enumType, BuiltIn.TypeScript.event,
    BuiltIn.TypeScript.moduleIndex, BuiltIn.TypeScript.header, BuiltIn.TypeScript.remoteClass,
    BuiltIn.TypeScript.remoteClassFactory]
  iterate 8 rw [TemplateFile.toList_lines (by repeat' constructor)]
  decide +kernel

/-- **The templates of a built-in set make an engine in which each of them passes the check**, and
starts with its line. -/
theorem exists_engine (l : Language) (name : String) :
    ∃ e, (l.builtIn name).engine = .ok e ∧ e.Checked l := by
  have hpasses : Engine.passes l l.characters = true := by
    cases l
    · exact passes_rust
    · exact passes_typescript
  rw [Engine.passes, Option.any_eq_true] at hpasses
  obtain ⟨e, he, hpasses⟩ := hpasses
  obtain ⟨himports, hserves⟩ := Bool.and_eq_true_iff.1 hpasses
  refine ⟨e, ?_, fun template kind hmem => ?_⟩
  · have hsources : (((l.builtIn name).files.map fun f => (f.name, f.source)).map
        fun (name, source) => (name, source.toList)) = l.characters := List.map_map
    rw [TemplateSet.engine, Engine.build_of_ofChars (hsources ▸ he)
      (Option.isNone_iff_eq_none.1 himports)]
    rfl
  · have h : e.serves l template kind = true := List.all_eq_true.1 hserves _ hmem
    rw [Engine.serves] at h
    split at h
    · next t ht =>
      obtain ⟨hsafe, hline⟩ := Bool.and_eq_true_iff.1 h
      exact ⟨t, ht, hsafe, of_decide_eq_true hline⟩
    · cases h

end Language

end InterfaceGen
