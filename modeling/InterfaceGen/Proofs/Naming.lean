import InterfaceGen.Proofs.BuiltIn
import InterfaceGen.Proofs.ModelOutput
import InterfaceGen.Proofs.Outcomes
import InterfaceGen.Proofs.Words

/-!
# Proofs/Naming — where the built-in sets put the files of an entity

The path of a file is spelled by the names of the module and the entity, in the case that the
language asks for. A merged model has identifiers for names, so that each of these paths leads below
the output root, whatever the names are; only the factory of an abstract class has none. Main
statements: `Job.text_opening`, `Job.Named.resolves_destination` and `Job.Named.shares_iff`.
-/

namespace InterfaceGen

open Template (LinePart OpeningLine lineText)

/-- A text without white space is not trimmed. -/
theorem Text.trim_eq_self {cs : List Char} (h : ∀ c ∈ cs, isBlank c = false) : trim cs = cs := by
  have hdrop : ∀ {ds : List Char}, (∀ c ∈ ds, isBlank c = false) → ds.dropWhile isBlank = ds := by
    intro ds hds
    cases ds with
    | nil => rfl
    | cons d ds => rw [List.dropWhile_cons_of_neg (by rw [hds d List.mem_cons_self]; decide)]
  rw [trim, trimStart, trimEnd, hdrop h, hdrop fun c hc => h c (List.mem_reverse.1 hc),
    List.reverse_reverse]

/-! ## Paths spelled by segments -/

namespace Path

/-- A text is made of dots and of what may stand in an identifier. -/
def Spelled (s : String) : Prop := ∀ c ∈ s.toList, isIdentifierRest c = true ∨ c = '.'

instance (s : String) : Decidable (Spelled s) :=
  List.decidableBAll (fun c => isIdentifierRest c = true ∨ c = '.') s.toList

/-- A segment that can stand in a destination: it has no white space and no slash, and does not
stand for a directory itself or for the one above. -/
structure Segment (s : String) : Prop where
  spelled : Spelled s
  plain : s ≠ "." ∧ s ≠ ".."

variable {s first suffix : String} {segments : List String}

theorem Spelled.append (h : Spelled s) (hsuffix : Spelled suffix) : Spelled (s ++ suffix) := by
  rw [Spelled, String.toList_append]
  exact List.forall_mem_append.2 ⟨h, hsuffix⟩

theorem Spelled.ascii (h : Spelled s) : Text.Ascii s.toList := by
  intro c hc
  rcases h c hc with hrest | rfl
  · have hcode := toNat_of_isIdentifierRest hrest
    omega
  · decide

theorem Spelled.pascalCase (h : Spelled s) : Spelled (Text.pascalCase s) :=
  fun c hc => .inl (Text.isIdentifierRest_of_mem_pascalCase h.ascii c hc)

theorem Spelled.snakeCase (h : Spelled s) : Spelled (Text.snakeCase s) :=
  fun c hc => .inl (Text.isIdentifierRest_of_mem_snakeCase h.ascii c hc)

theorem spelled_of_isIdentifier (h : isIdentifier s = true) : Spelled s :=
  fun c hc => .inl (isIdentifierRest_of_mem h c hc)

/-- A name in snake case has no dot. -/
theorem segment_snakeCase (h : Spelled s) : Segment (Text.snakeCase s) := by
  have hdot : '.' ∉ (Text.snakeCase s).toList := fun hmem =>
    absurd (Text.isIdentifierRest_of_mem_snakeCase h.ascii '.' hmem) (by decide)
  refine ⟨h.snakeCase, fun heq => ?_, fun heq => ?_⟩ <;>
    exact hdot (by rw [heq]; decide)

/-- What ends in something else than a dot is a segment. -/
theorem segment_append (h : Spelled s) (hsuffix : Spelled suffix)
    (hlast : suffix.toList.getLast?.any (· ≠ '.') = true) : Segment (s ++ suffix) := by
  have hend : (s ++ suffix).toList.getLast? ≠ some '.' := by
    rw [String.toList_append, List.getLast?_append]
    cases hs : suffix.toList.getLast? with
    | none => rw [hs] at hlast; cases hlast
    | some c =>
      rw [hs] at hlast
      rintro heq
      obtain rfl : c = '.' := Option.some.inj heq
      exact absurd hlast (by decide)
  refine ⟨h.append hsuffix, fun heq => ?_, fun heq => ?_⟩ <;>
    exact hend (by rw [heq]; decide)

/-- The name of a module is a segment, and not empty. -/
theorem segment_of_isModuleName (h : isModuleName s = true) : Segment s ∧ s ≠ "" := by
  obtain ⟨c, rest, hs, hc⟩ := head_of_isModuleNameChars h
  have hspelled : Spelled s := fun d hd =>
    (Text.mem_splitOn_of_mem hd).symm.imp_left fun ⟨w, hw, hmem⟩ =>
      isIdentifierRest_of_mem (List.all_eq_true.1 h w hw) d hmem
  have hne : ∀ other : String, other.toList.head?.all (!isIdentifierStart ·) = true →
      s ≠ other := by
    rintro other hother rfl
    rw [hs, List.head?_cons, Option.all_some, hc] at hother
    cases hother
  exact ⟨⟨hspelled, hne "." (by decide), hne ".." (by decide)⟩, hne "" (by decide)⟩

theorem Segment.slash_not_mem (h : Segment s) : '/' ∉ s.toList :=
  fun hmem => absurd (h.spelled _ hmem) (by decide)

theorem pieces_intercalate (h : ∀ s ∈ first :: segments, '/' ∉ s.toList) :
    Text.pieces '/' ("/".intercalate (first :: segments)) = first :: segments := by
  induction segments generalizing first with
  | nil =>
    rw [String.intercalate_singleton, Text.pieces_of_not_mem (h first List.mem_cons_self)]
  | cons second segments ih =>
    obtain ⟨hfirst, hrest⟩ := List.forall_mem_cons.1 h
    rw [String.intercalate_cons_cons, Text.pieces_append_slash, ih hrest,
      Text.pieces_of_not_mem hfirst, List.singleton_append]

theorem filterMap_ofPiece? (h : ∀ s ∈ segments, Segment s) :
    segments.filterMap Component.ofPiece? = (segments.filter (· ≠ "")).map .normal := by
  induction segments with
  | nil => rfl
  | cons s segments ih =>
    obtain ⟨hs, hrest⟩ := List.forall_mem_cons.1 h
    by_cases hempty : s = ""
    · rw [List.filterMap_cons_none (by rw [hempty]; rfl),
        List.filter_cons_of_neg (by simp [hempty]), ih hrest]
    · have hpiece : Component.ofPiece? s = some (.normal s) := by
        rw [Component.ofPiece?, if_neg (not_or.2 ⟨hempty, hs.plain.1⟩), if_neg hs.plain.2]
      rw [List.filterMap_cons_some hpiece, List.filter_cons_of_pos (by simpa using hempty),
        ih hrest, List.map_cons]

/-- **The components of a path are its segments**, other than empty ones, if the first one is not
empty. -/
theorem components_intercalate (h : ∀ s ∈ first :: segments, Segment s) (hne : first ≠ "") :
    components ("/".intercalate (first :: segments)) =
      ((first :: segments).filter (· ≠ "")).map .normal := by
  rw [components, pieces_intercalate fun s hs => (h s hs).slash_not_mem, ← filterMap_ofPiece? h]
  have hdot := (h first List.mem_cons_self).plain.1
  cases hpiece : Component.ofPiece? first with
  | none => simp only [if_neg hne, if_neg hdot, hpiece, Option.toList_none, List.nil_append,
      List.filterMap_cons]
  | some c => simp only [if_neg hne, if_neg hdot, hpiece, Option.toList_some,
      List.singleton_append, List.filterMap_cons]

theorem filter_components_intercalate (h : ∀ s ∈ first :: segments, Segment s) (hne : first ≠ "") :
    (components ("/".intercalate (first :: segments))).filter (· ≠ .current) =
      ((first :: segments).filter (· ≠ "")).map .normal := by
  rw [components_intercalate h hne]
  refine List.filter_eq_self.2 fun c hc => ?_
  obtain ⟨name, -, rfl⟩ := List.mem_map.1 hc
  exact decide_eq_true nofun

/-- **A row of segments leads below the output root.** -/
theorem exists_resolves (h : ∀ s ∈ first :: segments, Segment s) (hne : first ≠ "") :
    ∃ path, Resolves ("/".intercalate (first :: segments)) path := by
  have hfilter := filter_components_intercalate h hne
  have hnormal : ∀ c ∈ (components ("/".intercalate (first :: segments))).filter (· ≠ .current),
      ∃ name, c = .normal name := by
    rw [hfilter]
    intro c hc
    obtain ⟨name, -, rfl⟩ := List.mem_map.1 hc
    exact ⟨name, rfl⟩
  have hnames := destinationNames_of_filter hnormal ("/".intercalate (first :: segments))
  refine ⟨_, destinationPath_eq_ok_iff.1 (destinationPath_of_names hnames ?_)⟩
  rw [hfilter, List.filter_cons_of_pos (by simpa using hne)]
  exact List.cons_ne_nil _ _

/-- **Two rows of segments lead to one path exactly if they have the same segments**, other than
empty ones. -/
theorem exists_resolves_both {other : String} {others : List String}
    (h : ∀ s ∈ first :: segments, Segment s) (hne : first ≠ "")
    (hothers : ∀ s ∈ other :: others, Segment s) (hother : other ≠ "") :
    (∃ path, Resolves ("/".intercalate (first :: segments)) path ∧
        Resolves ("/".intercalate (other :: others)) path) ↔
      (first :: segments).filter (· ≠ "") = (other :: others).filter (· ≠ "") := by
  have hhere := filter_components_intercalate h hne
  have hthere := filter_components_intercalate hothers hother
  constructor
  · rintro ⟨path, hpath, hshared⟩
    have heq := hpath.components_eq.symm.trans hshared.components_eq
    rw [hhere, hthere] at heq
    exact List.map_injective_iff.2 (fun _ _ => Component.normal.inj) heq
  · intro heq
    obtain ⟨path, hpath⟩ := exists_resolves h hne
    refine ⟨path, hpath, hpath.descends, ?_, hpath.spelling⟩
    rw [hpath.components_eq, hhere, hthere, heq]

/-- A row of segments has no white space, so that it is not trimmed and has no line break. -/
theorem plain_intercalate (h : ∀ s ∈ segments, Segment s) :
    Text.trimmed ("/".intercalate segments) = "/".intercalate segments ∧
      '\n' ∉ ("/".intercalate segments).toList := by
  have hplain : ∀ c ∈ ("/".intercalate segments).toList, Text.isBlank c = false := by
    intro c hc
    rw [String.toList_intercalate] at hc
    rcases Text.mem_intercalate hc with hc | ⟨_, hw, hc⟩
    · obtain rfl : c = '/' := by simpa using hc
      decide
    · obtain ⟨s, hs, rfl⟩ := List.mem_map.1 hw
      rcases (h s hs).spelled c hc with hrest | rfl
      · exact isBlank_of_isIdentifierRest hrest
      · decide
  refine ⟨?_, fun hbreak => absurd (hplain _ hbreak) (by decide)⟩
  rw [Text.trimmed, Text.trim_eq_self hplain, String.ofList_toList]

end Path

/-! ## Names of a merged model -/

/-- The name of a type and those of its events are identifiers. -/
theorem Drafts.Complete.isIdentifier_names {drafts : Drafts} {docs : List Loaded} {o : Overlay}
    {k : TypeKey} {t : TypeDef} (h : Complete drafts docs)
    (ht : (drafts.model o).lookup k = some t) :
    isIdentifier t.name = true ∧ ∀ e ∈ t.events, isIdentifier e.name = true := by
  obtain ⟨d, -, hproblems, hname, -⟩ := h.bindsBody_declOf ht
  refine ⟨hname ▸ Declaration.isIdentifier_of_problems hproblems, fun e he => ?_⟩
  exact (h.distinct_events ht).valid _ (List.mem_map_of_mem he)

/-- The names of an entity, other than that of its module. -/
def Entity.names : Entity → List String
  | .module _ => []
  | .type t => [t.name]
  | .event e => [e.owner.name, e.name]

/-- **The names of local entities are identifiers**, and those of their modules are made of such. -/
theorem names_of_hasLocal {o : Overlay} {documents : List Loaded} {m : Model} {d : ModuleDef}
    {e : Entity} (h : merge o documents = .ok m) (he : m.HasLocal d e) :
    isModuleName d.name = true ∧ ∀ n ∈ e.names, isIdentifier n = true := by
  have hcoherent := coherent_of_merge h
  have hmodules := (names_of_merge h).2
  have htypes : ∀ {t : TypeDef}, d ∈ m.modules.values → t ∈ d.types.values →
      isIdentifier t.name = true ∧
        ∀ e ∈ t.events, isIdentifier e.name = true ∧ e.owner.name = t.name := by
    intro t hd ht
    have hfind := hcoherent.find?_of_mem hd
    obtain ⟨hfound, -⟩ := hcoherent.find?_of_mem_types hd ht
    have hevents := hcoherent.events hfind hfound
    obtain ⟨hcomplete, rfl⟩ := complete_of_merge h
    obtain ⟨hname, hnames⟩ :=
      hcomplete.isIdentifier_names (hcomplete.gathers.lookup_of_types hfind hfound).1
    exact ⟨hname, fun e he => ⟨hnames e he, congrArg TypeKey.name (hevents e he).1⟩⟩
  cases he with
  | module hd hlocal => exact ⟨hmodules d hd, fun _ hn => absurd hn List.not_mem_nil⟩
  | type hd ht hlocal =>
    refine ⟨hmodules d hd, List.forall_mem_cons.2 ⟨(htypes hd ht).1, ?_⟩⟩
    exact fun _ hn => absurd hn List.not_mem_nil
  | @event t e hd ht hlocal he =>
    obtain ⟨hname, hnames⟩ := htypes hd ht
    obtain ⟨hevent, howner⟩ := hnames e he
    refine ⟨hmodules d hd, List.forall_mem_cons.2 ⟨howner ▸ hname, List.forall_mem_cons.2
      ⟨hevent, fun _ hn => absurd hn List.not_mem_nil⟩⟩⟩

/-! ## Destinations of jobs -/

/-- Whether a type is a remote class that has no objects of its own. -/
def TypeDef.isAbstract (t : TypeDef) : Bool :=
  match t.body with
  | .remote _ isAbstract _ _ _ => isAbstract
  | _ => false

namespace Language

variable (s : Template.Scope)

@[simp] theorem text_chars (text : String) : (chars text).text s = text := String.ofList_toList

@[simp] theorem text_plain (path : String) : (plain path).text s = s.shown path := rfl

@[simp] theorem text_snake (path : String) :
    (snake path).text s = Text.snakeCase (s.shown path) := by
  simp [snake, LinePart.text, Filters.cases, List.lookup_cons]

/-- The template of a type starts with the line for types, of whatever kind the type is. -/
theorem opening_kind (l : Language) (t : TypeDef) (template : String) :
    l.opening t.kind template = l.typeOpening template := by
  obtain ⟨name, module, origin, doc, body⟩ := t
  cases l <;> cases body <;> rfl

end Language

namespace Language

/-- The directory of a module's files, by its segments. -/
def directory (l : Language) (module : String) : List String :=
  match l with
  | .rust => ["src", Text.snakeCase module]
  | .typescript => [module]

/-- The path of an entity's file below its module's directory, by its segments. -/
def file (l : Language) (template : String) (e : Entity) : List String :=
  match l, e with
  | .rust, .module _ => ["mod.rs"]
  | .rust, .type t => [Text.snakeCase t.name ++ ".rs"]
  | .rust, .event e => ["events", Text.snakeCase e.qualifiedName ++ ".rs"]
  | .typescript, .module _ => ["index.ts"]
  | .typescript, .type t =>
    if template = factoryTemplate then ["create" ++ Text.pascalCase t.name ++ ".ts"]
    else [Text.pascalCase t.name ++ ".ts"]
  | .typescript, .event e => ["events", e.qualifiedName ++ ".ts"]

end Language

namespace Job

/-- Whether a job makes no file: it is the factory of an abstract class. -/
def isIdle (l : Language) (j : Job) : Bool :=
  match l, j.entity with
  | .typescript, .type t => j.template = factoryTemplate && t.isAbstract
  | _, _ => false

theorem isIdle_of_ne {j : Job} (h : j.template ≠ factoryTemplate) (l : Language) :
    j.isIdle l = false := by
  rw [isIdle.eq_def]
  split
  · rw [decide_eq_false h, Bool.false_and]
  · rfl

/-- The path of a job's file, by its segments. -/
def segments (l : Language) (j : Job) : List String :=
  l.directory j.module.name ++ l.file j.template j.entity

/-- The destination that a language's set gives to the file of an entity. -/
def destination (l : Language) (j : Job) : String :=
  if j.isIdle l then "" else "/".intercalate (j.segments l)

/-- Two jobs lead to one path. -/
def Shares (l : Language) (j other : Job) : Prop :=
  ∃ path, Path.Resolves (j.destination l) path ∧ Path.Resolves (other.destination l) path

/-- What a template is given for a job. -/
abbrev scope (model : Json) (o : Overlay) (j : Job) : Template.Scope :=
  .start (j.values model o) j.template

section Opening

variable {model : Json} {o : Overlay} {j : Job} {members : Json.Members} {path : String}

/-- A path of two segments leads to a member of a value that is given. -/
theorem find?_member {first name : String} (hpath : Text.pieces '.' path = [first, name])
    (h : (j.values model o).lookup first = some (.obj members)) :
    (j.scope model o).find? path = members.lookup name := by
  rw [Template.Scope.find?_eq, hpath, Template.Scope.at?_start, h, Option.bind_some,
    Template.follow?, Template.step?]
  cases members.lookup name <;> rfl

variable (model o)

/-- A job is given its own module, even one that is about a module. -/
theorem shown_module (hown : ∀ d, j.entity = .module d → d = j.module) :
    (j.scope model o).shown "module.name" = j.module.name := by
  have hpath : Text.pieces '.' "module.name" = ["module", "name"] := by decide +kernel
  have hmodule := lookup_module model o j
  have hcontext : (if j.entity.kind = .module then j.entity.context else j.module.context) =
      j.module.context := by
    cases hentity : j.entity with
    | module d => exact hown d hentity ▸ rfl
    | type t =>
      obtain ⟨name, module, origin, doc, body⟩ := t
      cases body <;> rfl
    | event e => rfl
  rw [hcontext] at hmodule
  rw [Template.Scope.shown, find?_member hpath hmodule]
  rfl

/-- The members of a type that first lines name. -/
theorem shown_type {t : TypeDef} (h : j.entity = .type t) :
    (j.scope model o).shown "entity.name" = t.name ∧
      (j.scope model o).shown "entity.className" = Text.pascalCase t.name ∧
      ((j.scope model o).find? "entity.isAbstract").any Template.truthy = t.isAbstract := by
  have hname : Text.pieces '.' "entity.name" = ["entity", "name"] := by decide +kernel
  have hclass : Text.pieces '.' "entity.className" = ["entity", "className"] := by decide +kernel
  have habstract : Text.pieces '.' "entity.isAbstract" = ["entity", "isAbstract"] := by
    decide +kernel
  have hentity := lookup_entity model o j
  rw [h] at hentity
  rw [Template.Scope.shown, Template.Scope.shown, find?_member hname hentity,
    find?_member hclass hentity, find?_member habstract hentity]
  obtain ⟨name, module, origin, doc, body⟩ := t
  cases doc <;> cases body <;> simp [TypeDef.members, TypeBody.members, textMember,
    optionalMember, List.lookup_cons, TypeDef.isAbstract, Template.truthy, Template.printed]

theorem shown_event {e : Event} (h : j.entity = .event e) :
    (j.scope model o).shown "entity.qualifiedName" = e.qualifiedName := by
  have hpath : Text.pieces '.' "entity.qualifiedName" = ["entity", "qualifiedName"] := by
    decide +kernel
  have hentity := lookup_entity model o j
  rw [h] at hentity
  rw [Template.Scope.shown, find?_member hpath hentity]
  obtain ⟨name, doc, owner, origin, properties⟩ := e
  cases doc <;> simp [Event.members, textMember, optionalMember, List.lookup_cons,
    Event.qualifiedName, Template.printed]

/-- The line of a type's template. -/
theorem text_typeOpening {t : TypeDef} (h : j.entity = .type t) (l : Language)
    (hmodule : (j.scope model o).shown "module.name" = j.module.name) :
    (l.typeOpening j.template).text (j.scope model o) = j.destination l := by
  obtain ⟨hname, hclass, habstract⟩ := shown_type model o h
  rw [← String.toList_inj]
  cases l with
  | rust =>
    simp [Language.typeOpening, OpeningLine.text, lineText, destination, isIdle, segments,
      Language.directory, Language.file, h, hmodule, hname]
  | typescript =>
    by_cases htemplate : j.template = factoryTemplate
    · by_cases htrue : t.isAbstract = true <;>
        simp [Language.typeOpening, OpeningLine.text, lineText, destination, isIdle, segments,
          Language.directory, Language.file, h, hmodule, hclass, habstract, htemplate, htrue]
    · simp [Language.typeOpening, OpeningLine.text, lineText, destination, isIdle, segments,
        Language.directory, Language.file, h, hmodule, hclass, htemplate]

/-- **The first line of a built-in template is the destination of its job.** -/
theorem text_opening (hown : ∀ d, j.entity = .module d → d = j.module) (l : Language) :
    (l.opening j.entity.kind j.template).text (j.scope model o) = j.destination l := by
  have hmodule := shown_module model o hown
  cases hentity : j.entity with
  | module d =>
    rw [← String.toList_inj]
    cases l <;> simp [Entity.kind, Language.opening, OpeningLine.text, lineText, destination,
      isIdle, segments, Language.directory, Language.file, hentity, hmodule]
  | type t => rw [Entity.kind, Language.opening_kind, text_typeOpening model o hentity l hmodule]
  | event e =>
    have hname := shown_event model o hentity
    rw [← String.toList_inj]
    cases l <;> simp [Entity.kind, Language.opening, OpeningLine.text, lineText, destination,
      isIdle, segments, Language.directory, Language.file, hentity, hmodule, hname]

end Opening

end Job

/-! ## Where destinations lead -/

section Destination

variable {module template : String} {e : Entity}

theorem Language.segment_directory (h : isModuleName module = true) (l : Language) :
    ∃ first rest, l.directory module = first :: rest ∧ first ≠ "" ∧
      ∀ s ∈ first :: rest, Path.Segment s := by
  obtain ⟨hsegment, hne⟩ := Path.segment_of_isModuleName h
  cases l with
  | rust =>
    refine ⟨_, _, rfl, by decide, List.forall_mem_cons.2 ⟨⟨by decide, by decide⟩, ?_⟩⟩
    exact List.forall_mem_singleton.2 (Path.segment_snakeCase hsegment.spelled)
  | typescript => exact ⟨_, _, rfl, hne, List.forall_mem_singleton.2 hsegment⟩

theorem Language.segment_file (h : ∀ n ∈ e.names, isIdentifier n = true) (l : Language)
    (template : String) : ∀ s ∈ l.file template e, Path.Segment s := by
  have hspelled : ∀ n ∈ e.names, Path.Spelled n := fun n hn => Path.spelled_of_isIdentifier (h n hn)
  have hevents : Path.Segment "events" := ⟨by decide, by decide⟩
  cases e with
  | module d => cases l <;> exact List.forall_mem_singleton.2 ⟨by decide, by decide⟩
  | type t =>
    have hname : Path.Spelled t.name := hspelled _ List.mem_cons_self
    cases l with
    | rust =>
      exact List.forall_mem_singleton.2
        (Path.segment_append hname.snakeCase (by decide) (by decide))
    | typescript =>
      rw [file]
      split
      · have hcreate : Path.Spelled "create" := by decide
        exact List.forall_mem_singleton.2
          (Path.segment_append (hcreate.append hname.pascalCase) (by decide) (by decide))
      · exact List.forall_mem_singleton.2
          (Path.segment_append hname.pascalCase (by decide) (by decide))
  | event e =>
    rw [Entity.names, List.forall_mem_cons, List.forall_mem_singleton] at hspelled
    have hname : Path.Spelled e.qualifiedName :=
      hspelled.1.pascalCase.append hspelled.2.pascalCase
    cases l with
    | rust =>
      exact List.forall_mem_cons.2 ⟨hevents, List.forall_mem_singleton.2
        (Path.segment_append hname.snakeCase (by decide) (by decide))⟩
    | typescript =>
      exact List.forall_mem_cons.2 ⟨hevents, List.forall_mem_singleton.2
        (Path.segment_append hname (by decide) (by decide))⟩

namespace Job

/-- The names of a job's module and entity are ones that documents may have. -/
structure Named (j : Job) : Prop where
  module : isModuleName j.module.name = true
  entity : ∀ n ∈ j.entity.names, isIdentifier n = true

variable {l : Language} {j other : Job}

theorem Named.exists_segments (h : j.Named) (l : Language) : ∃ first rest,
    j.segments l = first :: rest ∧ first ≠ "" ∧ ∀ s ∈ first :: rest, Path.Segment s := by
  obtain ⟨first, rest, hdirectory, hne, hsegments⟩ := l.segment_directory h.module
  refine ⟨first, rest ++ l.file j.template j.entity, ?_, hne, ?_⟩
  · rw [segments, hdirectory, List.cons_append]
  · rw [← List.cons_append]
    exact List.forall_mem_append.2 ⟨hsegments, l.segment_file h.entity j.template⟩

theorem destination_of_idle (h : j.isIdle l = true) : j.destination l = "" := if_pos h

theorem destination_of_not_idle (h : j.isIdle l = false) :
    j.destination l = "/".intercalate (j.segments l) := by
  rw [destination, h, if_neg Bool.false_ne_true]

/-- A destination is a whole line as it is. -/
theorem Named.plain_destination (h : j.Named) (l : Language) :
    Text.trimmed (j.destination l) = j.destination l ∧ '\n' ∉ (j.destination l).toList := by
  obtain ⟨first, rest, hsegments, -, hall⟩ := h.exists_segments l
  cases hidle : j.isIdle l with
  | true => rw [destination_of_idle hidle]; exact ⟨rfl, List.not_mem_nil⟩
  | false =>
    rw [destination_of_not_idle hidle, hsegments]
    exact Path.plain_intercalate hall

/-- **The destination of every job leads below the output root**, other than that of the factory of
an abstract class, which is none. -/
theorem Named.resolves_destination (h : j.Named) (l : Language) :
    (∃ path, Path.Resolves (j.destination l) path) ↔ j.isIdle l = false := by
  obtain ⟨first, rest, hsegments, hne, hall⟩ := h.exists_segments l
  cases hidle : j.isIdle l with
  | true =>
    rw [destination_of_idle hidle]
    exact iff_of_false (fun ⟨_, h⟩ => Path.not_resolves_empty h) (Ne.symm Bool.false_ne_true)
  | false =>
    rw [destination_of_not_idle hidle, hsegments]
    exact iff_of_true (Path.exists_resolves hall hne) rfl

/-- **Two jobs lead to one path exactly if their paths have the same segments**, other than empty
ones. -/
theorem Named.shares_iff (h : j.Named) (hother : other.Named) (l : Language) :
    j.Shares l other ↔ (j.isIdle l = false ∧ other.isIdle l = false) ∧
      (j.segments l).filter (· ≠ "") = (other.segments l).filter (· ≠ "") := by
  have hidle : j.Shares l other → j.isIdle l = false ∧ other.isIdle l = false :=
    fun ⟨path, hpath, hshared⟩ => ⟨(h.resolves_destination l).1 ⟨path, hpath⟩,
      (hother.resolves_destination l).1 ⟨path, hshared⟩⟩
  refine (and_iff_right_of_imp hidle).symm.trans (and_congr_right fun ⟨hhere, hthere⟩ => ?_)
  obtain ⟨_, _, hsegments, hne, hall⟩ := h.exists_segments l
  obtain ⟨_, _, hothers, hotherne, hotherall⟩ := hother.exists_segments l
  rw [Shares, destination_of_not_idle hhere, destination_of_not_idle hthere, hsegments, hothers]
  exact Path.exists_resolves_both hall hne hotherall hotherne

end Job

end Destination

end InterfaceGen
