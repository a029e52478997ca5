import InterfaceGen.Proofs.Entities
import InterfaceGen.Proofs.ValueSpace
import Mathlib.Algebra.GroupWithZero.Nat

/-!
# Proofs/Jobs — every local entity is rendered with every template of its kind, and nothing else is

A template set serves a model when all its templates are named for kinds and no kind with local
entities is without one; binding it succeeds exactly then. The jobs of a bound set are the pairs of
a local entity and a template of its kind, each of them once, and the groups that a module's context
lists are the types and events with jobs of their own. Main statement: `jobs_of_merge`.
-/

namespace InterfaceGen

/-! ## Binding -/

theorem EntityKind.mem_all (kind : EntityKind) : kind ∈ EntityKind.all := by
  cases kind <;> decide

namespace TemplateSet

/-- A template of the set that is rendered on its own is named for the kind. -/
def Binds (t : TemplateSet) (template : String) (kind : EntityKind) : Prop :=
  ∃ f ∈ t.files, f.name = template ∧ f.isPartial = false ∧ f.kind? = some kind

/-- The set has what the model needs, and nothing that it cannot place. -/
structure Serves (t : TemplateSet) (m : Model) : Prop where
  /-- Every template that is rendered on its own is named for a kind. -/
  named : ∀ f ∈ t.files, f.isPartial = false → ∃ kind, f.kind? = some kind
  /-- Every kind with local entities has a template. -/
  served : ∀ d e, m.HasLocal d e → ∃ template, t.Binds template e.kind

variable {t : TemplateSet} {m : Model} {b : Binding} {kind : EntityKind} {template : String}

theorem templatesFor_binding (t : TemplateSet) (kind : EntityKind) :
    t.binding.templatesFor kind =
      (t.rendered.filter (·.kind? = some kind)).map (·.name) := by
  rw [Binding.templatesFor, binding]
  induction t.rendered with
  | nil => rfl
  | cons f files ih =>
    cases hf : f.kind? with
    | none =>
      rw [List.filterMap_cons_none (by rw [hf]; rfl), ih, List.filter_cons_of_neg (by simp [hf])]
    | some k =>
      rw [List.filterMap_cons_some (by rw [hf]; rfl)]
      by_cases hk : k = kind
      · rw [List.filter_cons_of_pos (by simpa using hk),
          List.filter_cons_of_pos (by simpa [hf] using hk), List.map_cons, List.map_cons, ih]
      · rw [List.filter_cons_of_neg (by simpa using hk),
          List.filter_cons_of_neg (by simpa [hf] using hk), ih]

theorem mem_templatesFor : template ∈ t.binding.templatesFor kind ↔ t.Binds template kind := by
  rw [templatesFor_binding, List.mem_map]
  simp only [rendered, List.mem_filter, Binds, Bool.not_eq_true', decide_eq_true_eq]
  exact ⟨fun ⟨f, ⟨⟨hf, hp⟩, hk⟩, hn⟩ => ⟨f, hf, hn, hp, hk⟩,
    fun ⟨f, hf, hn, hp, hk⟩ => ⟨f, ⟨⟨hf, hp⟩, hk⟩, hn⟩⟩

/-- Templates with different names are bound once each. -/
theorem nodup_templatesFor (h : (t.files.map (·.name)).Nodup) (kind : EntityKind) :
    (t.binding.templatesFor kind).Nodup := by
  rw [templatesFor_binding]
  exact h.sublist ((List.filter_sublist.trans List.filter_sublist).map _)

theorem bind_eq_ok_iff :
    t.bind m = .ok b ↔ (t.unknownKinds = [] ∧ t.missingKinds m = []) ∧ t.binding = b := by
  rw [bind, ← List.append_eq_nil_iff, ← List.isEmpty_iff]
  split
  · next h => simp [h]
  · next h => simp [h]

theorem unknownKinds_eq_nil_iff : t.unknownKinds = [] ↔
    ∀ f ∈ t.files, f.isPartial = false → ∃ kind, f.kind? = some kind := by
  rw [unknownKinds, List.map_eq_nil_iff, List.filter_eq_nil_iff]
  simp only [rendered, List.mem_filter, Bool.not_eq_true', Option.isNone_iff_eq_none, and_imp,
    ← Option.ne_none_iff_exists', ne_eq]

/-- **Binding succeeds exactly when the set serves the model.** -/
theorem exists_bind_iff (h : m.Coherent) : (∃ b, t.bind m = .ok b) ↔ t.Serves m := by
  have hcount : ∀ kind, 0 < m.localCount kind ↔ ∃ d e, m.HasLocal d e ∧ e.kind = kind := by
    intro kind
    rw [← h.length_entities, List.length_filter_pos_iff]
    simp only [Model.entities, List.mem_flatMap, ← h.mem_entities_iff, decide_eq_true_eq]
    constructor
    · rintro ⟨e, ⟨d, hd, he⟩, hk⟩
      exact ⟨d, e, ⟨hd, he⟩, hk⟩
    · rintro ⟨d, e, ⟨hd, he⟩, hk⟩
      exact ⟨e, ⟨d, hd, he⟩, hk⟩
  have hmissing : t.missingKinds m = [] ↔
      ∀ d e, m.HasLocal d e → ∃ template, t.Binds template e.kind := by
    rw [missingKinds, List.map_eq_nil_iff, List.filter_eq_nil_iff]
    constructor
    · intro hall d e he
      have hpos := (hcount e.kind).2 ⟨d, e, he, rfl⟩
      have hne := hall e.kind e.kind.mem_all
      rw [Bool.and_eq_true, decide_eq_true_eq, List.isEmpty_iff, not_and'] at hne
      obtain ⟨template, hmem⟩ := List.exists_mem_of_ne_nil _ (hne hpos)
      exact ⟨template, mem_templatesFor.1 hmem⟩
    · intro hserved kind _ hnone
      rw [Bool.and_eq_true, decide_eq_true_eq, List.isEmpty_iff] at hnone
      obtain ⟨d, e, he, rfl⟩ := (hcount kind).1 hnone.2
      obtain ⟨template, hbinds⟩ := hserved d e he
      have hmem := mem_templatesFor.2 hbinds
      rw [hnone.1] at hmem
      exact List.not_mem_nil hmem
  simp only [bind_eq_ok_iff, exists_and_left, exists_eq', and_true]
  rw [unknownKinds_eq_nil_iff, hmissing]
  constructor
  · rintro ⟨hnamed, hserved⟩
    exact ⟨hnamed, hserved⟩
  · exact fun hs => ⟨hs.named, hs.served⟩

end TemplateSet

/-! ## Jobs -/

namespace Job

variable {m : Model} {b : Binding} {j : Job}

/-- A job is a local entity of a local module with a template of its kind. -/
theorem mem_ofModel_iff (h : m.Coherent) : j ∈ ofModel m b ↔
    m.HasLocal j.module j.entity ∧ j.template ∈ b.templatesFor j.entity.kind := by
  rw [← h.mem_entities_iff]
  simp only [ofModel, ofModule, ofEntity, List.mem_flatMap, List.mem_map]
  constructor
  · rintro ⟨d, hd, e, he, template, htemplate, rfl⟩
    exact ⟨⟨hd, he⟩, htemplate⟩
  · rintro ⟨⟨hd, he⟩, htemplate⟩
    exact ⟨j.module, hd, j.entity, he, j.template, htemplate, rfl⟩

/-- The jobs without their modules: every local entity with all its templates. -/
theorem map_ofModel (m : Model) (b : Binding) :
    (ofModel m b).map (fun j => (j.template, j.entity)) =
      m.entities.flatMap fun e => (b.templatesFor e.kind).map (·, e) := by
  simp only [ofModel, ofModule, ofEntity, Model.entities, List.map_flatMap, List.map_map,
    List.flatMap_assoc, Function.comp_def]

/-- **No entity has two jobs with one template.** -/
theorem nodup_ofModel (h : m.Coherent) (hb : ∀ kind, (b.templatesFor kind).Nodup) :
    ((ofModel m b).map fun j => (j.template, j.entity)).Nodup := by
  rw [map_ofModel, List.nodup_flatMap]
  refine ⟨fun e _ => (hb e.kind).map fun _ _ heq => congrArg Prod.fst heq, ?_⟩
  refine h.nodup_entities.imp fun {e e'} hne p hp hp' => hne ?_
  obtain ⟨_, -, rfl⟩ := List.mem_map.1 hp
  obtain ⟨_, -, heq⟩ := List.mem_map.1 hp'
  exact (congrArg Prod.snd heq).symm

/-- Summing over the items of a list is summing over their kinds, each as often as it comes. -/
theorem sum_map_kind (es : List Entity) (weight : EntityKind → Nat) :
    (es.map fun e => weight e.kind).sum =
      (EntityKind.all.map fun k => (es.filter (·.kind = k)).length * weight k).sum := by
  induction es with
  | nil => simp
  | cons e es ih =>
    have hcons : ∀ k, ((e :: es).filter (·.kind = k)).length =
        (if e.kind = k then 1 else 0) + (es.filter (·.kind = k)).length := fun k => by
      by_cases hk : e.kind = k
      · rw [List.filter_cons_of_pos (by simpa using hk), if_pos hk, List.length_cons, Nat.add_comm]
      · rw [List.filter_cons_of_neg (by simpa using hk), if_neg hk, Nat.zero_add]
    rw [List.map_cons, List.sum_cons, ih]
    simp only [hcons, Nat.add_mul, EntityKind.all, List.map_cons, List.map_nil, List.sum_cons]
    cases e.kind <;> simp only [reduceCtorEq, if_true, if_false, Nat.zero_mul, Nat.one_mul] <;>
      omega

/-- **The number of jobs** — each kind's local entities times its templates. -/
theorem length_ofModel (h : m.Coherent) (b : Binding) : (ofModel m b).length =
    (EntityKind.all.map fun k => m.localCount k * (b.templatesFor k).length).sum := by
  calc (ofModel m b).length
    _ = (m.entities.flatMap fun e => (b.templatesFor e.kind).map (·, e)).length := by
      rw [← map_ofModel, List.length_map]
    _ = (m.entities.map fun e => (b.templatesFor e.kind).length).sum := by
      simp only [List.length_flatMap, List.length_map]
    _ = (EntityKind.all.map fun k =>
        (m.entities.filter (·.kind = k)).length * (b.templatesFor k).length).sum :=
      sum_map_kind m.entities fun k => (b.templatesFor k).length
    _ = _ := by simp only [h.length_entities]

end Job

/-! ## Groups -/

/-- Where an entity is from. -/
def Entity.origin : Entity → Origin
  | .module d => d.origin
  | .type t => t.origin
  | .event e => e.origin

namespace ModuleDef

/-- The groups of types in the context of a module, and their kinds. -/
def groups : List (String × EntityKind) :=
  [("remoteClasses", .remoteClass), ("complexTypes", .complexType), ("enumTypes", .enumType),
    ("aliases", .alias)]

/-- Every type is of one of the kinds that are grouped. -/
theorem exists_group (t : TypeDef) : ∃ group, (group, t.kind) ∈ groups := by
  obtain ⟨name, module, origin, doc, _ | _ | _ | _⟩ := t
  · exact ⟨"aliases", by simp [groups, TypeDef.kind]⟩
  · exact ⟨"enumTypes", by simp [groups, TypeDef.kind]⟩
  · exact ⟨"complexTypes", by simp [groups, TypeDef.kind]⟩
  · exact ⟨"remoteClasses", by simp [groups, TypeDef.kind]⟩

/-- A group holds the local types of its kind. -/
theorem get?_group (d : ModuleDef) {group : String} {kind : EntityKind}
    (h : (group, kind) ∈ groups) : d.context.get? group =
      some (.arr ((d.localTypes.filter (·.kind = kind)).map TypeDef.context)) := by
  have hlocal : d.localTypes.filter (·.kind = kind) =
      (d.typesOf kind).filter (·.origin.isLocal) := List.filter_comm _ _ _
  rw [hlocal]
  simp only [groups, List.mem_cons, Prod.mk.injEq, List.not_mem_nil, or_false] at h
  rcases h with ⟨rfl, rfl⟩ | ⟨rfl, rfl⟩ | ⟨rfl, rfl⟩ | ⟨rfl, rfl⟩ <;>
    cases hdoc : d.doc <;>
      simp [context, Json.get?, hdoc, textMember, optionalMember, List.lookup_cons,
      localContexts]

/-- The events of a module's context are its local events. -/
theorem get?_events (d : ModuleDef) :
    d.context.get? "events" = some (.arr (d.localEvents.map Event.context)) := by
  cases hdoc : d.doc <;>
    simp [context, Json.get?, hdoc, textMember, optionalMember, List.lookup_cons,
    localEvents]

end ModuleDef

/-- With the templates `b` of the set `t` the local entities of the model are rendered, and nothing
else is. -/
structure Model.RenderedBy (m : Model) (t : TemplateSet) (b : Binding) : Prop where
  /-- A job is a local entity with a template of its kind… -/
  jobs : ∀ j, j ∈ Job.ofModel m b ↔
    m.HasLocal j.module j.entity ∧ t.Binds j.template j.entity.kind
  /-- …and there is one for each such pair. -/
  once : ((Job.ofModel m b).map fun j => (j.template, j.entity)).Nodup
  /-- No imported entity has a job. -/
  origin : ∀ j ∈ Job.ofModel m b, j.entity.origin = .local
  /-- Every local entity has one. -/
  served : ∀ d e, m.HasLocal d e → ∃ j ∈ Job.ofModel m b, j.module = d ∧ j.entity = e
  /-- There are as many jobs as local entities times templates, kind by kind. -/
  count : (Job.ofModel m b).length =
    (EntityKind.all.map fun k => m.localCount k * (b.templatesFor k).length).sum
  /-- A module's context lists under each kind the types with jobs of their own in the module… -/
  types : ∀ d ∈ m.modules.values, ∀ group kind, (group, kind) ∈ ModuleDef.groups →
    ∃ ts : List TypeDef, d.context.get? group = some (.arr (ts.map TypeDef.context)) ∧ ts.Nodup ∧
      ∀ t, t ∈ ts ↔ t.kind = kind ∧ ∃ j ∈ Job.ofModel m b, j.module = d ∧ j.entity = .type t
  /-- …where no kind of type is missing… -/
  grouped : ∀ t : TypeDef, ∃ group, (group, t.kind) ∈ ModuleDef.groups
  /-- …and the events with jobs of their own in the module. -/
  events : ∀ d ∈ m.modules.values,
    ∃ es : List Event, d.context.get? "events" = some (.arr (es.map Event.context)) ∧ es.Nodup ∧
      ∀ e, e ∈ es ↔ ∃ j ∈ Job.ofModel m b, j.module = d ∧ j.entity = .event e

namespace Model.Coherent

variable {m : Model} {d : ModuleDef} {e : Entity}

theorem origin_of_hasLocal (h : m.Coherent) (he : m.HasLocal d e) : e.origin = .local := by
  rcases he with ⟨-, hlocal⟩ | ⟨-, -, hlocal⟩ | ⟨hd, ht, hlocal, he⟩
  · exact hlocal
  · exact hlocal
  · obtain ⟨hfind, -⟩ := h.find?_of_mem_types hd ht
    exact (h.events (h.find?_of_mem hd) hfind _ he).2.trans hlocal

theorem mem_localTypes_iff {t : TypeDef} (hd : d ∈ m.modules.values) :
    t ∈ d.localTypes ↔ m.HasLocal d (.type t) := by
  rw [ModuleDef.localTypes, List.mem_filter, Origin.isLocal_iff]
  constructor
  · rintro ⟨ht, hlocal⟩
    exact .type hd ht hlocal
  · intro he
    rcases he with _ | ⟨-, ht, hlocal⟩ | _
    exact ⟨ht, hlocal⟩

theorem mem_localEvents_iff (h : m.Coherent) {e : Event} (hd : d ∈ m.modules.values) :
    e ∈ d.localEvents ↔ m.HasLocal d (.event e) := by
  rw [h.localEvents_eq hd, List.mem_flatMap]
  constructor
  · rintro ⟨t, ht, he⟩
    obtain ⟨ht, hlocal⟩ := List.mem_filter.1 ht
    exact .event hd ht (Origin.isLocal_iff.1 hlocal) he
  · intro he
    rcases he with _ | _ | ⟨-, ht, hlocal, he⟩
    exact ⟨_, List.mem_filter.2 ⟨ht, Origin.isLocal_iff.2 hlocal⟩, he⟩

/-- **A set that binds to a coherent model renders it.** -/
theorem renderedBy (h : m.Coherent) {t : TemplateSet} {b : Binding}
    (hnames : (t.files.map (·.name)).Nodup) (hb : t.bind m = .ok b) : m.RenderedBy t b := by
  have hserves := (TemplateSet.exists_bind_iff h).1 ⟨b, hb⟩
  obtain ⟨-, rfl⟩ := TemplateSet.bind_eq_ok_iff.1 hb
  have hjobs : ∀ j, j ∈ Job.ofModel m t.binding ↔
      m.HasLocal j.module j.entity ∧ t.Binds j.template j.entity.kind := fun j => by
    rw [Job.mem_ofModel_iff h, TemplateSet.mem_templatesFor]
  have hserved : ∀ d e, m.HasLocal d e ↔
      ∃ j ∈ Job.ofModel m t.binding, j.module = d ∧ j.entity = e := by
    intro d e
    constructor
    · intro he
      obtain ⟨template, htemplate⟩ := hserves.served d e he
      exact ⟨⟨template, d, e⟩, (hjobs _).2 ⟨he, htemplate⟩, rfl, rfl⟩
    · rintro ⟨j, hj, rfl, rfl⟩
      exact ((hjobs j).1 hj).1
  refine {
    jobs := hjobs
    once := Job.nodup_ofModel h (TemplateSet.nodup_templatesFor hnames)
    origin := fun j hj => h.origin_of_hasLocal ((hjobs j).1 hj).1
    served := fun d e => (hserved d e).1
    count := Job.length_ofModel h _
    types := fun d hd group kind hgroup => ⟨_, d.get?_group hgroup, ?_, fun u => ?_⟩
    grouped := ModuleDef.exists_group
    events := fun d hd => ⟨_, d.get?_events, h.nodup_localEvents hd, fun e => ?_⟩ }
  · exact (((h.nodup_types hd).of_map _).filter _).filter _
  · rw [List.mem_filter, mem_localTypes_iff hd, hserved, decide_eq_true_eq, and_comm]
  · rw [h.mem_localEvents_iff hd, hserved]

end Model.Coherent

/-- **Every local entity is rendered with every template of its kind, and nothing else is** —
binding succeeds exactly when the set serves the merged model, and then the jobs, their number and
the groups in the modules' contexts all go through the same local entities. -/
theorem jobs_of_merge {o : Overlay} {documents : List Loaded} {m : Model} {t : TemplateSet}
    (h : merge o documents = .ok m) (hnames : (t.files.map (·.name)).Nodup) :
    ((∃ b, t.bind m = .ok b) ↔ t.Serves m) ∧ ∀ b, t.bind m = .ok b → m.RenderedBy t b := by
  have hcoherent := coherent_of_merge h
  exact ⟨TemplateSet.exists_bind_iff hcoherent, fun b hb => hcoherent.renderedBy hnames hb⟩

/-- Templates for the local kinds of the sample, two of them for remote classes, and a part that
others include. -/
def sampleTemplates : TemplateSet :=
  ⟨"sample", [⟨"complexType.tera", ""⟩, ⟨"event.tera", ""⟩, ⟨"module_index.tera", ""⟩,
    ⟨"partials/header.tera", ""⟩, ⟨"remoteClass.tera", ""⟩, ⟨"remoteClass_factory.tera", ""⟩]⟩

/-- The sample's templates are bound, and the sample is rendered with them. -/
theorem jobs_of_merge_sample : (sampleTemplates.files.map (·.name)).Nodup ∧
    ∃ m, merge Overlay.empty sample = .ok m ∧
      ∃ b, sampleTemplates.bind m = .ok b ∧ m.RenderedBy sampleTemplates b := by
  have hnames : (sampleTemplates.files.map (·.name)).Nodup := by decide
  have hok : (merge Overlay.empty sample).toOption.any
      (fun m => (sampleTemplates.bind m).toOption.isSome) = true := by
    rw [merge, sorted_sample]
    decide +kernel
  obtain ⟨m, hm⟩ := exists_merge_sample
  rw [hm] at hok
  obtain ⟨b, hb⟩ : ∃ b, sampleTemplates.bind m = .ok b := by
    rw [Except.toOption, Option.any_some] at hok
    generalize sampleTemplates.bind m = r at hok
    cases r with
    | ok b => exact ⟨b, rfl⟩
    | error ds => cases hok
  exact ⟨hnames, m, hm, b, hb, (jobs_of_merge hm hnames).2 b hb⟩

end InterfaceGen
