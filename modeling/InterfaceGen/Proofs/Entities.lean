import InterfaceGen.Generation.Entity
import InterfaceGen.Proofs.Provenance
import InterfaceGen.Proofs.WellFormed

/-!
# Proofs/Entities — the local entities of a merged model, listed and counted

Three parts of the program go through the local entities: the counts go through all types, the jobs
through the local modules in dependency order, and the context of a module through its types kind by
kind. They meet because a merged model is coherent: a local type lies in a local module, and an
event has the owner and the origin of its type. Main statements: `coherent_of_merge`,
`Model.Coherent.mem_entities_iff`, `Model.Coherent.nodup_entities` and
`Model.Coherent.length_entities`.
-/

namespace InterfaceGen

/-- Everything in the model is stored once and under its own name, and nothing local lies in
something that is not. -/
structure Model.Coherent (m : Model) : Prop where
  sorted : m.modules.Sorted
  name : ∀ {name d}, m.modules.find? name = some d → d.name = name
  order : m.order.Nodup ∧ ∀ name, name ∈ m.order ↔ m.modules.has name = true
  types : ∀ {name d}, m.modules.find? name = some d → d.types.Sorted
  key : ∀ {name d n t}, m.modules.find? name = some d → d.types.find? n = some t →
    t.key = ⟨name, n⟩
  eventNames : ∀ {name d n t}, m.modules.find? name = some d → d.types.find? n = some t →
    (t.events.map (·.name)).Nodup
  events : ∀ {name d n t}, m.modules.find? name = some d → d.types.find? n = some t →
    ∀ e ∈ t.events, e.owner = t.key ∧ e.origin = t.origin
  localTypes : ∀ {name d n t}, m.modules.find? name = some d → d.types.find? n = some t →
    t.origin.isLocal = true → d.origin.isLocal = true

/-- The events of a type have different names, which are identifiers. -/
theorem Drafts.Complete.distinct_events {drafts : Drafts} {docs : List Loaded} {o : Overlay}
    {k : TypeKey} {t : TypeDef} (h : Complete drafts docs)
    (ht : (drafts.model o).lookup k = some t) : DistinctIdentifiers (t.events.map (·.name)) := by
  obtain ⟨d, -, hproblems, -, hbinds⟩ := h.bindsBody_declOf ht
  have hformed := Declaration.problems_eq_nil_iff.1 hproblems
  generalize d.decl = decl at hformed hbinds
  obtain ⟨name, module, origin, doc, body⟩ := t
  rcases hbinds with _ | _ | _ | ⟨-, -, -, hemit⟩
  · exact ⟨List.forall_mem_nil _, List.nodup_nil⟩
  · exact ⟨List.forall_mem_nil _, List.nodup_nil⟩
  · exact ⟨List.forall_mem_nil _, List.nodup_nil⟩
  · have hnames := map_eq_of_forall₂ (fun _ _ he => he.name.symm) hemit
    rw [TypeDef.events, ← hnames]
    cases hformed with
    | remote _ _ _ _ hevents _ => exact hevents

/-- **A merged model is coherent.** -/
theorem coherent_of_merge {o : Overlay} {documents : List Loaded} {m : Model}
    (h : merge o documents = .ok m) : m.Coherent := by
  obtain ⟨hcomplete, rfl⟩ := complete_of_merge h
  have hgathers := hcomplete.gathers
  have hwf := Drafts.wellFormed_importGraph (Loaded.drafts documents)
  refine {
    sorted := Drafts.sorted_modules hgathers.sorted
    name := Drafts.name_of_module
    order := ⟨Graph.nodup_order hwf, fun name => ?_⟩
    types := hgathers.sorted_types
    key := fun hd ht => (hgathers.lookup_of_types hd ht).2
    eventNames := fun hd ht =>
      (hcomplete.distinct_events (hgathers.lookup_of_types hd ht).1).distinct
    events := fun hd ht => ?_
    localTypes := fun {name d n t} hd ht hlocal => ?_ }
  · rw [Drafts.has_modules, ← Drafts.mem_nodes_importGraph]
    exact Graph.mem_order hwf
  · obtain ⟨_, -, hbuilt, -⟩ := hcomplete.declOf_of_lookup (hgathers.lookup_of_types hd ht).1
    exact Scope.events_buildType hbuilt
  · rw [Origin.isLocal_iff] at hlocal ⊢
    obtain ⟨hlookup, -⟩ := hgathers.lookup_of_types hd ht
    obtain ⟨l, hl, hm, horigin, -⟩ := (hcomplete.typeOrigin_iff hlookup).1 hlocal
    exact (hcomplete.moduleOrigin_iff hd).2 ⟨l, hl, hm, horigin⟩

/-! ## Local entities -/

/-- The module `d` of the model holds the local entity: itself, one of its types, or an event of
one of its types. -/
inductive Model.HasLocal (m : Model) (d : ModuleDef) : Entity → Prop where
  | module (hd : d ∈ m.modules.values) (hlocal : d.origin = .local) : HasLocal m d (.module d)
  | type {t : TypeDef} (hd : d ∈ m.modules.values) (ht : t ∈ d.types.values)
      (hlocal : t.origin = .local) : HasLocal m d (.type t)
  | event {t : TypeDef} {e : Event} (hd : d ∈ m.modules.values) (ht : t ∈ d.types.values)
      (hlocal : t.origin = .local) (he : e ∈ t.events) : HasLocal m d (.event e)

/-- The local entities in the order in which files are generated for them. -/
def Model.entities (m : Model) : List Entity := m.localModules.flatMap (·.entities)

theorem Table.mem_values {α : Type} {t : Table α} {v : α} : v ∈ t.values ↔ ∃ k, (k, v) ∈ t := by
  simp [Table.values]

/-- Values that know their keys tell what these are. -/
theorem Table.map_values_eq_keys {α : Type} {t : Table α} {f : α → String}
    (h : ∀ e ∈ t, f e.2 = e.1) : t.values.map f = t.keys := by
  rw [values, keys, List.map_map]
  exact List.map_congr_left h

/-- What is dropped from a list does not matter where it contributes nothing. -/
theorem flatMap_filter_of_nil {α β : Type} {p : α → Bool} {f : α → List β} {l : List α}
    (h : ∀ a ∈ l, p a = false → f a = []) : (l.filter p).flatMap f = l.flatMap f := by
  induction l with
  | nil => rfl
  | cons a l ih =>
    obtain ⟨ha, hl⟩ := List.forall_mem_cons.1 h
    rw [List.flatMap_cons, ← ih hl]
    by_cases hp : p a = true
    · rw [List.filter_cons_of_pos hp, List.flatMap_cons]
    · rw [List.filter_cons_of_neg hp, ha (by simpa using hp), List.nil_append]

/-- What is found for some keys has some of these keys, in their order. -/
theorem sublist_of_filterMap {α β : Type} {f : α → Option β} {g : β → α}
    (h : ∀ a b, f a = some b → g b = a) (l : List α) : ((l.filterMap f).map g).Sublist l := by
  induction l with
  | nil => exact List.Sublist.refl _
  | cons a l ih =>
    cases hb : f a with
    | none =>
      rw [List.filterMap_cons_none hb]
      exact ih.cons _
    | some b =>
      rw [List.filterMap_cons_some hb, List.map_cons, h a b hb]
      exact ih.cons_cons _

/-- The module that an entity belongs to. -/
def Entity.moduleName : Entity → String
  | .module d => d.name
  | .type t => t.module
  | .event e => e.owner.module

namespace Model.Coherent

open scoped List

variable {m : Model} {d : ModuleDef} {t : TypeDef} {e : Entity}

theorem find?_of_mem (h : m.Coherent) (hd : d ∈ m.modules.values) :
    m.modules.find? d.name = some d := by
  obtain ⟨name, hmem⟩ := Table.mem_values.1 hd
  have hfind := h.sorted.mem_iff.1 hmem
  rwa [h.name hfind]

theorem find?_of_mem_types (h : m.Coherent) (hd : d ∈ m.modules.values)
    (ht : t ∈ d.types.values) : d.types.find? t.name = some t ∧ t.key = ⟨d.name, t.name⟩ := by
  obtain ⟨n, hmem⟩ := Table.mem_values.1 ht
  have hfind := (h.types (h.find?_of_mem hd)).mem_iff.1 hmem
  have hkey := h.key (h.find?_of_mem hd) hfind
  obtain rfl : t.name = n := congrArg TypeKey.name hkey
  exact ⟨hfind, hkey⟩

/-- **The local modules are those among all modules.** -/
theorem mem_localModules_iff (h : m.Coherent) :
    d ∈ m.localModules ↔ d ∈ m.modules.values ∧ d.origin.isLocal = true := by
  rw [localModules, List.mem_filter, List.mem_filterMap]
  refine and_congr_left' ⟨fun ⟨name, _, hfind⟩ => ?_, fun hd => ?_⟩
  · exact Table.mem_values.2 ⟨name, Table.mem_of_find? hfind⟩
  · have hfind := h.find?_of_mem hd
    exact ⟨d.name, (h.order.2 d.name).2 (Table.has_iff.2 ⟨d, hfind⟩), hfind⟩

/-- Every local module comes once. -/
theorem nodup_localModules (h : m.Coherent) : (m.localModules.map (·.name)).Nodup := by
  have hfound := sublist_of_filterMap (f := fun name => m.modules.find? name) (g := (·.name))
    (fun _ _ hd => h.name hd) m.order
  exact h.order.1.sublist ((List.filter_sublist.map _).trans hfound)

/-- The types of a module have different names. -/
theorem nodup_types (h : m.Coherent) (hd : d ∈ m.modules.values) :
    (d.types.values.map (·.name)).Nodup := by
  have htypes := h.types (h.find?_of_mem hd)
  rw [Table.map_values_eq_keys fun e he =>
    congrArg TypeKey.name (h.key (h.find?_of_mem hd) (htypes.mem_iff.1 he))]
  exact htypes.nodup_keys

/-- **The local events of a module are the events of its local types.** -/
theorem localEvents_eq (h : m.Coherent) (hd : d ∈ m.modules.values) :
    d.localEvents = d.localTypes.flatMap (·.events) := by
  have hevents : ∀ t ∈ d.types.values, t.events.filter (·.origin.isLocal) =
      if t.origin.isLocal = true then t.events else [] := by
    intro t ht
    obtain ⟨hfind, -⟩ := h.find?_of_mem_types hd ht
    have horigin : ∀ e ∈ t.events, e.origin = t.origin :=
      fun e he => (h.events (h.find?_of_mem hd) hfind e he).2
    split
    · next hlocal => exact List.filter_eq_self.2 fun e he => by rw [horigin e he, hlocal]
    · next hlocal => exact List.filter_eq_nil_iff.2 fun e he => by rwa [horigin e he]
  rw [ModuleDef.localEvents, ModuleDef.events, List.filter_flatMap, ModuleDef.localTypes]
  rw [← flatMap_filter_of_nil (p := (·.origin.isLocal)) fun t ht hlocal => ?_]
  · refine List.flatMap_congr fun t ht => ?_
    obtain ⟨ht, hlocal⟩ := List.mem_filter.1 ht
    rw [hevents t ht, if_pos hlocal]
  · rw [hevents t ht, hlocal, if_neg (by decide)]

/-- **The local entities are the modules, types and events that are local.** -/
theorem mem_entities_iff (h : m.Coherent) :
    d ∈ m.localModules ∧ e ∈ d.entities ↔ m.HasLocal d e := by
  rw [h.mem_localModules_iff, Origin.isLocal_iff]
  constructor
  · rintro ⟨⟨hd, hlocal⟩, he⟩
    rw [ModuleDef.entities, h.localEvents_eq hd, List.cons_append, List.mem_cons,
      List.mem_append, List.mem_map, List.mem_map] at he
    rcases he with rfl | ⟨t, ht, rfl⟩ | ⟨e, he, rfl⟩
    · exact .module hd hlocal
    · obtain ⟨ht, hlocal⟩ := List.mem_filter.1 ht
      exact .type hd ht (Origin.isLocal_iff.1 hlocal)
    · obtain ⟨t, ht, he⟩ := List.mem_flatMap.1 he
      obtain ⟨ht, hlocal⟩ := List.mem_filter.1 ht
      exact .event hd ht (Origin.isLocal_iff.1 hlocal) he
  · intro he
    have hmodule : ∀ t ∈ d.types.values, t.origin = .local → d ∈ m.modules.values →
        d.origin = .local ∧ t ∈ d.localTypes := by
      intro t ht hlocal hd
      obtain ⟨hfind, -⟩ := h.find?_of_mem_types hd ht
      have hlocal := Origin.isLocal_iff.2 hlocal
      exact ⟨Origin.isLocal_iff.1 (h.localTypes (h.find?_of_mem hd) hfind hlocal),
        List.mem_filter.2 ⟨ht, hlocal⟩⟩
    rcases he with ⟨hd, hlocal⟩ | ⟨hd, ht, hlocal⟩ | ⟨hd, ht, hlocal, he⟩
    · exact ⟨⟨hd, hlocal⟩, List.mem_cons_self⟩
    · obtain ⟨hdlocal, hmem⟩ := hmodule _ ht hlocal hd
      exact ⟨⟨hd, hdlocal⟩, List.mem_cons_of_mem _
        (List.mem_append_left _ (List.mem_map_of_mem hmem))⟩
    · obtain ⟨hdlocal, hmem⟩ := hmodule _ ht hlocal hd
      refine ⟨⟨hd, hdlocal⟩, List.mem_cons_of_mem _ (List.mem_append_right _ ?_)⟩
      rw [h.localEvents_eq hd]
      exact List.mem_map_of_mem (List.mem_flatMap.2 ⟨_, hmem, he⟩)

/-- The events of a module are listed once each. -/
theorem nodup_localEvents (h : m.Coherent) (hd : d ∈ m.modules.values) : d.localEvents.Nodup := by
  have hfind : ∀ t ∈ d.localTypes, d.types.find? t.name = some t ∧ t.key = ⟨d.name, t.name⟩ :=
    fun t ht => h.find?_of_mem_types hd (List.mem_filter.1 ht).1
  rw [h.localEvents_eq hd, List.nodup_flatMap]
  refine ⟨fun t ht => (h.eventNames (h.find?_of_mem hd) (hfind t ht).1).of_map _, ?_⟩
  have hnames : (d.localTypes.map _).Nodup :=
    (h.nodup_types hd).sublist (List.filter_sublist.map _)
  -- the owners of their events tell two types apart
  refine (List.pairwise_map.1 hnames).imp_of_mem fun {t u} ht hu hne e het heu => hne ?_
  have howner := (h.events (h.find?_of_mem hd) (hfind t ht).1 e het).1
  have howner' := (h.events (h.find?_of_mem hd) (hfind u hu).1 e heu).1
  exact congrArg TypeKey.name (howner.symm.trans howner')

/-- The entities of a module are its own. -/
theorem moduleName_of_mem (h : m.Coherent) (hd : d ∈ m.modules.values) (he : e ∈ d.entities) :
    e.moduleName = d.name := by
  rw [ModuleDef.entities, h.localEvents_eq hd, List.cons_append, List.mem_cons, List.mem_append,
    List.mem_map, List.mem_map] at he
  rcases he with rfl | ⟨t, ht, rfl⟩ | ⟨e, he, rfl⟩
  · rfl
  · exact congrArg TypeKey.module (h.find?_of_mem_types hd (List.mem_filter.1 ht).1).2
  · obtain ⟨t, ht, he⟩ := List.mem_flatMap.1 he
    obtain ⟨hfind, hkey⟩ := h.find?_of_mem_types hd (List.mem_filter.1 ht).1
    have howner := (h.events (h.find?_of_mem hd) hfind e he).1
    rw [Entity.moduleName, howner, hkey]

/-- **No local entity is listed twice.** -/
theorem nodup_entities (h : m.Coherent) : m.entities.Nodup := by
  rw [Model.entities, List.nodup_flatMap]
  refine ⟨fun d hd => ?_, ?_⟩
  · obtain ⟨hd, -⟩ := h.mem_localModules_iff.1 hd
    have htypes : (d.localTypes.map Entity.type).Nodup :=
      (((h.nodup_types hd).of_map _).filter _).map fun _ _ => Entity.type.inj
    have hevents : (d.localEvents.map Entity.event).Nodup :=
      (h.nodup_localEvents hd).map fun _ _ => Entity.event.inj
    rw [ModuleDef.entities, List.cons_append, List.nodup_cons]
    refine ⟨by simp, List.nodup_append.2 ⟨htypes, hevents, ?_⟩⟩
    intro a ha b hb hab
    obtain ⟨t, -, rfl⟩ := List.mem_map.1 ha
    obtain ⟨e, -, rfl⟩ := List.mem_map.1 hb
    cases hab
  · refine (List.pairwise_map.1 h.nodup_localModules).imp_of_mem fun {d d'} hd hd' hne e he he' =>
      hne ?_
    obtain ⟨hd, -⟩ := h.mem_localModules_iff.1 hd
    obtain ⟨hd', -⟩ := h.mem_localModules_iff.1 hd'
    rw [← h.moduleName_of_mem hd he, h.moduleName_of_mem hd' he']

/-! ## Counts -/

/-- **The local types of the model are those of its local modules.** -/
theorem perm_localTypes (h : m.Coherent) :
    m.localTypes.Perm (m.localModules.flatMap (·.localTypes)) := by
  have hlocal : m.localModules.Perm (m.modules.values.filter (·.origin.isLocal)) := by
    have hvalues : (m.modules.values.map (·.name)).Nodup := by
      rw [Table.map_values_eq_keys fun e he => h.name (h.sorted.mem_iff.1 he)]
      exact h.sorted.nodup_keys
    refine (List.perm_ext_iff_of_nodup (h.nodup_localModules.of_map _)
      ((hvalues.of_map _).filter _)).2 fun d => ?_
    rw [h.mem_localModules_iff, List.mem_filter]
  rw [Model.localTypes, Model.types, List.filter_flatMap]
  refine .trans (.of_eq ?_) (hlocal.symm.flatMap_right _)
  -- only the local modules contribute
  refine (flatMap_filter_of_nil fun d hd hlocal => ?_).symm
  refine List.filter_eq_nil_iff.2 fun t ht htlocal => ?_
  obtain ⟨hfind, -⟩ := h.find?_of_mem_types hd ht
  rw [h.localTypes (h.find?_of_mem hd) hfind htlocal] at hlocal
  cases hlocal

/-- **The local entities are the local modules, the local types and the events of local types** —
those of a module stand side by side, but nothing else is listed and nothing left out. -/
theorem perm_entities (h : m.Coherent) : m.entities.Perm (m.localModules.map .module ++
    (m.localTypes.map .type ++ (m.localTypes.flatMap (·.events)).map .event)) := by
  have hevents : (m.localModules.flatMap (·.localTypes)).flatMap (·.events) =
      m.localModules.flatMap (·.localEvents) := by
    rw [List.flatMap_assoc]
    exact List.flatMap_congr fun d hd => (h.localEvents_eq (h.mem_localModules_iff.1 hd).1).symm
  have htypes := h.perm_localTypes
  rw [Model.entities]
  calc m.localModules.flatMap (·.entities)
    _ = m.localModules.flatMap fun d =>
        .module d :: (d.localTypes.map .type ++ d.localEvents.map .event) := rfl
    _ ~ m.localModules.map .module ++ m.localModules.flatMap fun d =>
        d.localTypes.map .type ++ d.localEvents.map .event :=
      (List.map_append_flatMap_perm _ _ _).symm
    _ ~ m.localModules.map .module ++ ((m.localModules.flatMap (·.localTypes)).map .type ++
        (m.localModules.flatMap (·.localEvents)).map .event) := by
      rw [List.map_flatMap, List.map_flatMap]
      exact (List.flatMap_append_perm _ _ _).symm.append_left _
    _ ~ _ := by
      rw [← hevents]
      exact ((htypes.symm.map _).append ((htypes.symm.flatMap_right _).map _)).append_left _

/-- **A count counts the local entities of its kind.** -/
theorem length_entities (h : m.Coherent) (kind : EntityKind) :
    (m.entities.filter (·.kind = kind)).length = m.localCount kind := by
  have hne : ∀ t : TypeDef, t.kind ≠ .module ∧ t.kind ≠ .event := by
    rintro ⟨name, module, origin, doc, _ | _ | _ | _⟩ <;> exact ⟨nofun, nofun⟩
  rw [(h.perm_entities.filter _).length_eq]
  simp only [List.filter_append, List.filter_map, List.length_append, List.length_map,
    Function.comp_def, Entity.kind]
  cases kind with
  | module => simp [hne, Model.localCount]
  | event => simp [hne, Model.localCount]
  | _ =>
    simp only [Model.localCount, reduceCtorEq, decide_false, List.filter_false, List.length_nil,
      Nat.zero_add, Nat.add_zero]
    rfl

end Model.Coherent

end InterfaceGen
