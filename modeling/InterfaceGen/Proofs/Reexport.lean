import InterfaceGen.Proofs.Exported
import InterfaceGen.Proofs.Validity

/-!
# Proofs/Reexport — a model that is written back and merged again is the same model

Written back, a model has one document a module, so nothing is folded when these are collected: the
drafts hold the model itself, with its imports, its kinds and its spellings. Names are therefore
resolved as before, every type is built again, and an overlay finds its values already laid. Only
paths and the origins of types are new. Main statement: `merge_toLoaded`.
-/

namespace InterfaceGen

/-! ## Models written back -/

/-- A model written back, each module as a document at the path given to it. -/
def Model.toLoaded (path : String → String) (m : Model) : List Loaded :=
  m.modules.values.map (ModuleDef.toLoaded path)

/-- The module as it is after it was written back — its types have its origin. -/
def ModuleDef.retag (path : String → String) (md : ModuleDef) : ModuleDef :=
  { md with
    types := md.types.map fun e => (e.1, e.2.retag md.origin)
    documents := [path md.name] }

/-- The model as it is after it was written back. -/
def Model.retag (path : String → String) (m : Model) : Model :=
  { m with modules := m.modules.map fun e => (e.1, e.2.retag path) }

/-- Another origin makes no difference to the document. -/
theorem ModuleDef.toDocument_retag (path : String → String) (md : ModuleDef) :
    (md.retag path).toDocument = md.toDocument := by
  have htypes : (md.retag path).types.values.map TypeDef.toDecl =
      md.types.values.map TypeDef.toDecl := by
    simp only [retag, Table.values, List.map_map]
    exact List.map_congr_left fun e _ => TypeDef.toDecl_retag md.origin e.2
  simp only [toDocument, htypes]
  rfl

theorem Model.toDocument_retag (path : String → String) (m : Model) :
    (m.retag path).modules.values.map ModuleDef.toDocument =
      m.modules.values.map ModuleDef.toDocument := by
  simp only [retag, Table.values, List.map_map]
  exact List.map_congr_left fun e _ => ModuleDef.toDocument_retag path e.2

/-- The parameters of every module are an object, with no key twice. -/
def Model.ObjectCode (m : Model) : Prop :=
  ∀ name md, m.modules.find? name = some md → md.code.isObject = true ∧ md.code.Distinct

namespace Drafts.Complete

variable {drafts : Drafts} {docs reloaded : List Loaded} {o : Overlay} {path : String → String}
  {name : String} {md : ModuleDef} {draft : ModuleDraft} {k : TypeKey} {t : TypeDef} {d : DeclDraft}

/-! ## Collecting the documents again -/

theorem mem_toLoaded_iff (h : Complete drafts docs) {l : Loaded} :
    l ∈ (drafts.model o).toLoaded path ↔ ∃ name draft, drafts.find? name = some draft ∧
      (drafts.moduleOf o name draft).toLoaded path = l := by
  have hsorted : (drafts.model o).modules.Sorted := sorted_modules h.gathers.sorted
  rw [Model.toLoaded, List.mem_map]
  constructor
  · rintro ⟨md, hmd, rfl⟩
    obtain ⟨⟨name, md⟩, he, rfl⟩ := List.mem_map.1 hmd
    obtain ⟨draft, hdraft, rfl⟩ := draft_of_module (hsorted.mem_iff.1 he)
    exact ⟨name, draft, hdraft, rfl⟩
  · rintro ⟨name, draft, hdraft, rfl⟩
    have hmd := module_of_draft (o := o) hdraft
    exact ⟨_, List.mem_map.2 ⟨_, Table.mem_of_find? hmd, rfl⟩, rfl⟩

/-- A model is written back as documents of different modules. -/
theorem nodup_toLoaded (h : Complete drafts docs) (o : Overlay) (path : String → String) :
    (((drafts.model o).toLoaded path).map (·.document.name)).Nodup := by
  have hsorted : (drafts.model o).modules.Sorted := sorted_modules h.gathers.sorted
  have hnames : ((drafts.model o).toLoaded path).map (·.document.name) =
      (drafts.model o).modules.keys := by
    simp only [Model.toLoaded, Table.values, Table.keys, List.map_map]
    exact List.map_congr_left fun e he => name_of_module (hsorted.mem_iff.1 he)
  rw [hnames]
  exact hsorted.nodup_keys

/-- **What is collected again**, without a report: of each module what it is written back as. -/
theorem collect_toLoaded (h : Complete drafts docs) (hcode : (drafts.model o).ObjectCode)
    (hperm : reloaded.Perm ((drafts.model o).toLoaded path)) :
    (absorbAll [] (Loaded.sorted reloaded)).2 = [] ∧
      ∀ name, (Loaded.drafts reloaded).find? name = (drafts.find? name).map fun draft =>
        (drafts.moduleOf o name draft).toDraft path draft.imports := by
  have hsorted : (Loaded.sorted reloaded).Perm ((drafts.model o).toLoaded path) :=
    (List.mergeSort_perm _ _).trans hperm
  have hmem : ∀ l, l ∈ Loaded.sorted reloaded ↔ _ :=
    fun l => hsorted.mem_iff.trans h.mem_toLoaded_iff
  have hfirst : ∀ name draft, drafts.find? name = some draft →
      first ((drafts.moduleOf o name draft).toLoaded path) =
        ((drafts.moduleOf o name draft).toDraft path draft.imports, []) := by
    intro name draft hdraft
    obtain ⟨hobject, hdistinct⟩ := hcode name _ (module_of_draft hdraft)
    exact h.first_toLoaded hdraft (module_of_draft hdraft) hobject hdistinct path
  have hfresh : ∀ l ∈ Loaded.sorted reloaded, Table.find? l.document.name ([] : Drafts) = none :=
    fun _ _ => rfl
  have hnodup : ((Loaded.sorted reloaded).map (·.document.name)).Nodup :=
    (hsorted.map _).nodup_iff.2 (h.nodup_toLoaded o path)
  refine ⟨absorbAll_eq_nil hfresh hnodup fun l hl => ?_, fun name => Option.ext fun kept => ?_⟩
  · obtain ⟨name, draft, hdraft, rfl⟩ := (hmem l).1 hl
    have hmd := module_of_draft (o := o) hdraft
    exact ⟨h.headerProblems_toDocument hmd (hcode _ _ hmd).1,
      congrArg Prod.snd (hfirst name draft hdraft)⟩
  · rw [Loaded.drafts, find?_absorbAll_iff hfresh hnodup, Table.find?_nil, Option.map_eq_some_iff]
    constructor
    · rintro (hkept | ⟨l, hl, rfl, rfl⟩)
      · cases hkept
      · obtain ⟨name, draft, hdraft, rfl⟩ := (hmem l).1 hl
        exact ⟨draft, hdraft, (congrArg Prod.fst (hfirst name draft hdraft)).symm⟩
    · rintro ⟨draft, hdraft, rfl⟩
      exact .inr ⟨_, (hmem _).2 ⟨name, draft, hdraft, rfl⟩, rfl,
        (congrArg Prod.fst (hfirst name draft hdraft)).symm⟩

end Drafts.Complete

/-! ## Building the types again -/

namespace Drafts

variable {drafts again : Drafts} {docs : List Loaded} {o o' : Overlay} {path : String → String}
  {name n : String} {md : ModuleDef} {k : TypeKey} {t : TypeDef} {d : DeclDraft}

/-- The drafts `again` hold what the modules that `drafts` are built to are written back as. -/
structure Reloads (again drafts : Drafts) (o : Overlay) (path : String → String) : Prop where
  sorted : Table.Sorted again
  find : ∀ name, again.find? name = (drafts.find? name).map fun draft =>
    (drafts.moduleOf o name draft).toDraft path draft.imports

namespace Reloads

theorem has (hr : Reloads again drafts o path) (name : String) :
    again.has name = drafts.has name := by
  rw [Table.has, Table.has, hr.find, Option.isSome_map]

/-- The modules import what they imported. -/
theorem importGraph (hr : Reloads again drafts o path) (h : Table.Sorted drafts) :
    again.importGraph = drafts.importGraph := by
  refine importGraph_congr (Table.Sorted.ext (sorted_importKeys hr.sorted) (sorted_importKeys h)
    fun name => ?_)
  rw [find?_importKeys, find?_importKeys, hr.find, Option.map_map]
  rfl

/-- A declaration is kept of each type of the model. -/
theorem declOf_iff (hr : Reloads again drafts o path) : again.declOf k = some d ↔
    ∃ md, (drafts.model o).modules.find? k.module = some md ∧
      ∃ t, md.types.find? k.name = some t ∧ t.toDraft (path k.module) md.origin = d := by
  simp only [declOf, hr.find, Option.bind_eq_some_iff, Option.map_eq_some_iff]
  constructor
  · rintro ⟨_, ⟨draft, hdraft, rfl⟩, hd⟩
    refine ⟨_, module_of_draft hdraft, ?_⟩
    simp only [ModuleDef.toDraft] at hd
    rw [Table.find?_map fun _ (t : TypeDef) => t.toDraft _ _, Option.map_eq_some_iff] at hd
    exact hd
  · rintro ⟨md, hmd, hd⟩
    obtain ⟨draft, hdraft, rfl⟩ := draft_of_module hmd
    refine ⟨_, ⟨draft, hdraft, rfl⟩, ?_⟩
    simp only [ModuleDef.toDraft]
    rw [Table.find?_map fun _ (t : TypeDef) => t.toDraft _ _, Option.map_eq_some_iff]
    exact hd

/-- **Names are resolved as they were.** -/
theorem implements (hr : Reloads again drafts o path) (h : Complete drafts docs) :
    again.ownScope.Implements (Loaded.namespaceOf docs) where
  kind k kind := by
    rw [← h.scope.kind, ownScope, ownScope, kindOf_scope, kindOf_scope, Option.map_eq_some_iff,
      Option.map_eq_some_iff]
    constructor
    · rintro ⟨d, hd, rfl⟩
      obtain ⟨md, hmd, t, ht, rfl⟩ := hr.declOf_iff.1 hd
      obtain ⟨kept, hkept, -, -, hbinds⟩ := h.bindsBody_declOf (h.gathers.lookup_of_types hmd ht).1
      exact ⟨kept, hkept, (TypeDef.kind_toDecl hbinds).symm⟩
    · rintro ⟨kept, hkept, rfl⟩
      obtain ⟨t, hbuilt⟩ := h.built k kept hkept
      have hlookup : (drafts.model o).lookup k = some t :=
        (lookup_model h.gathers).2 ⟨kept, hkept, (h.agrees.wellFormed h.gathers hkept).2, hbuilt⟩
      obtain ⟨md, hmd, ht⟩ := Option.bind_eq_some_iff.1 hlookup
      obtain ⟨kept', hkept', -, -, hbinds⟩ := h.bindsBody_declOf hlookup
      cases hkept.symm.trans hkept'
      exact ⟨_, hr.declOf_iff.2 ⟨md, hmd, t, ht, rfl⟩, TypeDef.kind_toDecl hbinds⟩
  reaches a b := by
    rw [← h.scope.reaches, ownScope, ownScope, closureOf_scope, closureOf_scope, hr.has,
      hr.importGraph h.gathers.sorted]
  nodup a := by
    have hnodup := h.scope.nodup a
    rw [ownScope, closureOf_scope] at hnodup ⊢
    rwa [hr.has, hr.importGraph h.gathers.sorted]

/-- **Every type is built again**, with the origin of its module. -/
theorem buildType_toDraft (hr : Reloads again drafts o path) (h : Complete drafts docs)
    (hmd : (drafts.model o).modules.find? name = some md) (ht : md.types.find? n = some t)
    (path' : String) : again.ownScope.buildType name (t.toDraft path' md.origin) =
      .ok (t.retag md.origin) := by
  obtain ⟨hlookup, hkey⟩ := h.gathers.lookup_of_types hmd ht
  obtain ⟨d, -, -, -, hbinds⟩ := h.bindsBody_declOf hlookup
  obtain rfl : t.module = name := congrArg TypeKey.module hkey
  exact (hr.implements h).buildType_toDecl h.named hbinds path' md.origin true

/-- The types of a module are built again. -/
theorem builtTypes_toDraft (hr : Reloads again drafts o path) (h : Complete drafts docs)
    (hmd : (drafts.model o).modules.find? name = some md) (imports : Table Import) :
    builtTypes (buildTypes again.ownScope name (md.toDraft path imports)) =
      md.types.map fun e => (e.1, e.2.retag md.origin) := by
  have htypes := h.gathers.sorted_types hmd
  have hsorted : (md.toDraft path imports).types.Sorted :=
    htypes.map fun _ t => t.toDraft (path md.name) md.origin
  refine (sorted_builtTypes hsorted _ _).ext (htypes.map fun _ t => t.retag md.origin) fun n => ?_
  rw [Table.find?_map fun _ (t : TypeDef) => t.retag md.origin]
  refine Option.ext fun u => (find?_builtTypes hsorted).trans ?_
  simp only [ModuleDef.toDraft, Option.map_eq_some_iff]
  rw [Table.find?_map fun _ (t : TypeDef) => t.toDraft (path md.name) md.origin]
  constructor
  · rintro ⟨d, hd, -, hbuilt⟩
    obtain ⟨t, ht, rfl⟩ := Option.map_eq_some_iff.1 hd
    rw [hr.buildType_toDraft h hmd ht] at hbuilt
    exact ⟨t, ht, Except.ok.inj hbuilt⟩
  · rintro ⟨t, ht, rfl⟩
    exact ⟨_, Option.map_eq_some_iff.2 ⟨t, ht, rfl⟩, rfl, hr.buildType_toDraft h hmd ht _⟩

/-- **The modules are what they were**, where the overlay finds its values laid. -/
theorem modules_eq (hr : Reloads again drafts o path) (h : Complete drafts docs)
    (hlaid : ∀ name md, (drafts.model o).modules.find? name = some md →
      o'.resolve name md.code = md.code) :
    again.modules o' = (drafts.modules o).map fun e => (e.1, e.2.retag path) := by
  refine (sorted_modules hr.sorted).ext
    ((sorted_modules h.gathers.sorted).map fun _ md => md.retag path) fun name => ?_
  rw [find?_modules, hr.find, Table.find?_map fun _ (md : ModuleDef) => md.retag path,
    find?_modules, Option.map_map, Option.map_map]
  refine Option.map_congr fun draft hdraft => ?_
  have hmd := module_of_draft (o := o) hdraft
  have htypes := hr.builtTypes_toDraft h hmd draft.imports
  have hcode := hlaid name _ hmd
  simp only [Function.comp_apply, moduleOf] at htypes hcode ⊢
  simp only [finishModule, ModuleDef.toDraft, ModuleDef.retag] at htypes hcode ⊢
  rw [htypes, hcode]

/-- Nothing fails. -/
theorem finish_clean (hr : Reloads again drafts o path) (h : Complete drafts docs)
    {others : List Loaded} (hg : Gathers again others) (o' : Overlay) :
    (again.finish o' again.ownScope).2 = [] := by
  refine (Drafts.finish_clean_iff hg).2 fun k d hd _ => ?_
  obtain ⟨md, hmd, t, ht, rfl⟩ := hr.declOf_iff.1 hd
  exact ⟨_, hr.buildType_toDraft h hmd ht _⟩

end Reloads

end Drafts

/-- Origins do not matter to what types extend. -/
theorem inheritanceGraph_retag (path : String → String) (modules : Table ModuleDef) :
    inheritanceGraph (modules.map fun e => (e.1, e.2.retag path)) = inheritanceGraph modules := by
  have htype : ∀ (origin : Origin) (g : Graph) (t : TypeDef),
      g.addType (t.retag origin) = g.addType t := by
    intro origin g t
    rw [Graph.addType, Graph.addType, TypeDef.parent_retag]
    rfl
  simp only [inheritanceGraph_eq, Table.values, List.foldl_flatMap, List.map_map, List.foldl_map,
    Function.comp_apply, ModuleDef.retag, htype]

/-! ## Merging again -/

/-- **A model that is written back and merged again is the same model**, with any paths, in any
order, and under any overlay whose values it has already. -/
theorem Drafts.Complete.merge_toLoaded {drafts : Drafts} {docs reloaded : List Loaded}
    {o o' : Overlay} {path : String → String} (h : Complete drafts docs)
    (hcode : (drafts.model o).ObjectCode) (hcycles : drafts.importGraph.1.cycles = [])
    (hknown : drafts.importGraph.2 = [])
    (hlineage : (inheritanceGraph (drafts.modules o)).cycles = [])
    (hlaid : ∀ name md, (drafts.model o).modules.find? name = some md →
      o'.resolve name md.code = md.code)
    (hperm : reloaded.Perm ((drafts.model o).toLoaded path)) :
    merge o' reloaded = .ok ((drafts.model o).retag path) := by
  obtain ⟨hcollected, hfind⟩ := h.collect_toLoaded hcode hperm
  have hg : (Loaded.drafts reloaded).Gathers (Loaded.sorted reloaded) := gathers_collect _
  have hr : (Loaded.drafts reloaded).Reloads drafts o path := ⟨hg.sorted, hfind⟩
  have hgraph := hr.importGraph h.gathers.sorted
  have hmodules := hr.modules_eq h hlaid
  refine merge_eq_ok_iff.2 ⟨hcollected, hgraph ▸ hknown, hgraph ▸ hcycles, hr.finish_clean h hg o',
    ?_, ?_⟩
  · rw [hmodules, inheritanceGraph_retag]
    exact hlineage
  · rw [model, hmodules, hgraph]
    rfl

/-- The parameters of a built module are an object, with those of the overlay laid already. -/
theorem Drafts.Complete.code_of_module {drafts : Drafts} {docs : List Loaded} {o : Overlay}
    {name : String} {md : ModuleDef} (h : Complete drafts docs) (ho : o.WellFormed)
    (hdistinct : ∀ l ∈ docs, l.document.code.Distinct)
    (hmd : (drafts.model o).modules.find? name = some md) :
    (md.code.isObject = true ∧ md.code.Distinct) ∧ o.resolve name md.code = md.code ∧
      Overlay.empty.resolve name md.code = md.code := by
  obtain ⟨draft, hdraft, rfl⟩ := draft_of_module hmd
  have hcode : draft.code.Distinct := (h.gathers.modules _ _ hdraft).distinct fun l hl =>
    hdistinct l (Loaded.mem_ofModule.1 hl).1
  have hobject : (o.resolve name draft.code).isObject = true := ho.isObject_resolve
  refine ⟨⟨hobject, ho.distinct_resolve hcode⟩, ho.resolve_resolve hcode, ?_⟩
  simp only [moduleOf, finishModule]
  cases hr : o.resolve name draft.code with
  | obj members => exact Overlay.resolve_empty name members
  | _ => simp [hr, Json.isObject] at hobject

/-- **A merged model that is written back and merged again is the same model**, whether the overlay
is laid a second time or not; only paths and the origins of types are new. Written back once more,
it gives the same documents. No object has a key twice, as is the case for all that is read. -/
theorem remerge_of_merge {o : Overlay} {documents reloaded : List Loaded} {m : Model}
    (ho : o.WellFormed) (hdistinct : ∀ l ∈ documents, l.document.code.Distinct)
    (h : merge o documents = .ok m) (path : String → String)
    (hperm : reloaded.Perm (m.toLoaded path)) :
    merge Overlay.empty reloaded = .ok (m.retag path) ∧ merge o reloaded = .ok (m.retag path) ∧
      (m.retag path).modules.values.map ModuleDef.toDocument =
        m.modules.values.map ModuleDef.toDocument := by
  obtain ⟨hcomplete, rfl⟩ := complete_of_merge h
  obtain ⟨-, hknown, hcycles, -, hlineage, -⟩ := merge_eq_ok_iff.1 h
  have hdistinct' : ∀ l ∈ Loaded.sorted documents, l.document.code.Distinct :=
    fun l hl => hdistinct l (Loaded.mem_sorted.1 hl)
  have hcode : ∀ name md, ((Loaded.drafts documents).model o).modules.find? name = some md → _ :=
    fun _ _ hmd => hcomplete.code_of_module ho hdistinct' hmd
  have hobject : ((Loaded.drafts documents).model o).ObjectCode :=
    fun name md hmd => (hcode name md hmd).1
  refine ⟨?_, ?_, Model.toDocument_retag path _⟩
  · exact hcomplete.merge_toLoaded hobject hcycles hknown hlineage
      (fun name md hmd => (hcode name md hmd).2.2) hperm
  · exact hcomplete.merge_toLoaded hobject hcycles hknown hlineage
      (fun name md hmd => (hcode name md hmd).2.1) hperm

/-- Values for all modules, and one for the core that the global values do not hide. -/
def sampleOverlay : Overlay where
  global := [("package", .str "org.all"), ("tags", .obj [("run", .bool true)])]
  modules := [("core", .obj [("package", .str "org.other")])]
  typeMappings := []

theorem exists_merge_sampleOverlay : ∃ m, merge sampleOverlay sample = .ok m := by
  have hany : (merge sampleOverlay sample).toOption.any (fun _ => true) = true := by
    rw [merge, sorted_sample]
    decide +kernel
  obtain ⟨m, hm, -⟩ := exists_of_any_toOption hany
  exact ⟨m, hm⟩

/-- The sample's model, written back in the other order. -/
theorem remerge_of_merge_sample :
    sampleOverlay.WellFormed ∧ ∃ m, merge sampleOverlay sample = .ok m ∧
      merge Overlay.empty (m.toLoaded ("out/" ++ · ++ ".json")).reverse =
        .ok (m.retag ("out/" ++ · ++ ".json")) ∧
      merge sampleOverlay (m.toLoaded ("out/" ++ · ++ ".json")).reverse =
        .ok (m.retag ("out/" ++ · ++ ".json")) := by
  have htags : (Json.obj [("run", .bool true)]).Distinct :=
    .obj (by decide) (by simpa using Json.Distinct.bool true)
  have hpackage : (Json.obj [("package", .str "org.other")]).Distinct :=
    .obj (by decide) (by simpa using Json.Distinct.str "org.other")
  have ho : sampleOverlay.WellFormed := {
    global := .obj (by decide) (by simpa [sampleOverlay] using ⟨.str "org.all", htags⟩)
    modules := .obj (by decide) (by simpa [sampleOverlay] using hpackage)
    objects := by simp [sampleOverlay, Json.isObject] }
  obtain ⟨m, hm⟩ := exists_merge_sampleOverlay
  obtain ⟨hempty, hagain, -⟩ := remerge_of_merge ho (fun l hl => (distinct_sample l hl).code) hm
    ("out/" ++ · ++ ".json") (List.reverse_perm _)
  exact ⟨ho, m, hm, hempty, hagain⟩

end InterfaceGen
