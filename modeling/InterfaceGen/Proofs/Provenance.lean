import InterfaceGen.Proofs.Graph.Order
import InterfaceGen.Proofs.Path
import InterfaceGen.Proofs.Validity

/-!
# Proofs/Provenance — a model holds what its documents declare, and says where it is from

Nothing is lost on the way, nothing is there twice, and local is what a local document declares.
Origins and imports are folded over the documents of a module, so each fact is one that the drafts
gather and a successful merge keeps. The order of the modules comes from the import graph, whose
nodes are the modules of the model. Main statement: `provenance_of_merge`.
-/

namespace InterfaceGen

theorem Origin.isLocal_iff {a : Origin} : a.isLocal = true ↔ a = .local := by
  cases a <;> decide

/-- The parts of a model and where in the documents each of them is from. -/
structure Model.Provenance (m : Model) (documents : List Loaded) : Prop where
  /-- A module is in the model exactly when a document declares it. -/
  modules : ∀ name, m.modules.has name = true ↔ ∃ l ∈ documents, l.document.name = name
  /-- A type is in the model exactly when a document of its module declares it. -/
  types : ∀ k, (∃ t, m.lookup k = some t) ↔ ∃ l ∈ documents, l.document.name = k.module ∧
    ∃ d ∈ l.document.declarations, d.name = k.name
  /-- A module is local exactly when one of its documents is. -/
  moduleOrigin : ∀ name md, m.modules.find? name = some md →
    (md.origin = .local ↔ ∃ l ∈ documents, l.document.name = name ∧ l.origin = .local)
  /-- A type is local exactly when a local document declares it. -/
  typeOrigin : ∀ k t, m.lookup k = some t →
    (t.origin = .local ↔ ∃ l ∈ documents, l.document.name = k.module ∧ l.origin = .local ∧
      ∃ d ∈ l.document.declarations, d.name = k.name)
  /-- An event has the origin of its type. -/
  eventOrigin : ∀ k t, m.lookup k = some t → ∀ e ∈ t.events, e.origin = t.origin
  /-- A local type lies in a local module. -/
  localTypes : ∀ k t md, m.lookup k = some t → m.modules.find? k.module = some md →
    t.origin = .local → md.origin = .local
  /-- A module imports what its documents import, each module once. -/
  imports : ∀ name md, m.modules.find? name = some md → (md.imports.map (·.name)).Nodup ∧
    ∀ other, other ∈ md.imports.map (·.name) ↔ ∃ l ∈ documents, l.document.name = name ∧
      ∃ i ∈ l.document.imports, i.name = other
  /-- A module lists the paths of its documents… -/
  documents : ∀ name md, m.modules.find? name = some md →
    md.documents.Perm ((documents.filter (·.document.name = name)).map (·.path))
  /-- …in path order. -/
  pathOrder : ∀ name md, m.modules.find? name = some md →
    md.documents.Pairwise fun p q => Path.compare p q ≠ .gt
  /-- Modules and types are stored once, under their own names. -/
  keys : m.modules.keys.Nodup ∧ ∀ name md, (name, md) ∈ m.modules → md.name = name ∧
    md.types.keys.Nodup ∧ ∀ n t, (n, t) ∈ md.types → t.name = n ∧ t.module = name
  /-- The order lists the modules, each of them once… -/
  order : m.order.Nodup ∧ ∀ name, name ∈ m.order ↔ m.modules.has name = true
  /-- …and each after all that it imports. -/
  importsFirst : ∀ name md, m.modules.find? name = some md → ∀ i ∈ md.imports,
    ∃ front back, m.order = front ++ name :: back ∧ i.name ∈ front

namespace Drafts

variable {drafts : Drafts} {docs : List Loaded} {o : Overlay} {name : String} {md : ModuleDef}
  {k : TypeKey} {t : TypeDef}

namespace Complete

/-- **A type is local exactly when a local document declares it.** -/
theorem typeOrigin_iff (h : Complete drafts docs) (ht : (drafts.model o).lookup k = some t) :
    t.origin = .local ↔ ∃ l ∈ docs, l.document.name = k.module ∧ l.origin = .local ∧
      ∃ d ∈ l.document.declarations, d.name = k.name := by
  obtain ⟨kept, hkept, -, -, horigin⟩ := h.declOf_of_lookup ht
  obtain ⟨draft, hdraft, hfind⟩ := Option.bind_eq_some_iff.1 hkept
  rw [horigin, ← Origin.isLocal_iff]
  constructor
  · intro hlocal
    obtain ⟨-, -, -, hfrom⟩ := (h.gathers.modules _ _ hdraft).types.kept _ _ hfind
    obtain ⟨⟨l, d⟩, hw, hl, hn⟩ := hfrom hlocal
    obtain ⟨hmem, hd⟩ := Loaded.mem_written.1 hw
    obtain ⟨hmem, hm⟩ := Loaded.mem_ofModule.1 hmem
    exact ⟨l, hmem, hm, Origin.isLocal_iff.1 hl, d, hd, hn⟩
  · rintro ⟨l, hl, hm, hlocal, d, hd, hn⟩
    have hw : (l, d) ∈ Loaded.written (Loaded.ofModule k.module docs) :=
      Loaded.mem_written.2 ⟨Loaded.mem_ofModule.2 ⟨hl, hm⟩, hd⟩
    rw [← hn] at hfind
    exact ((h.agrees _ _ hdraft).types.same _ hw kept hfind).2 (Origin.isLocal_iff.2 hlocal)

/-- **A module is local exactly when one of its documents is.** -/
theorem moduleOrigin_iff (h : Complete drafts docs)
    (hmd : (drafts.model o).modules.find? name = some md) :
    md.origin = .local ↔ ∃ l ∈ docs, l.document.name = name ∧ l.origin = .local := by
  obtain ⟨draft, hdraft, rfl⟩ := draft_of_module hmd
  rw [← Origin.isLocal_iff]
  refine (h.gathers.modules _ _ hdraft).origin.trans ?_
  simp only [Loaded.mem_ofModule, Origin.isLocal_iff, and_assoc]

/-- **A module imports what its documents import.** -/
theorem mem_imports_iff (h : Complete drafts docs)
    (hmd : (drafts.model o).modules.find? name = some md) : (md.imports.map (·.name)).Nodup ∧
      ∀ other, other ∈ md.imports.map (·.name) ↔ Loaded.Imports docs name other := by
  obtain ⟨draft, hdraft, rfl⟩ := draft_of_module hmd
  have himports := (h.gathers.modules _ _ hdraft).imports
  -- an import is kept under its own name, so the names are the keys
  have hnames : draft.imports.values.map (·.name) = draft.imports.keys := by
    simp only [Table.values, Table.keys, List.map_map]
    exact List.map_congr_left fun e he =>
      (himports.kept e.1 e.2 (himports.sorted.mem_iff.1 he)).1
  simp only [Drafts.moduleOf, finishModule, hnames]
  refine ⟨himports.sorted.nodup_keys, fun other => ?_⟩
  rw [Table.mem_keys_iff_has, himports.has]
  simp only [List.mem_flatMap, Loaded.mem_ofModule, Loaded.Imports]
  constructor
  · rintro ⟨i, ⟨l, ⟨hl, hm⟩, hi⟩, hn⟩
    exact ⟨l, hl, hm, i, hi, hn⟩
  · rintro ⟨l, hl, hm, i, hi, hn⟩
    exact ⟨i, ⟨l, ⟨hl, hm⟩, hi⟩, hn⟩

/-- **A module comes after what it imports**, as long as no imports form a cycle. -/
theorem importsFirst (h : Complete drafts docs) (hknown : drafts.importGraph.2 = [])
    (hacyclic : ∀ a, ¬ Relation.TransGen (Loaded.Imports docs) a a)
    (hmd : (drafts.model o).modules.find? name = some md) {i : Import} (hi : i ∈ md.imports) :
    ∃ front back, (drafts.model o).order = front ++ name :: back ∧ i.name ∈ front := by
  have hheaders := h.agrees.headers h.gathers
  have himports : Loaded.Imports docs name i.name :=
    ((h.mem_imports_iff hmd).2 i.name).1 (List.mem_map_of_mem hi)
  have hdraft := (h.gathers.imports_iff hheaders).2 himports
  refine Graph.exists_order_eq_append (wellFormed_importGraph drafts)
    ((dependsOn_importGraph h.gathers.sorted).2 ⟨hdraft,
      (unknown_eq_nil_iff h.gathers.sorted).1 hknown _ _ hdraft⟩) fun hback => ?_
  exact hacyclic name (.head himports ((h.gathers.reaches_iff hheaders hknown).1 hback))

/-- Modules and types are stored once, under their own names. -/
theorem keys (h : Complete drafts docs) : (drafts.model o).modules.keys.Nodup ∧
    ∀ name md, (name, md) ∈ (drafts.model o).modules → md.name = name ∧ md.types.keys.Nodup ∧
      ∀ n t, (n, t) ∈ md.types → t.name = n ∧ t.module = name := by
  have hsorted : (drafts.model o).modules.Sorted := sorted_modules h.gathers.sorted
  refine ⟨hsorted.nodup_keys, fun name md hmem => ?_⟩
  have hmd := hsorted.mem_iff.1 hmem
  have htypes := h.gathers.sorted_types hmd
  refine ⟨name_of_module hmd, htypes.nodup_keys, fun n t ht => ?_⟩
  obtain ⟨-, hkey⟩ := h.gathers.lookup_of_types hmd (htypes.mem_iff.1 ht)
  exact ⟨congrArg TypeKey.name hkey, congrArg TypeKey.module hkey⟩

end Complete

end Drafts

/-- The paths of a module's documents, and their order, when documents are taken in path order. -/
theorem Loaded.paths_ofModule (documents : List Loaded) (name : String) :
    ((ofModule name (sorted documents)).map (·.path)).Perm
        ((documents.filter (·.document.name = name)).map (·.path)) ∧
      ((ofModule name (sorted documents)).map (·.path)).Pairwise fun p q =>
        Path.compare p q ≠ .gt :=
  ⟨((List.mergeSort_perm documents _).filter _).map _,
    List.Pairwise.map _ (fun _ _ hle => hle) ((pairwise_sorted documents).filter _)⟩

/-- **A merged model holds what its documents declare, and says where it is from.** -/
theorem provenance_of_merge {o : Overlay} {documents : List Loaded} {m : Model}
    (h : merge o documents = .ok m) : m.Provenance documents := by
  obtain ⟨hcomplete, rfl⟩ := complete_of_merge h
  obtain ⟨-, hknown, hcycles, -, -, -⟩ := merge_eq_ok_iff.1 h
  have hacyclic := (hcomplete.agrees.cycles_eq_nil_iff hcomplete.gathers hknown).1 hcycles
  have hwf := Drafts.wellFormed_importGraph (Loaded.drafts documents)
  have hmodule : ∀ name md, ((Loaded.drafts documents).model o).modules.find? name = some md →
      (md.origin = .local ↔ _) := fun _ _ hmd => hcomplete.moduleOrigin_iff hmd
  have htype : ∀ k t, ((Loaded.drafts documents).model o).lookup k = some t →
      (t.origin = .local ↔ _) := fun _ _ ht => hcomplete.typeOrigin_iff ht
  have hpaths : ∀ name md, ((Loaded.drafts documents).model o).modules.find? name = some md →
      md.documents = (Loaded.ofModule name (Loaded.sorted documents)).map (·.path) := by
    intro name md hmd
    obtain ⟨draft, hdraft, rfl⟩ := Drafts.draft_of_module hmd
    exact (hcomplete.gathers.modules _ _ hdraft).documents
  refine {
    modules := fun name => ?_
    types := fun k => ?_
    moduleOrigin := fun name md hmd => ?_
    typeOrigin := fun k t ht => ?_
    eventOrigin := fun k t ht e he => ?_
    localTypes := fun k t md ht hmd hlocal => ?_
    imports := fun name md hmd => ?_
    documents := fun name md hmd => hpaths name md hmd ▸ (Loaded.paths_ofModule documents name).1
    pathOrder := fun name md hmd => hpaths name md hmd ▸ (Loaded.paths_ofModule documents name).2
    keys := hcomplete.keys
    order := ⟨Graph.nodup_order hwf, fun name => ?_⟩
    importsFirst := fun name md hmd i hi => hcomplete.importsFirst hknown hacyclic hmd hi }
  · rw [Drafts.has_modules, hcomplete.gathers.has]
    simp only [Loaded.mem_sorted]
  · rw [hcomplete.lookup_iff_declares, Loaded.declares_namespaceOf]
    simp only [Loaded.mem_sorted]
  · rw [hmodule name md hmd]
    simp only [Loaded.mem_sorted]
  · rw [htype k t ht]
    simp only [Loaded.mem_sorted]
  · obtain ⟨d, -, hbuilt, -, -⟩ := hcomplete.declOf_of_lookup ht
    exact (Scope.events_buildType hbuilt e he).2
  · obtain ⟨l, hl, hm, hlocal, -⟩ := (htype k t ht).1 hlocal
    exact (hmodule _ md hmd).2 ⟨l, hl, hm, hlocal⟩
  · have himports := hcomplete.mem_imports_iff hmd
    simp only [Loaded.Imports, Loaded.mem_sorted] at himports
    exact himports
  · rw [Drafts.has_modules, ← Drafts.mem_nodes_importGraph]
    exact Graph.mem_order hwf

/-- The sample's model holds what the sample declares. -/
theorem provenance_of_merge_sample :
    ∃ m, merge Overlay.empty sample = .ok m ∧ m.Provenance sample := by
  obtain ⟨m, hm⟩ := exists_merge_sample
  exact ⟨m, hm, provenance_of_merge hm⟩

end InterfaceGen
