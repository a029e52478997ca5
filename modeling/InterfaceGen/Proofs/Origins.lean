import InterfaceGen.Proofs.Entities
import InterfaceGen.Proofs.Reexport

/-!
# Proofs/Origins — which types are local after a model was written back

A document has one origin, so the types of a module that is written back all get the origin of the
module. A local type stays local; an imported type becomes local exactly where its module is local,
and a module is as soon as one of its documents is. The local types are therefore the same as before
if and only if no local module has an imported type (`Model.Unmixed`). Main statement:
`relocates_of_remerge`.
-/

namespace InterfaceGen

/-- The keys of the local types. -/
def Model.localKeys (m : Model) : List TypeKey := m.localTypes.map (·.key)

/-- No local module has an imported type. -/
def Model.Unmixed (m : Model) : Prop :=
  ∀ name md, m.modules.find? name = some md → md.origin = .local →
    ∀ n t, md.types.find? n = some t → t.origin = .local

/-- What becomes of the origins of a model that is written back and merged again. -/
structure Model.Relocates (m again : Model) : Prop where
  /-- The types are the same… -/
  types : ∀ k, (∃ t, again.lookup k = some t) ↔ ∃ t, m.lookup k = some t
  /-- …and have the origins of their modules. -/
  origin : ∀ k t md, again.lookup k = some t → m.modules.find? k.module = some md →
    t.origin = md.origin
  /-- Local types stay local. -/
  kept : ∀ k ∈ m.localKeys, k ∈ again.localKeys
  /-- Imported types of imported modules stay imported. -/
  imported : ∀ k md, m.modules.find? k.module = some md → md.origin = .imported →
    k ∉ again.localKeys
  /-- The same types are local exactly when no local module has an imported one. -/
  same : (∀ k, k ∈ again.localKeys ↔ k ∈ m.localKeys) ↔ m.Unmixed

namespace Model

variable {m : Model} {k : TypeKey} {path : String → String}

/-- Local types are found under their keys. -/
theorem Coherent.mem_localKeys_iff (h : m.Coherent) :
    k ∈ m.localKeys ↔ ∃ t, m.lookup k = some t ∧ t.origin = .local := by
  simp only [localKeys, Model.localTypes, Model.types, List.mem_map, List.mem_filter,
    List.mem_flatMap, Origin.isLocal_iff]
  constructor
  · rintro ⟨t, ⟨⟨md, hmd, ht⟩, hlocal⟩, rfl⟩
    obtain ⟨hfind, hmodule⟩ := h.find?_of_mem_types hmd ht
    refine ⟨t, Option.bind_eq_some_iff.2 ⟨md, ?_, hfind⟩, hlocal⟩
    rw [congrArg TypeKey.module hmodule]
    exact h.find?_of_mem hmd
  · rintro ⟨t, ht, hlocal⟩
    obtain ⟨md, hmd, ht⟩ := Option.bind_eq_some_iff.1 ht
    exact ⟨t, ⟨⟨md, Table.mem_values.2 ⟨_, Table.mem_of_find? hmd⟩,
      Table.mem_values.2 ⟨_, Table.mem_of_find? ht⟩⟩, hlocal⟩, h.key hmd ht⟩

theorem lookup_retag (m : Model) (path : String → String) (k : TypeKey) :
    (m.retag path).lookup k = (m.modules.find? k.module).bind fun md =>
      (md.types.find? k.name).map (·.retag md.origin) := by
  simp only [lookup, retag]
  rw [Table.find?_map fun _ (md : ModuleDef) => md.retag path, Option.bind_map]
  congr 1
  funext md
  exact Table.find?_map (fun _ (t : TypeDef) => t.retag md.origin) _ _

/-- **A module that is written back gives its types its origin.** -/
theorem Coherent.relocates_retag (h : m.Coherent) (again : (m.retag path).Coherent) :
    m.Relocates (m.retag path) := by
  have hlookup : ∀ {k t}, (m.retag path).lookup k = some t ↔
      ∃ md, m.modules.find? k.module = some md ∧
        ∃ u, md.types.find? k.name = some u ∧ u.retag md.origin = t := by
    intro k t
    rw [lookup_retag, Option.bind_eq_some_iff]
    simp only [Option.map_eq_some_iff]
  have horigin : ∀ k t md, (m.retag path).lookup k = some t → m.modules.find? k.module = some md →
      t.origin = md.origin := by
    intro k t md ht hmd
    obtain ⟨md', hmd', u, -, rfl⟩ := hlookup.1 ht
    cases hmd.symm.trans hmd'
    rfl
  have hkept : ∀ k ∈ m.localKeys, k ∈ (m.retag path).localKeys := by
    intro k hk
    obtain ⟨t, ht, hlocal⟩ := h.mem_localKeys_iff.1 hk
    obtain ⟨md, hmd, ht⟩ := Option.bind_eq_some_iff.1 ht
    refine again.mem_localKeys_iff.2 ⟨_, hlookup.2 ⟨md, hmd, t, ht, rfl⟩, ?_⟩
    exact Origin.isLocal_iff.1 (h.localTypes hmd ht (Origin.isLocal_iff.2 hlocal))
  refine ⟨fun k => ?_, horigin, hkept, fun k md hmd himported hk => ?_, fun hsame => ?_,
    fun hunmixed k => ⟨fun hk => ?_, hkept k⟩⟩
  · rw [lookup_retag, lookup]
    cases m.modules.find? k.module <;> simp
  · obtain ⟨t, ht, hlocal⟩ := again.mem_localKeys_iff.1 hk
    cases hlocal.symm.trans ((horigin k t md ht hmd).trans himported)
  · intro name md hmd hlocal n t ht
    have hmem : (⟨name, n⟩ : TypeKey) ∈ (m.retag path).localKeys :=
      again.mem_localKeys_iff.2 ⟨_, hlookup.2 ⟨md, hmd, t, ht, rfl⟩, hlocal⟩
    obtain ⟨t', ht', hlocal'⟩ := h.mem_localKeys_iff.1 ((hsame _).1 hmem)
    obtain ⟨md', hmd', ht'⟩ := Option.bind_eq_some_iff.1 ht'
    cases hmd.symm.trans hmd'
    cases ht.symm.trans ht'
    exact hlocal'
  · obtain ⟨t, ht, hlocal⟩ := again.mem_localKeys_iff.1 hk
    obtain ⟨md, hmd, u, hu, rfl⟩ := hlookup.1 ht
    exact h.mem_localKeys_iff.2 ⟨u, Option.bind_eq_some_iff.2 ⟨md, hmd, hu⟩,
      hunmixed _ md hmd hlocal _ u hu⟩

end Model

/-- Merged again, a model that was written back has the types of the model with the origins of their
modules, under any overlay that was laid already. -/
theorem merge_toLoaded_of_merge {o : Overlay} {documents reloaded : List Loaded} {m : Model}
    (ho : o.WellFormed) (hdistinct : ∀ l ∈ documents, l.document.code.Distinct)
    (h : merge o documents = .ok m) {path : String → String}
    (hperm : reloaded.Perm (m.toLoaded path)) :
    merge Overlay.empty reloaded = .ok (m.retag path) ∧ merge o reloaded = .ok (m.retag path) := by
  obtain ⟨hcomplete, rfl⟩ := complete_of_merge h
  obtain ⟨-, hknown, hcycles, -, hlineage, -⟩ := merge_eq_ok_iff.1 h
  have hcode : ∀ name md, ((Loaded.drafts documents).model o).modules.find? name = some md → _ :=
    fun _ _ hmd => hcomplete.code_of_module ho
      (fun l hl => hdistinct l (Loaded.mem_sorted.1 hl)) hmd
  have hagain : ∀ o' : Overlay, (∀ name md,
      ((Loaded.drafts documents).model o).modules.find? name = some md →
        o'.resolve name md.code = md.code) → merge o' reloaded = .ok _ :=
    fun _ hlaid => hcomplete.merge_toLoaded (fun name md hmd => (hcode name md hmd).1) hcycles
      hknown hlineage hlaid hperm
  exact ⟨hagain _ fun name md hmd => (hcode name md hmd).2.2,
    hagain _ fun name md hmd => (hcode name md hmd).2.1⟩

/-- **Types have the origins of their modules after a model was written back**, each module as a
document with the origin that the document records, and was merged again. -/
theorem relocates_of_remerge {o : Overlay} {documents reloaded : List Loaded} {m : Model}
    (ho : o.WellFormed) (hdistinct : ∀ l ∈ documents, l.document.code.Distinct)
    (h : merge o documents = .ok m) (path : String → String)
    (hperm : reloaded.Perm (m.toLoaded path)) :
    (∀ l ∈ reloaded, l.document.origin = some l.origin) ∧
      ∃ again, merge Overlay.empty reloaded = .ok again ∧ merge o reloaded = .ok again ∧
        m.Relocates again := by
  obtain ⟨hempty, hagain⟩ := merge_toLoaded_of_merge ho hdistinct h hperm
  refine ⟨fun l hl => ?_, _, hempty, hagain,
    (coherent_of_merge h).relocates_retag (coherent_of_merge hagain)⟩
  obtain ⟨md, -, rfl⟩ := List.mem_map.1 (hperm.mem_iff.1 hl)
  rfl

/-- The sample's model, written back in the other order. -/
theorem relocates_of_remerge_sample : ∃ m, merge Overlay.empty sample = .ok m ∧
    ∃ again, merge Overlay.empty (m.toLoaded ("out/" ++ · ++ ".json")).reverse = .ok again ∧
      m.Relocates again := by
  obtain ⟨m, hm⟩ := exists_merge_sample
  obtain ⟨-, again, hagain, -, hrelocates⟩ := relocates_of_remerge Overlay.wellFormed_empty
    (fun l hl => (distinct_sample l hl).code) hm ("out/" ++ · ++ ".json") (List.reverse_perm _)
  exact ⟨m, hm, again, hagain, hrelocates⟩

/-- **An imported type of a local module does not stay imported.** The core of the sample has both
a local document and an imported one. -/
theorem not_same_localKeys_sample : ¬ ∀ (o : Overlay) (documents : List Loaded) (m again : Model)
    (path : String → String), o.WellFormed → (∀ l ∈ documents, l.document.code.Distinct) →
      merge o documents = .ok m → merge Overlay.empty (m.toLoaded path) = .ok again →
        ∀ k, k ∈ again.localKeys ↔ k ∈ m.localKeys := by
  intro hall
  have hany : (merge Overlay.empty sample).toOption.any (fun m =>
      (m.modules.find? "core").any fun md => decide (md.origin = .local) &&
        (md.types.find? "Color").any fun t => decide (t.origin = .imported)) = true := by
    rw [merge, sorted_sample]
    decide +kernel
  obtain ⟨m, hm⟩ := exists_merge_sample
  simp only [hm, Except.toOption, Option.any_some, Option.any_eq_true, Bool.and_eq_true,
    decide_eq_true_eq] at hany
  obtain ⟨md, hmd, hlocal, t, ht, himported⟩ := hany
  have hdistinct : ∀ l ∈ sample, l.document.code.Distinct := fun l hl => (distinct_sample l hl).code
  have hperm : (m.toLoaded id).Perm (m.toLoaded id) := List.Perm.refl _
  have hagain := (merge_toLoaded_of_merge Overlay.wellFormed_empty hdistinct hm hperm).1
  have hrelocates := (coherent_of_merge hm).relocates_retag (coherent_of_merge hagain)
  have hunmixed := hrelocates.same.1
    (hall _ _ m _ id Overlay.wellFormed_empty hdistinct hm hagain)
  cases (hunmixed _ md hmd hlocal _ t ht).symm.trans himported

end InterfaceGen
