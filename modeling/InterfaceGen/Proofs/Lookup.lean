import InterfaceGen.Generation.Filters
import InterfaceGen.Proofs.Exported
import InterfaceGen.Proofs.Reading
import InterfaceGen.Proofs.References

/-!
# Proofs/Lookup — templates find the types that the model finds

A template looks a type up in one table, under the text of a qualified name; the model goes through
a module to the type in it. The two agree, because the name of a type holds no dot: a text spells
one key at most, cut at its last dot, and no two types are shown as one text. Main statement:
`foundBy_of_merge`.
-/

namespace InterfaceGen

/-! ## Keys as texts -/

namespace TypeKey

variable {k : TypeKey} {s : String}

/-- **A text spells the key that is shown as it**, if both parts are there and the name holds no
dot. -/
theorem parse?_eq_some_iff :
    parse? s = some k ↔ k.shown = s ∧ k.module ≠ "" ∧ k.name ≠ "" ∧ '.' ∉ k.name.toList := by
  obtain ⟨module, name⟩ := k
  rw [parse?]
  constructor
  · intro h
    split at h
    · next front back hsplit =>
      obtain ⟨hne, hk⟩ := Option.ite_none_left_eq_some.1 h
      cases hk
      have htext := Text.append_of_splitLast? hsplit
      refine ⟨String.toList_inj.1 ?_, ?_⟩
      · rw [toList_shown, String.toList_ofList, String.toList_ofList, htext]
      · simpa [Text.not_mem_of_splitLast? hsplit] using hne
    · cases h
  · rintro ⟨rfl, hmodule, hname, hdot⟩
    simp [toList_shown, Text.splitLast?_append _ hdot, hmodule, hname]

/-- The values by which a template may give a key: the key's object, the object of a type that
refers to it, and its text. -/
def forms (k : TypeKey) : List Json := [k.toJson, (DataType.reference k).toJson, .str k.shown]

/-- **A key is read from each of its forms.** -/
theorem keyOf_of_mem_forms (hk : parse? k.shown = some k) {v : Json} (hv : v ∈ k.forms) :
    Filters.keyOf (some v) = .ok k := by
  simp only [forms, List.mem_cons, List.not_mem_nil, or_false] at hv
  rcases hv with rfl | rfl | rfl
  · simp [toJson, Filters.keyOf, List.lookup_cons]
  · simp [DataType.toJson, Filters.keyOf, List.lookup_cons]
  · simp [Filters.keyOf, hk]

end TypeKey

/-! ## The table of types -/

namespace Drafts.Complete

variable {drafts : Drafts} {docs : List Loaded} {o : Overlay} {k : TypeKey} {t : TypeDef}
  {args : Template.Args} {v : Json}

/-- The names of types hold no dot. -/
theorem undotted_of_lookup (h : Complete drafts docs)
    (ht : (drafts.model o).lookup k = some t) : '.' ∉ k.name.toList :=
  dot_not_mem (h.isIdentifier_of_declares (h.lookup_iff_declares.1 ⟨t, ht⟩))

/-- **The text of every type's key spells the key.** -/
theorem parse?_shown (h : Complete drafts docs) (ht : (drafts.model o).lookup k = some t) :
    TypeKey.parse? k.shown = some k := by
  obtain ⟨hmodule, hname⟩ := h.named k (h.lookup_iff_declares.1 ⟨t, ht⟩)
  refine TypeKey.parse?_eq_some_iff.2 ⟨rfl, ?_, ?_, h.undotted_of_lookup ht⟩
  · intro heq
    rw [heq] at hmodule
    cases hmodule
  · intro heq
    rw [heq] at hname
    cases hname

/-- Types that are shown as one text are one. -/
theorem eq_of_shown (h : Complete drafts docs) {u : TypeDef} (ht : t ∈ (drafts.model o).types)
    (hu : u ∈ (drafts.model o).types) (heq : t.key.shown = u.key.shown) : t = u := by
  have ht := h.gathers.mem_types_iff.1 ht
  have hu := h.gathers.mem_types_iff.1 hu
  have hkey := TypeKey.shown_injective (h.undotted_of_lookup ht) (h.undotted_of_lookup hu) heq
  rw [hkey] at ht
  exact Option.some.inj (ht.symm.trans hu)

/-- **The table has under the text of a key what the model has under the key.** -/
theorem find?_typeIndex (h : Complete drafts docs) (hk : '.' ∉ k.name.toList) :
    (Filters.typeIndex (drafts.model o)).find? k.shown = some v ↔
      ∃ t, (drafts.model o).lookup k = some t ∧ v = t.toJson := by
  rw [Filters.typeIndex, Table.find?_ofList_iff]
  · simp only [List.mem_map, Prod.mk.injEq]
    constructor
    · rintro ⟨t, ht, hshown, rfl⟩
      have ht := h.gathers.mem_types_iff.1 ht
      rw [TypeKey.shown_injective (h.undotted_of_lookup ht) hk hshown] at ht
      exact ⟨t, ht, rfl⟩
    · rintro ⟨t, ht, rfl⟩
      obtain rfl := h.gathers.key_of_lookup ht
      exact ⟨t, h.gathers.mem_types_iff.2 ht, rfl, rfl⟩
  · intro s v w hv hw
    obtain ⟨t, ht, htext⟩ := List.mem_map.1 hv
    obtain ⟨u, hu, hutext⟩ := List.mem_map.1 hw
    cases htext
    obtain ⟨hshown, rfl⟩ := Prod.mk.inj hutext
    rw [h.eq_of_shown hu ht hshown]

/-- A template finds the type that the model has under the key it gives. -/
theorem lookupType_iff (h : Complete drafts docs) (hkey : Filters.keyOf (args.lookup "key") = .ok k)
    (hk : '.' ∉ k.name.toList) : Filters.lookupType (drafts.model o) args = .ok v ↔
      ∃ t, (drafts.model o).lookup k = some t ∧ v = t.toJson := by
  rw [← h.find?_typeIndex hk, Filters.lookupType, hkey]
  simp only [bind, Except.bind]
  cases (Filters.typeIndex (drafts.model o)).find? k.shown with
  | none => simp [throw, throwThe, MonadExceptOf.throw]
  | some type => simp [pure, Except.pure]

end Drafts.Complete

/-! ## Lookups from templates -/

/-- A function of templates finds the types of a model as the model does: under the key that a text
spells, if it spells one, and from all forms of every key that a type holds. -/
structure Model.FoundBy (m : Model) (find : Template.Args → Except String Json) : Prop where
  texts : ∀ (args : Template.Args) (s : String), args.lookup "key" = some (.str s) → ∀ v,
    find args = .ok v ↔ ∃ k t, TypeKey.parse? s = some k ∧ m.lookup k = some t ∧ v = t.toJson
  references : ∀ t ∈ m.types, ∀ k ∈ t.references, ∃ u, m.lookup k = some u ∧
    ∀ (args : Template.Args), ∀ v ∈ k.forms, args.lookup "key" = some v → find args = .ok u.toJson

/-- **Templates find the types of a merged model as the model does.** -/
theorem foundBy_of_merge {o : Overlay} {documents : List Loaded} {m : Model}
    (h : merge o documents = .ok m) (overlay : Overlay) :
    ∃ find, (templateCalls m overlay).function "lookup_type" = some find ∧ m.FoundBy find := by
  obtain ⟨hcomplete, rfl⟩ := complete_of_merge h
  refine ⟨_, rfl, fun args s hs v => ?_, fun t ht k hk => ?_⟩
  · rw [mapError_eq_ok_iff]
    cases hparse : TypeKey.parse? s with
    | none => simp [Filters.lookupType, hs, Filters.keyOf, hparse, bind, Except.bind]
    | some k =>
      have hkey : Filters.keyOf (args.lookup "key") = .ok k := by simp [hs, Filters.keyOf, hparse]
      obtain ⟨-, -, -, hdot⟩ := TypeKey.parse?_eq_some_iff.1 hparse
      rw [hcomplete.lookupType_iff hkey hdot]
      simp
  · obtain ⟨u, hu⟩ := hcomplete.lookup_iff_declares.2 (hcomplete.visible ht k hk).1
    refine ⟨u, hu, fun args v hv hargs => ?_⟩
    have hkey : Filters.keyOf (args.lookup "key") = .ok k := by
      rw [hargs]
      exact k.keyOf_of_mem_forms (hcomplete.parse?_shown hu) hv
    rw [mapError_eq_ok_iff]
    exact (hcomplete.lookupType_iff hkey (hcomplete.undotted_of_lookup hu)).2 ⟨u, hu, rfl⟩

/-- Templates find the types of the sample's model, the base type among them. -/
theorem foundBy_of_merge_sample : ∃ m find, merge Overlay.empty sample = .ok m ∧
    (templateCalls m Overlay.empty).function "lookup_type" = some find ∧ m.FoundBy find ∧
      ∃ v, find [("key", .str "core.Base")] = .ok v := by
  have hany : (merge Overlay.empty sample).toOption.any
      (fun m => (m.lookup ⟨"core", "Base"⟩).isSome) = true := by
    rw [merge, sorted_sample]
    decide +kernel
  obtain ⟨m, hm, hbase⟩ := exists_of_any_toOption hany
  obtain ⟨t, ht⟩ := Option.isSome_iff_exists.1 hbase
  obtain ⟨find, hfunction, hfind⟩ := foundBy_of_merge hm Overlay.empty
  exact ⟨m, find, hm, hfunction, hfind, t.toJson,
    (hfind.texts _ "core.Base" rfl _).2 ⟨⟨"core", "Base"⟩, t, by decide, ht, rfl⟩⟩

end InterfaceGen
