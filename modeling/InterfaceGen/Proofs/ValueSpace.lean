import InterfaceGen.Generation.Rendering
import InterfaceGen.Introspection
import InterfaceGen.Proofs.Reexport

/-!
# Proofs/ValueSpace — the values of a merged module are final

Merging lays the overlay over a module's parameters, and these stand in front of its other values,
so every key of the overlay is one of them already. Laying the overlay over the whole once more
finds all it says in place: keys asked for and templates see the plain values of the module. Main
statement: `plainValues_of_merge`.
-/

namespace InterfaceGen

/-- Under the overlay every value that is read of a module is the plain one. -/
structure Model.PlainValues (m : Model) (o : Overlay) : Prop where
  /-- Laying the overlay over a module's values changes nothing, neither a value nor a place. -/
  resolve : ∀ name d, m.modules.find? name = some d → o.resolve d.name d.valueSpace = d.valueSpace
  /-- A key has in each module the value that the module's own values have there. -/
  lookup : ∀ name d, m.modules.find? name = some d → ∀ key,
    o.lookup d.name key d.valueSpace = d.valueSpace.at? key
  /-- The answers for keys are these values. -/
  answers : ∀ keys, Introspection.ofModel m o keys =
    m.localModules.flatMap fun d => keys.map fun key => ⟨d.name, key, d.valueSpace.at? key⟩
  /-- Every template is given these values. -/
  config : ∀ b, ∀ j ∈ Job.ofModel m b, ∀ model,
    (j.values model o).lookup "config" = some j.module.valueSpace

/-- What a module offers starts with its parameters. -/
theorem ModuleDef.valueSpace_eq {d : ModuleDef} {members : Json.Members}
    (h : d.code = .obj members) : d.valueSpace =
      .obj (members ++ d.members.filter fun e => (members.lookup e.1).isNone) := by
  rw [valueSpace, h]

/-- **An overlay that is laid over a module's parameters is laid over all its values.** -/
theorem ModuleDef.resolve_valueSpace {o : Overlay} {d : ModuleDef}
    (hobject : d.code.isObject = true) (hlaid : o.resolve d.name d.code = d.code) :
    o.resolve d.name d.valueSpace = d.valueSpace := by
  obtain ⟨members, hcode⟩ : ∃ members, d.code = .obj members := by
    generalize d.code = code at hobject
    cases code with
    | obj members => exact ⟨members, rfl⟩
    | _ => cases hobject
  rw [valueSpace_eq hcode]
  rw [hcode] at hlaid
  exact Overlay.resolve_append _ hlaid

/-- The parameters a template is given are under a name that no kind of entity has. -/
theorem Job.lookup_config (model : Json) (o : Overlay) (j : Job) :
    (j.values model o).lookup "config" = some (o.resolve j.module.name j.module.valueSpace) := by
  have hne : "config" ≠ j.entity.kind.name := by
    cases j.entity.kind <;> decide
  rw [values, Json.Members.lookup_set_ne hne]
  rfl

/-- A local module is one of the model's, under its own name. -/
theorem Model.find?_of_mem_localModules {m : Model} {d : ModuleDef} (hd : d ∈ m.localModules) :
    ∃ name ∈ m.order, m.modules.find? name = some d ∧ d.origin.isLocal = true := by
  obtain ⟨hd, hlocal⟩ := List.mem_filter.1 hd
  obtain ⟨name, hname, hfind⟩ := List.mem_filterMap.1 hd
  exact ⟨name, hname, hfind, hlocal⟩

/-- The module of a job is a local one. -/
theorem Job.module_mem_localModules {m : Model} {b : Binding} {j : Job} (hj : j ∈ ofModel m b) :
    j.module ∈ m.localModules := by
  obtain ⟨d, hd, hj⟩ := List.mem_flatMap.1 hj
  obtain ⟨e, -, hj⟩ := List.mem_flatMap.1 hj
  obtain ⟨template, -, rfl⟩ := List.mem_map.1 hj
  exact hd

/-- **The values of a merged module are final** — the overlay was laid when the documents were
merged, and all that answers for keys and all that templates see are the plain values. No object has
a key twice, as is the case for all that is read. -/
theorem plainValues_of_merge {o : Overlay} {documents : List Loaded} {m : Model}
    (ho : o.WellFormed) (hdistinct : ∀ l ∈ documents, l.document.code.Distinct)
    (h : merge o documents = .ok m) : m.PlainValues o := by
  obtain ⟨hcomplete, rfl⟩ := complete_of_merge h
  have hdistinct' : ∀ l ∈ Loaded.sorted documents, l.document.code.Distinct :=
    fun l hl => hdistinct l (Loaded.mem_sorted.1 hl)
  have hresolve : ∀ name d, ((Loaded.drafts documents).model o).modules.find? name = some d →
      o.resolve d.name d.valueSpace = d.valueSpace := by
    intro name d hd
    obtain ⟨⟨hobject, -⟩, hlaid, -⟩ := hcomplete.code_of_module ho hdistinct' hd
    obtain rfl : d.name = name := Drafts.name_of_module hd
    exact ModuleDef.resolve_valueSpace hobject hlaid
  have hlookup : ∀ name d, ((Loaded.drafts documents).model o).modules.find? name = some d →
      ∀ key, o.lookup d.name key d.valueSpace = d.valueSpace.at? key := by
    intro name d hd key
    rw [Overlay.lookup, hresolve name d hd]
  refine ⟨hresolve, hlookup, fun keys => ?_, fun b j hj model => ?_⟩
  · refine List.flatMap_congr fun d hd => List.map_congr_left fun key _ => ?_
    obtain ⟨name, -, hfind, -⟩ := Model.find?_of_mem_localModules hd
    rw [hlookup name d hfind key]
  · obtain ⟨name, -, hfind, -⟩ := Model.find?_of_mem_localModules (Job.module_mem_localModules hj)
    rw [Job.lookup_config, hresolve name j.module hfind]

/-- For the core an object that its own text takes the place of, for the app one that is filled up,
and for both a value under the name of one of their members. -/
def layeredOverlay : Overlay where
  global := [("package", .obj [("run", .bool true)]), ("version", .str "9")]
  modules := [("core", .obj [("package", .str "org.other")]),
    ("app", .obj [("package", .obj [("jar", .str "app")])])]
  typeMappings := []

theorem wellFormed_layeredOverlay : layeredOverlay.WellFormed := by
  have hrun : (Json.obj [("run", .bool true)]).Distinct :=
    .obj (by decide) (by simpa using Json.Distinct.bool true)
  have hcore : (Json.obj [("package", .str "org.other")]).Distinct :=
    .obj (by decide) (by simpa using Json.Distinct.str "org.other")
  have hjar : (Json.obj [("jar", .str "app")]).Distinct :=
    .obj (by decide) (by simpa using Json.Distinct.str "app")
  have happ : (Json.obj [("package", .obj [("jar", .str "app")])]).Distinct :=
    .obj (by decide) (by simpa using hjar)
  exact {
    global := .obj (by decide) (by simpa [layeredOverlay] using ⟨hrun, .str "9"⟩)
    modules := .obj (by decide) (by simpa [layeredOverlay] using ⟨hcore, happ⟩)
    objects := by simp [layeredOverlay, Json.isObject] }

/-- The values of the sample's modules are final under both layers. -/
theorem plainValues_of_merge_layered : layeredOverlay.WellFormed ∧
    (∀ l ∈ sample, l.document.code.Distinct) ∧
    ∃ m, merge layeredOverlay sample = .ok m ∧ m.PlainValues layeredOverlay := by
  have hcode : ∀ l ∈ sample, l.document.code.Distinct := fun l hl => (distinct_sample l hl).code
  have hok : (merge layeredOverlay sample).toOption.isSome = true := by
    rw [merge, sorted_sample]
    decide +kernel
  obtain ⟨m, hm⟩ : ∃ m, merge layeredOverlay sample = .ok m := by
    generalize merge layeredOverlay sample = r at hok
    cases r with
    | ok m => exact ⟨m, rfl⟩
    | error ds => cases hok
  exact ⟨wellFormed_layeredOverlay, hcode, m, hm,
    plainValues_of_merge wellFormed_layeredOverlay hcode hm⟩

end InterfaceGen
