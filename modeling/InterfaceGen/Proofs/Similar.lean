import InterfaceGen.Proofs.Inheritance
import InterfaceGen.Proofs.Merge
import InterfaceGen.Proofs.Sameness

/-!
# Proofs/Similar — similar drafts are built to models that are alike

Drafts are similar if they have the same modules with the same imports, and under the same names
declarations that are the same. Each stage after the collection reads no more than that: similar
drafts have one import graph and one scope, they fail in the same way, and the types they are built
to are the same. Main statements: `Drafts.Similar.finish_eq` and `Drafts.Similar.alike`.
-/

namespace InterfaceGen

/-! ## Models that are alike -/

/-- Two models have the same modules with the same origins and imports, in the same order, and under
the same keys types that are the same. -/
structure Model.Alike (m n : Model) : Prop where
  names : m.modules.keys = n.modules.keys
  origins : ∀ name a b, m.modules.find? name = some a → n.modules.find? name = some b →
    a.origin = b.origin
  imports : ∀ name a b, m.modules.find? name = some a → n.modules.find? name = some b →
    a.imports.map (·.name) = b.imports.map (·.name)
  order : m.order = n.order
  types : ∀ k, Option.Rel (TypeDef.same · · = true) (m.lookup k) (n.lookup k)

/-- Two modules have the same origin and the same imports, and types that are the same. -/
structure ModuleDef.Alike (a b : ModuleDef) : Prop where
  origin : a.origin = b.origin
  imports : a.imports.map (·.name) = b.imports.map (·.name)
  types : Table.Alike (TypeDef.same · · = true) a.types b.types

/-- Modules that are alike have types that are the same, in the same order. -/
theorem types_of_alike {ms ns : Table ModuleDef} (h : Table.Alike ModuleDef.Alike ms ns) :
    List.Forall₂ (TypeDef.same · · = true) (ms.values.flatMap (·.types.values))
      (ns.values.flatMap (·.types.values)) :=
  List.rel_flatMap h.values fun _ _ hab => hab.types.values

/-- **Modules that are alike have one inheritance graph.** -/
theorem inheritanceGraph_congr {ms ns : Table ModuleDef}
    (h : Table.Alike ModuleDef.Alike ms ns) : inheritanceGraph ms = inheritanceGraph ns := by
  have hadd : ∀ ⦃g g' : Graph⦄, g = g' → ∀ ⦃t u : TypeDef⦄, t.same u = true →
      g.addType t = g'.addType u := by
    rintro g _ rfl t u htu
    rw [Graph.addType, Graph.addType, TypeDef.key_of_same htu, TypeDef.parent_of_same htu]
  rw [inheritanceGraph_eq, inheritanceGraph_eq]
  exact List.rel_foldl hadd rfl (types_of_alike h)

/-! ## Drafts that are similar -/

/-- Two modules were collected with the same origin, the same imports and the same declarations. -/
structure ModuleDraft.Similar (a b : ModuleDraft) : Prop where
  origin : a.origin = b.origin
  imports : Table.Alike (fun i j : Import => i.name = j.name) a.imports b.imports
  types : Table.Alike DeclDraft.Similar a.types b.types

namespace Drafts

/-- The same modules were collected, each of them similar. -/
def Similar (a b : Drafts) : Prop := Table.Alike ModuleDraft.Similar a b

namespace Similar

variable {a b : Drafts}

/-! ### Imports and scopes -/

theorem importGraph_eq (h : Similar a b) : a.importGraph = b.importGraph :=
  importGraph_congr <| map_eq_of_forall₂
    (fun _ _ hxy => Prod.ext hxy.1 hxy.2.imports.keys_eq) h

/-- Similar drafts declare types of the same kinds, and their names refer to the same. -/
theorem ownScope_eq (h : Similar a b) : a.ownScope = b.ownScope := by
  have htypes : a.map (fun e => (e.1, e.2.types.map fun f => (f.1, f.2.decl.kind))) =
      b.map fun e => (e.1, e.2.types.map fun f => (f.1, f.2.decl.kind)) :=
    map_eq_of_forall₂ (fun _ _ hxy => Prod.ext hxy.1 <| map_eq_of_forall₂
      (fun _ _ hde => Prod.ext hde.1 (Declaration.kind_of_same hde.2.decl)) hxy.2.types) h
  have hclosures : a.map (fun e => (e.1, b.importGraph.1.closure e.1)) =
      b.map fun e => (e.1, b.importGraph.1.closure e.1) :=
    map_eq_of_forall₂ (fun _ _ hxy => by rw [hxy.1]) h
  rw [ownScope, ownScope, h.importGraph_eq]
  exact congrArg₂ Scope.mk htypes hclosures

/-! ### Types -/

/-- Declarations that are the same are built to types that are, or fail in the same way. -/
theorem buildTypes_alike (s : Scope) (module : String) {x y : ModuleDraft} (h : x.Similar y) :
    Table.Alike (SameResult (TypeDef.same · · = true)) (buildTypes s module x)
      (buildTypes s module y) := by
  have hkept : Table.Alike DeclDraft.Similar (x.types.filter (·.2.wellFormed))
      (y.types.filter (·.2.wellFormed)) :=
    List.rel_filter (fun _ _ hde => Bool.coe_iff_coe.2 hde.2.wellFormed) h.types
  rw [buildTypes, buildTypes, Table.Alike, List.forall₂_map_left_iff, List.forall₂_map_right_iff]
  exact hkept.imp fun _ _ hde => ⟨hde.1, s.buildType_same module hde.2⟩

theorem builtTypes_alike
    {xs ys : List (String × Except (List Diagnostic) TypeDef)}
    (h : Table.Alike (SameResult (TypeDef.same · · = true)) xs ys) :
    Table.Alike (TypeDef.same · · = true) (builtTypes xs) (builtTypes ys) ∧
      buildFailures xs = buildFailures ys := by
  induction h with
  | nil => exact ⟨.nil, rfl⟩
  | @cons x y xs ys hxy _ ih =>
    obtain ⟨name, r⟩ := x
    obtain ⟨name', r'⟩ := y
    obtain ⟨rfl, hr⟩ := hxy
    cases hr with
    | ok hsame => exact ⟨.cons ⟨rfl, hsame⟩ ih.1, ih.2⟩
    | error failed => exact ⟨ih.1, congrArg (failed ++ ·) ih.2⟩

/-! ### Modules -/

/-- **Similar drafts are built to modules that are alike.** -/
theorem modules_alike (h : Similar a b) (o : Overlay) :
    Table.Alike ModuleDef.Alike (a.modules o) (b.modules o) := by
  rw [modules, modules, finish, finish, List.map_map, List.map_map, h.ownScope_eq]
  refine List.rel_map (fun x y hxy => ?_) h
  obtain ⟨name, x⟩ := x
  obtain ⟨name', y⟩ := y
  obtain ⟨rfl, hsimilar⟩ := hxy
  exact ⟨rfl, hsimilar.origin, map_eq_of_forall₂ (fun _ _ hij => hij) hsimilar.imports.values,
    (builtTypes_alike (buildTypes_alike _ name hsimilar)).1⟩

/-- **Similar drafts fail in the same way.** -/
theorem finish_eq (h : Similar a b) (o : Overlay) :
    (a.finish o a.ownScope).2 = (b.finish o b.ownScope).2 := by
  simp only [finish, h.ownScope_eq, List.flatMap_map]
  refine congrArg List.flatten (map_eq_of_forall₂ (fun x y hxy => ?_) h)
  obtain ⟨name, x⟩ := x
  obtain ⟨name', y⟩ := y
  obtain ⟨rfl, hsimilar⟩ := hxy
  exact (builtTypes_alike (buildTypes_alike _ name hsimilar)).2

/-- **Similar drafts are built to models that are alike.** -/
theorem alike (h : Similar a b) (o : Overlay) : (a.model o).Alike (b.model o) := by
  have hmodules := h.modules_alike o
  have hfind : ∀ name x y, (a.model o).modules.find? name = some x →
      (b.model o).modules.find? name = some y → x.Alike y := fun name x y hx hy => by
    have hxy := hmodules.find? name
    simp only [model] at hx hy
    rw [hx, hy] at hxy
    cases hxy with
    | some hxy => exact hxy
  refine ⟨hmodules.keys_eq, fun name x y hx hy => (hfind name x y hx hy).origin,
    fun name x y hx hy => (hfind name x y hx hy).imports, ?_, fun k => ?_⟩
  · rw [model, model, h.importGraph_eq]
  · have hmodule := hmodules.find? k.module
    simp only [Model.lookup, model]
    generalize (a.modules o).find? k.module = x, (b.modules o).find? k.module = y at hmodule
    cases hmodule with
    | none => exact .none
    | some hxy => exact hxy.types.find? k.name

end Similar

end Drafts

end InterfaceGen
