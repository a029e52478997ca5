import InterfaceGen.Proofs.Build
import InterfaceGen.Proofs.Scope

/-!
# Proofs/Merge — a model is what the drafts of its documents are built to

A merge succeeds exactly when each of its five stages reports nothing. Its model then has the
modules of the drafts, and under each key the type that the kept declaration is built to. Main
statements: `merge_eq_ok_iff`, `Drafts.lookup_model` and `Drafts.finish_clean_iff`.
-/

namespace InterfaceGen

/-- What some documents add up to. -/
def Loaded.drafts (documents : List Loaded) : Drafts :=
  (Drafts.absorbAll [] (sorted documents)).1

namespace Drafts

/-- What the names in some drafts refer to. -/
def ownScope (drafts : Drafts) : Scope := drafts.scope drafts.importGraph.1

/-- The modules that some drafts are built to. -/
def modules (drafts : Drafts) (o : Overlay) : Table ModuleDef :=
  (drafts.finish o drafts.ownScope).1

/-- The model that some drafts are built to. -/
def model (drafts : Drafts) (o : Overlay) : Model := ⟨drafts.modules o, drafts.importGraph.1.order⟩

end Drafts

/-- What is reported on the way to the model, stage by stage. -/
def Loaded.reports (o : Overlay) (documents : List Loaded) : List Diagnostic :=
  (Drafts.absorbAll [] (sorted documents)).2 ++ (drafts documents).importGraph.2 ++
    (drafts documents).importGraph.1.cycles.map Diagnostic.importCycle ++
    ((drafts documents).finish o (drafts documents).ownScope).2 ++
    (inheritanceGraph ((drafts documents).modules o)).cycles.map Diagnostic.inheritanceCycle

theorem merge_eq (o : Overlay) (documents : List Loaded) : merge o documents =
    if (Loaded.reports o documents).isEmpty then .ok ((Loaded.drafts documents).model o)
    else .error (Loaded.reports o documents) := rfl

/-- **A merge succeeds exactly when none of its stages reports anything.** -/
theorem merge_eq_ok_iff {o : Overlay} {documents : List Loaded} {m : Model} :
    merge o documents = .ok m ↔
      (Drafts.absorbAll [] (Loaded.sorted documents)).2 = [] ∧
        (Loaded.drafts documents).importGraph.2 = [] ∧
        (Loaded.drafts documents).importGraph.1.cycles = [] ∧
        ((Loaded.drafts documents).finish o (Loaded.drafts documents).ownScope).2 = [] ∧
        (inheritanceGraph ((Loaded.drafts documents).modules o)).cycles = [] ∧
        (Loaded.drafts documents).model o = m := by
  have hreports : (Loaded.reports o documents).isEmpty = true ↔ _ := List.isEmpty_iff
  simp only [Loaded.reports, List.append_eq_nil_iff, List.map_eq_nil_iff, and_assoc] at hreports
  rw [merge_eq]
  split
  · next h =>
    obtain ⟨h1, h2, h3, h4, h5⟩ := hreports.1 h
    simp only [h1, h2, h3, h4, h5, true_and, Except.ok.injEq]
  · next h =>
    refine iff_of_false (fun heq => by cases heq) ?_
    rintro ⟨h1, h2, h3, h4, h5, -⟩
    exact h (hreports.2 ⟨h1, h2, h3, h4, h5⟩)

/-! ## Modules and types of the model -/

namespace Drafts

variable {drafts : Drafts} {docs : List Loaded} {o : Overlay} {s : Scope} {name module : String}
  {draft : ModuleDraft} {md : ModuleDef}

/-- The module that a draft is built to. -/
def moduleOf (drafts : Drafts) (o : Overlay) (name : String) (draft : ModuleDraft) : ModuleDef :=
  finishModule o name draft (builtTypes (buildTypes drafts.ownScope name draft))

theorem find?_modules (drafts : Drafts) (o : Overlay) (name : String) :
    (drafts.modules o).find? name = (drafts.find? name).map (drafts.moduleOf o name) := by
  rw [modules, finish, List.map_map]
  exact Table.find?_map (drafts.moduleOf o) name drafts

theorem sorted_modules (h : Table.Sorted drafts) : (drafts.modules o).Sorted := by
  rw [modules, finish, List.map_map]
  exact h.map (drafts.moduleOf o)

/-- A module of the model is what its draft is built to. -/
theorem draft_of_module (h : (drafts.model o).modules.find? name = some md) :
    ∃ draft, drafts.find? name = some draft ∧ drafts.moduleOf o name draft = md :=
  Option.map_eq_some_iff.1 ((find?_modules drafts o name).symm.trans h)

theorem module_of_draft (h : drafts.find? name = some draft) :
    (drafts.model o).modules.find? name = some (drafts.moduleOf o name draft) :=
  (find?_modules drafts o name).trans (congrArg _ h)

theorem name_of_module (h : (drafts.model o).modules.find? name = some md) : md.name = name := by
  obtain ⟨draft, -, rfl⟩ := draft_of_module h
  rfl

theorem has_modules (drafts : Drafts) (o : Overlay) (name : String) :
    (drafts.model o).modules.has name = drafts.has name := by
  have hfind := find?_modules drafts o name
  simp only [Table.has, model, hfind, Option.isSome_map]

theorem mem_builtTypes {built : List (String × Except (List Diagnostic) TypeDef)} {t : TypeDef} :
    (name, t) ∈ builtTypes built ↔ (name, .ok t) ∈ built := by
  simp only [builtTypes, List.mem_filterMap]
  constructor
  · rintro ⟨⟨n, r⟩, hr, heq⟩
    cases r with
    | ok u => cases heq; exact hr
    | error failed => cases heq
  · exact fun h => ⟨_, h, rfl⟩

/-- The built types are in the order of their names, as the collected ones are. -/
theorem sorted_builtTypes (h : draft.types.Sorted) (s : Scope) (module : String) :
    (builtTypes (buildTypes s module draft)).Sorted := by
  have hbuilt : (buildTypes s module draft).Pairwise fun a b => a.1 < b.1 :=
    List.Pairwise.map _ (fun _ _ hlt => hlt) (h.filter _)
  refine List.Pairwise.filterMap _ (fun a b hlt x hx y hy => ?_) hbuilt
  obtain ⟨n, r⟩ := a
  obtain ⟨n', r'⟩ := b
  cases r with
  | ok t =>
    cases r' with
    | ok t' => cases hx; cases hy; exact hlt
    | error failed => cases hy
  | error failed => cases hx

theorem find?_builtTypes (h : draft.types.Sorted) {t : TypeDef} :
    (builtTypes (buildTypes s module draft)).find? name = some t ↔
      ∃ d, draft.types.find? name = some d ∧ d.wellFormed = true ∧
        s.buildType module d = .ok t := by
  rw [← (sorted_builtTypes h s module).mem_iff, mem_builtTypes]
  simp only [buildTypes, List.mem_map, List.mem_filter, Prod.mk.injEq]
  constructor
  · rintro ⟨⟨n, d⟩, ⟨hd, hwf⟩, rfl, hbuilt⟩
    exact ⟨d, h.mem_iff.1 hd, hwf, hbuilt⟩
  · rintro ⟨d, hd, hwf, hbuilt⟩
    exact ⟨(name, d), ⟨h.mem_iff.2 hd, hwf⟩, rfl, hbuilt⟩

/-- **The type under a key is what the kept declaration is built to.** -/
theorem lookup_model (h : Gathers drafts docs) {k : TypeKey} {t : TypeDef} :
    (drafts.model o).lookup k = some t ↔ ∃ d, drafts.declOf k = some d ∧ d.wellFormed = true ∧
      drafts.ownScope.buildType k.module d = .ok t := by
  simp only [Model.lookup, model, declOf, find?_modules]
  cases hd : drafts.find? k.module with
  | none => simp
  | some draft => exact find?_builtTypes (h.modules _ _ hd).types.sorted

/-- A type of the model is found under its own key. -/
theorem Gathers.key_of_lookup (h : Gathers drafts docs) {k : TypeKey} {t : TypeDef}
    (ht : (drafts.model o).lookup k = some t) : t.key = k := by
  obtain ⟨d, hd, -, hbuilt⟩ := (lookup_model h).1 ht
  obtain ⟨-, heq⟩ := Scope.buildType_eq_ok hbuilt
  rw [heq, TypeDef.key, (h.of_declOf hd).1]

/-- The types of a module are in the order of their names. -/
theorem Gathers.sorted_types (h : Gathers drafts docs)
    (hmd : (drafts.model o).modules.find? name = some md) : md.types.Sorted := by
  obtain ⟨draft, hdraft, rfl⟩ := draft_of_module hmd
  exact sorted_builtTypes (h.modules _ _ hdraft).types.sorted drafts.ownScope name

/-- The types of a module are those of the model with its name in their keys. -/
theorem Gathers.lookup_of_types (h : Gathers drafts docs) {t : TypeDef}
    (hmd : (drafts.model o).modules.find? name = some md) {n : String}
    (ht : md.types.find? n = some t) :
    (drafts.model o).lookup ⟨name, n⟩ = some t ∧ t.key = ⟨name, n⟩ := by
  have hlookup : (drafts.model o).lookup ⟨name, n⟩ = some t := by
    simp only [Model.lookup, hmd, Option.bind_some]
    exact ht
  exact ⟨hlookup, h.key_of_lookup hlookup⟩

/-- **The types of the model are those that are found under their keys.** -/
theorem Gathers.mem_types_iff (h : Gathers drafts docs) {t : TypeDef} :
    t ∈ (drafts.model o).types ↔ (drafts.model o).lookup t.key = some t := by
  have hmodules : (drafts.model o).modules.Sorted := sorted_modules h.sorted
  simp only [Model.types, Table.values, List.mem_flatMap, List.mem_map]
  constructor
  · rintro ⟨md, ⟨⟨name, md⟩, hmd, rfl⟩, ⟨n, t⟩, ht, rfl⟩
    have hfind := hmodules.mem_iff.1 hmd
    obtain ⟨hlookup, hkey⟩ := h.lookup_of_types hfind ((h.sorted_types hfind).mem_iff.1 ht)
    rw [hkey]
    exact hlookup
  · intro ht
    obtain ⟨md, hmd, ht⟩ := Option.bind_eq_some_iff.1 ht
    exact ⟨md, ⟨_, Table.mem_of_find? hmd, rfl⟩, _, Table.mem_of_find? ht, rfl⟩

/-! ## When everything is built -/

theorem buildFailures_eq_nil_iff {built : List (String × Except (List Diagnostic) TypeDef)} :
    buildFailures built = [] ↔ ∀ e ∈ built, (∃ t, e.2 = .ok t) ∨ e.2 = .error [] := by
  rw [buildFailures, List.flatMap_eq_nil_iff]
  refine forall₂_congr fun e _ => ?_
  obtain ⟨n, r⟩ := e
  cases r with
  | ok t => simp
  | error failed => simp

/-- What is not built failed somewhere. -/
theorem buildType_ne_error_nil {d : DeclDraft} : s.buildType module d ≠ .error [] := by
  simp only [Scope.buildType]
  split
  · simp
  · next hne => simpa using hne

/-- **Nothing fails exactly when every well-formed declaration is built.** -/
theorem finish_clean_iff (h : Gathers drafts docs) :
    (drafts.finish o s).2 = [] ↔ ∀ k d, drafts.declOf k = some d → d.wellFormed = true →
      ∃ t, s.buildType k.module d = .ok t := by
  simp only [finish, List.flatMap_eq_nil_iff, List.forall_mem_map, buildFailures_eq_nil_iff,
    buildTypes, List.mem_filter]
  constructor
  · intro hall k d hd hwf
    obtain ⟨draft, hdraft, hkept⟩ := Option.bind_eq_some_iff.1 hd
    have hentry := hall _ (h.sorted.mem_iff.2 hdraft) (k.name, d)
      ⟨(h.modules _ _ hdraft).types.sorted.mem_iff.2 hkept, hwf⟩
    exact hentry.resolve_right buildType_ne_error_nil
  · rintro hall ⟨module, draft⟩ he ⟨n, d⟩ ⟨hd, hwf⟩
    have hdraft := h.sorted.mem_iff.1 he
    refine .inl (hall ⟨module, n⟩ d (Option.bind_eq_some_iff.2 ⟨draft, hdraft, ?_⟩) hwf)
    exact (h.modules _ _ hdraft).types.sorted.mem_iff.1 hd

/-- Where the documents agree, every kept declaration is well formed. -/
theorem Agrees.wellFormed (ha : Agrees drafts docs) (h : Gathers drafts docs) {k : TypeKey}
    {d : DeclDraft} (hd : drafts.declOf k = some d) :
    d.decl.problems = [] ∧ d.wellFormed = true := by
  obtain ⟨draft, hdraft, hkept⟩ := Option.bind_eq_some_iff.1 hd
  obtain ⟨-, ⟨w, hw, heq⟩, hwf, -⟩ := (h.modules _ _ hdraft).types.kept _ _ hkept
  have hproblems : d.decl.problems = [] := heq ▸ (ha _ _ hdraft).types.problems w hw
  exact ⟨hproblems, by rw [hwf, hproblems]; rfl⟩

/-- **Everything is built exactly when every written declaration is resolvable.** -/
theorem Agrees.finish_clean_iff (ha : Agrees drafts docs) (h : Gathers drafts docs)
    {ns : Namespace} (hs : s.Implements ns) : (drafts.finish o s).2 = [] ↔
      ∀ l ∈ docs, ∀ d ∈ l.document.declarations, ns.Resolvable l.document.name d := by
  rw [Drafts.finish_clean_iff h]
  constructor
  · intro hall l hl d hd
    obtain ⟨k, hk, hsame⟩ := ha.exists_declOf h hl hd
    obtain ⟨hproblems, hwf⟩ := ha.wellFormed h hk
    have hres := (hs.buildType_isOk_iff hproblems).1 (hall _ k hk hwf)
    exact hsame.elim (fun heq => heq ▸ hres) hres.of_same
  · intro hall k d hd _
    obtain ⟨-, l, hl, hm, hdecl⟩ := h.of_declOf hd
    exact (hs.buildType_isOk_iff (ha.wellFormed h hd).1).2 (hm ▸ hall l hl d.decl hdecl)

end Drafts

end InterfaceGen
