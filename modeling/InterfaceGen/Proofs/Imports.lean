import InterfaceGen.Model.Merge
import InterfaceGen.Proofs.Draft
import InterfaceGen.Proofs.Graph.Reach

/-!
# Proofs/Imports — the import graph is the import relation of the drafts

Its nodes are the collected modules, and a module depends on what it imports, as far as that is
collected too; nothing is reported exactly when all of it is. The graph is built link by link, so
each fact is one of the invariant `Links` of that walk. Main statements: `dependsOn_importGraph`,
`unknown_eq_nil_iff` and `importGraph_congr`.
-/

namespace InterfaceGen

namespace Drafts

variable {drafts : Drafts} {a b : String}

/-- The module `a` imports the module `b`, which is another one. -/
def Imports (drafts : Drafts) (a b : String) : Prop :=
  ∃ draft, drafts.find? a = some draft ∧ draft.imports.has b = true ∧ b ≠ a

/-! ## The walk over the imports -/

/-- The other modules among the keys of a module's imports. -/
def targets (name : String) (keys : List String) : List String := keys.filter (· ≠ name)

/-- Records an import of a module. -/
def link (drafts : Drafts) (name : String) (state : Graph × List Diagnostic) (target : String) :
    Graph × List Diagnostic :=
  if drafts.has target then (state.1.addDependency name target, state.2)
  else (state.1, state.2 ++ [.unknownImport name target])

/-- Records a module and its imports. -/
def enter (drafts : Drafts) (state : Graph × List Diagnostic) (entry : String × List String) :
    Graph × List Diagnostic :=
  (targets entry.1 entry.2).foldl (drafts.link entry.1) (state.1.addNode entry.1, state.2)

/-- The names of the modules, each with the names of its imports. -/
def importKeys (drafts : Drafts) : List (String × List String) :=
  drafts.map fun e => (e.1, e.2.imports.keys)

theorem sorted_importKeys (h : Table.Sorted drafts) : Table.Sorted drafts.importKeys :=
  h.map fun _ draft => draft.imports.keys

theorem find?_importKeys (drafts : Drafts) (name : String) :
    Table.find? name drafts.importKeys = (drafts.find? name).map (·.imports.keys) :=
  Table.find?_map (fun _ (draft : ModuleDraft) => draft.imports.keys) name drafts

theorem importGraph_eq (drafts : Drafts) :
    drafts.importGraph = drafts.importKeys.foldl drafts.enter (Graph.empty, []) := by
  rw [importKeys, List.foldl_map]
  rfl

/-- `state` is what is recorded of the modules `names` and the imports `links`. -/
structure Links (drafts : Drafts) (names : List String) (links : List (String × String))
    (state : Graph × List Diagnostic) : Prop where
  wellFormed : state.1.WellFormed
  nodes : ∀ x, x ∈ state.1.nodes ↔ x ∈ names ∨ ∃ k ∈ links, x = k.2 ∧ drafts.has x = true
  edges : ∀ a b, state.1.DependsOn a b ↔ (a, b) ∈ links ∧ drafts.has b = true
  unknown : state.2 =
    (links.filter fun k => !drafts.has k.2).map fun k => .unknownImport k.1 k.2

theorem links_empty (drafts : Drafts) : drafts.Links [] [] (Graph.empty, []) :=
  ⟨Graph.wellFormed_empty, by simp [Graph.nodes, Graph.empty],
    by simp [Graph.DependsOn, Graph.successors, Graph.empty], rfl⟩

namespace Links

variable {names : List String} {links : List (String × String)} {state : Graph × List Diagnostic}

theorem addNode (h : drafts.Links names links state) (name : String) :
    drafts.Links (names ++ [name]) links (state.1.addNode name, state.2) where
  wellFormed := h.wellFormed.addNode name
  nodes x := by
    rw [Graph.mem_nodes_addNode, h.nodes, List.mem_append, List.mem_singleton]
    tauto
  edges a b := by rw [Graph.DependsOn, Graph.successors_addNode]; exact h.edges a b
  unknown := h.unknown

/-- A recorded module imports one that is declared: the graph gains a dependency… -/
theorem link_known (h : drafts.Links names links state) {name target : String}
    (hname : name ∈ names) (hknown : drafts.has target = true) :
    drafts.Links names (links ++ [(name, target)])
      (state.1.addDependency name target, state.2) := by
  refine ⟨h.wellFormed.addDependency name target, fun x => ?_, fun a b => ?_, ?_⟩
  · rw [Graph.mem_nodes_addDependency, h.nodes]
    constructor
    · rintro (rfl | rfl | hx | ⟨k, hk, hx⟩)
      · exact .inl hname
      · exact .inr ⟨_, List.mem_concat_self, rfl, hknown⟩
      · exact .inl hx
      · exact .inr ⟨k, List.mem_append_left _ hk, hx⟩
    · rintro (hx | ⟨k, hk, hx, hhas⟩)
      · exact .inr (.inr (.inl hx))
      · rcases List.mem_append.1 hk with hk | hk
        · exact .inr (.inr (.inr ⟨k, hk, hx, hhas⟩))
        · exact .inr (.inl (hx.trans (congrArg Prod.snd (List.mem_singleton.1 hk))))
  · rw [Graph.DependsOn, Graph.mem_successors_addDependency, ← Graph.DependsOn, h.edges,
      List.mem_append, List.mem_singleton, Prod.mk.injEq]
    constructor
    · rintro (⟨rfl, rfl⟩ | ⟨hab, hb⟩)
      · exact ⟨.inr ⟨rfl, rfl⟩, hknown⟩
      · exact ⟨.inl hab, hb⟩
    · rintro ⟨hab | hab, hb⟩
      · exact .inr ⟨hab, hb⟩
      · exact .inl hab
  · rw [h.unknown, List.filter_append, List.filter_singleton]
    simp [hknown]

/-- …and one that no document declares is reported, and leaves the graph as it is. -/
theorem link_unknown (h : drafts.Links names links state) {name target : String}
    (hunknown : ¬ drafts.has target = true) : drafts.Links names (links ++ [(name, target)])
      (state.1, state.2 ++ [.unknownImport name target]) := by
  refine ⟨h.wellFormed, fun x => ?_, fun a b => ?_, ?_⟩
  · rw [h.nodes]
    refine or_congr_right ⟨?_, ?_⟩
    · rintro ⟨k, hk, hx⟩
      exact ⟨k, List.mem_append_left _ hk, hx⟩
    · rintro ⟨k, hk, hx, hhas⟩
      rcases List.mem_append.1 hk with hk | hk
      · exact ⟨k, hk, hx, hhas⟩
      · obtain rfl := List.mem_singleton.1 hk
        rw [hx] at hhas
        exact absurd hhas hunknown
  · rw [h.edges, List.mem_append, List.mem_singleton]
    constructor
    · rintro ⟨hab, hb⟩
      exact ⟨.inl hab, hb⟩
    · rintro ⟨hab | hab, hb⟩
      · exact ⟨hab, hb⟩
      · obtain ⟨rfl, rfl⟩ := Prod.mk.inj hab
        exact absurd hb hunknown
  · rw [h.unknown, List.filter_append, List.filter_singleton]
    simp [hunknown]

/-- **One import** of a module that is already recorded. -/
theorem link (h : drafts.Links names links state) {name : String} (hname : name ∈ names)
    (target : String) :
    drafts.Links names (links ++ [(name, target)]) (drafts.link name state target) := by
  unfold Drafts.link
  split
  · next hknown => exact h.link_known hname hknown
  · next hunknown => exact h.link_unknown hunknown

/-- All imports of a module. -/
theorem enter (h : drafts.Links names links state) (entry : String × List String) :
    drafts.Links (names ++ [entry.1])
      (links ++ (targets entry.1 entry.2).map (entry.1, ·)) (drafts.enter state entry) := by
  have hfold : ∀ (front : List String) {links : List (String × String)}
      {state : Graph × List Diagnostic}, drafts.Links (names ++ [entry.1]) links state →
      drafts.Links (names ++ [entry.1]) (links ++ front.map (entry.1, ·))
        (front.foldl (drafts.link entry.1) state) := by
    intro front
    induction front with
    | nil => intro links state h; simpa using h
    | cons t front ih =>
      intro links state h
      simpa [List.append_assoc] using ih (h.link List.mem_concat_self t)
  exact hfold _ (h.addNode entry.1)

/-- All modules and their imports. -/
theorem enterAll (h : drafts.Links names links state) (entries : List (String × List String)) :
    drafts.Links (names ++ entries.map (·.1))
      (links ++ entries.flatMap fun e => (targets e.1 e.2).map (e.1, ·))
      (entries.foldl drafts.enter state) := by
  induction entries generalizing names links state with
  | nil => simpa using h
  | cons e entries ih => simpa [List.append_assoc] using ih (h.enter e)

end Links

/-! ## The import graph -/

theorem links_importGraph (drafts : Drafts) :
    drafts.Links drafts.keys
      (drafts.importKeys.flatMap fun e => (targets e.1 e.2).map (e.1, ·)) drafts.importGraph := by
  rw [importGraph_eq]
  simpa [importKeys, Table.keys, Function.comp_def] using
    (links_empty drafts).enterAll drafts.importKeys

theorem mem_links_iff (h : Table.Sorted drafts) :
    (a, b) ∈ (drafts.importKeys.flatMap fun e => (targets e.1 e.2).map (e.1, ·)) ↔
      drafts.Imports a b := by
  simp only [importKeys, targets, List.mem_flatMap, List.mem_map, List.mem_filter,
    decide_eq_true_eq, Prod.mk.injEq, Imports]
  constructor
  · rintro ⟨-, ⟨⟨name, draft⟩, he, rfl⟩, t, ⟨ht, hne⟩, rfl, rfl⟩
    exact ⟨draft, h.mem_iff.1 he, Table.mem_keys_iff_has.1 ht, hne⟩
  · rintro ⟨draft, hd, hb, hne⟩
    exact ⟨_, ⟨⟨a, draft⟩, h.mem_iff.2 hd, rfl⟩, b, ⟨Table.mem_keys_iff_has.2 hb, hne⟩, rfl, rfl⟩

theorem wellFormed_importGraph (drafts : Drafts) : drafts.importGraph.1.WellFormed :=
  drafts.links_importGraph.wellFormed

/-- **The nodes are the modules.** -/
theorem mem_nodes_importGraph : a ∈ drafts.importGraph.1.nodes ↔ drafts.has a = true := by
  rw [drafts.links_importGraph.nodes, Table.mem_keys_iff_has]
  exact ⟨fun h => h.elim id fun ⟨_, _, _, ha⟩ => ha, .inl⟩

/-- **A module depends on the collected modules that it imports.** -/
theorem dependsOn_importGraph (h : Table.Sorted drafts) :
    drafts.importGraph.1.DependsOn a b ↔ drafts.Imports a b ∧ drafts.has b = true := by
  rw [drafts.links_importGraph.edges, mem_links_iff h]

/-- **Nothing is reported exactly when every import is collected.** -/
theorem unknown_eq_nil_iff (h : Table.Sorted drafts) :
    drafts.importGraph.2 = [] ↔ ∀ a b, drafts.Imports a b → drafts.has b = true := by
  rw [drafts.links_importGraph.unknown, List.map_eq_nil_iff, List.filter_eq_nil_iff]
  simp only [Bool.not_eq_true', Bool.not_eq_false]
  exact ⟨fun hall a b hab => hall (a, b) ((mem_links_iff h).2 hab),
    fun hall k hk => hall k.1 k.2 ((mem_links_iff h).1 hk)⟩

/-- The graph depends on the names of the modules and of their imports alone. -/
theorem importGraph_congr {other : Drafts} (h : drafts.importKeys = other.importKeys) :
    drafts.importGraph = other.importGraph := by
  have hkeys : drafts.keys = other.keys := by
    simpa [importKeys, Table.keys, Function.comp_def] using congrArg (List.map Prod.fst) h
  have hhas : ∀ name, drafts.has name = other.has name := fun name => by
    rw [Bool.eq_iff_iff, ← Table.mem_keys_iff_has, ← Table.mem_keys_iff_has, hkeys]
  have hlink : drafts.link = other.link := by
    funext name state target
    simp only [link, hhas]
  have henter : drafts.enter = other.enter := by
    funext state entry
    simp only [enter, hlink]
  rw [importGraph_eq, importGraph_eq, h, henter]

end Drafts

/-! ## Imports as documents write them -/

namespace Loaded

/-- Some document declares the module. -/
def Declares (documents : List Loaded) (module : String) : Prop :=
  ∃ l ∈ documents, l.document.name = module

/-- Some document of the module `a` imports the module `b`. -/
def Imports (documents : List Loaded) (a b : String) : Prop :=
  ∃ l ∈ documents, l.document.name = a ∧ ∃ i ∈ l.document.imports, i.name = b

/-- A module with a clean header does not import itself. -/
theorem ne_of_imports {documents : List Loaded} {a b : String}
    (h : ∀ l ∈ documents, l.document.headerProblems = []) (hab : Imports documents a b) :
    b ≠ a := by
  obtain ⟨l, hl, rfl, i, hi, rfl⟩ := hab
  obtain ⟨-, -, himports, -⟩ := Document.headerProblems_eq_nil_iff.1 (h l hl)
  intro heq
  simpa [Document.importProblems, heq] using himports i hi

end Loaded

namespace Drafts

variable {drafts : Drafts} {docs : List Loaded} {a b : String}

/-- **The drafts import what their documents do**, imports of the own module aside. -/
theorem Gathers.imports_iff_ne (h : Gathers drafts docs) :
    drafts.Imports a b ↔ Loaded.Imports docs a b ∧ b ≠ a := by
  have hof : ∀ draft, drafts.find? a = some draft →
      (draft.imports.has b = true ↔ Loaded.Imports docs a b) := fun draft hd => by
    rw [(h.modules a draft hd).imports.has]
    simp only [List.mem_flatMap, Loaded.mem_ofModule, Loaded.Imports]
    constructor
    · rintro ⟨i, ⟨l, ⟨hl, hn⟩, hi⟩, hb⟩
      exact ⟨l, hl, hn, i, hi, hb⟩
    · rintro ⟨l, hl, hn, i, hi, hb⟩
      exact ⟨i, ⟨l, ⟨hl, hn⟩, hi⟩, hb⟩
  constructor
  · rintro ⟨draft, hd, hb, hne⟩
    exact ⟨(hof draft hd).1 hb, hne⟩
  · rintro ⟨hab, hne⟩
    obtain ⟨l, hl, hn, -⟩ := id hab
    obtain ⟨draft, hd⟩ := Table.has_iff.1 ((h.has a).2 ⟨l, hl, hn⟩)
    exact ⟨draft, hd, (hof draft hd).2 hab, hne⟩

theorem Gathers.imports_iff (h : Gathers drafts docs)
    (hheaders : ∀ l ∈ docs, l.document.headerProblems = []) :
    drafts.Imports a b ↔ Loaded.Imports docs a b := by
  rw [h.imports_iff_ne]
  exact and_iff_left_of_imp (Loaded.ne_of_imports hheaders)

end Drafts

end InterfaceGen
