import InterfaceGen.Proofs.Binding
import InterfaceGen.Proofs.Graph.Closure
import InterfaceGen.Proofs.Imports

/-!
# Proofs/Scope — the scope of the drafts implements the namespace of the documents

`Loaded.namespaceOf` reads off the documents which types they declare and which modules their
imports reach. Drafts that were collected from these documents without a report, and that import
nothing unknown, know the same: each declaration is kept, of the same kind, and the closures of
their import graph are the modules that are reached. Main statement: `Drafts.implements_scope`.
-/

namespace InterfaceGen

namespace Loaded

/-- What names written in some documents may refer to. -/
def namespaceOf (documents : List Loaded) : Namespace where
  kind k kind := ∃ l ∈ documents, l.document.name = k.module ∧
    ∃ d ∈ l.document.declarations, d.name = k.name ∧ d.kind = kind
  reaches := Relation.TransGen (Imports documents)

theorem mem_sorted {documents : List Loaded} {l : Loaded} : l ∈ sorted documents ↔ l ∈ documents :=
  List.mem_mergeSort

theorem imports_congr {documents others : List Loaded} (h : ∀ l, l ∈ documents ↔ l ∈ others) :
    Imports documents = Imports others := by
  funext a b
  simp only [Imports, h]

/-- Neither order nor repetition of documents matters to their namespace. -/
theorem namespaceOf_congr {documents others : List Loaded}
    (h : ∀ l, l ∈ documents ↔ l ∈ others) : namespaceOf documents = namespaceOf others := by
  simp only [namespaceOf, imports_congr h, h]

/-- A type is declared in the namespace exactly when a document of its module declares it. -/
theorem declares_namespaceOf {documents : List Loaded} {k : TypeKey} :
    (namespaceOf documents).declares k ↔ ∃ l ∈ documents, l.document.name = k.module ∧
      ∃ d ∈ l.document.declarations, d.name = k.name := by
  constructor
  · rintro ⟨kind, l, hl, hm, d, hd, hn, -⟩
    exact ⟨l, hl, hm, d, hd, hn⟩
  · rintro ⟨l, hl, hm, d, hd, hn⟩
    exact ⟨d.kind, l, hl, hm, d, hd, hn, rfl⟩

end Loaded

namespace Drafts

variable {drafts : Drafts} {docs : List Loaded} {a b : String}

/-! ## Kept declarations -/

/-- The declaration kept for a type. -/
def declOf (drafts : Drafts) (k : TypeKey) : Option DeclDraft :=
  (drafts.find? k.module).bind (·.types.find? k.name)

/-- A kept declaration is one of those written in the documents of its module. -/
theorem Gathers.of_declOf (h : Gathers drafts docs) {k : TypeKey} {d : DeclDraft}
    (hd : drafts.declOf k = some d) : d.decl.name = k.name ∧
      ∃ l ∈ docs, l.document.name = k.module ∧ d.decl ∈ l.document.declarations := by
  obtain ⟨draft, hdraft, hkept⟩ := Option.bind_eq_some_iff.1 hd
  obtain ⟨hname, ⟨⟨l, e⟩, hw, heq⟩, -, -⟩ := (h.modules _ _ hdraft).types.kept _ _ hkept
  obtain ⟨hl, he⟩ := Loaded.mem_written.1 hw
  obtain ⟨hl, hm⟩ := Loaded.mem_ofModule.1 hl
  exact ⟨hname, l, hl, hm, heq ▸ he⟩

/-- For every written declaration one is kept that is the same. -/
theorem Agrees.exists_declOf (ha : Agrees drafts docs) (h : Gathers drafts docs) {l : Loaded}
    (hl : l ∈ docs) {d : Declaration} (hd : d ∈ l.document.declarations) :
    ∃ k, drafts.declOf ⟨l.document.name, d.name⟩ = some k ∧
      (k.decl = d ∨ k.decl.same d = true) := by
  obtain ⟨draft, hdraft⟩ := Table.has_iff.1 ((h.has l.document.name).2 ⟨l, hl, rfl⟩)
  have hw : (l, d) ∈ Loaded.written (Loaded.ofModule l.document.name docs) :=
    Loaded.mem_written.2 ⟨Loaded.mem_ofModule.2 ⟨hl, rfl⟩, hd⟩
  obtain ⟨k, hk⟩ := Table.has_iff.1 (((h.modules _ _ hdraft).types.has d.name).2 ⟨_, hw, rfl⟩)
  refine ⟨k, Option.bind_eq_some_iff.2 ⟨draft, hdraft, hk⟩, ?_⟩
  exact ((ha _ _ hdraft).types.same _ hw k hk).1

/-! ## The scope -/

variable {imports : Graph}

theorem kindOf_scope (drafts : Drafts) (imports : Graph) (k : TypeKey) :
    (drafts.scope imports).kindOf k = (drafts.declOf k).map (·.decl.kind) := by
  have htypes : ∀ name (draft : ModuleDraft),
      Table.find? name (draft.types.map fun e => (e.1, e.2.decl.kind)) =
        (draft.types.find? name).map (·.decl.kind) :=
    fun name draft => Table.find?_map (fun _ d => d.decl.kind) name draft.types
  have hmodules := Table.find?_map
    (fun _ draft => draft.types.map fun e => (e.1, e.2.decl.kind)) k.module drafts
  simp only [Scope.kindOf, scope, declOf]
  rw [hmodules]
  cases drafts.find? k.module with
  | none => rfl
  | some draft => exact htypes k.name draft

theorem closureOf_scope (drafts : Drafts) (imports : Graph) (a : String) :
    (drafts.scope imports).closureOf a = if drafts.has a then imports.closure a else [] := by
  have hclosures := Table.find?_map (fun name (_ : ModuleDraft) => imports.closure name) a drafts
  simp only [Scope.closureOf, scope]
  rw [hclosures]
  split
  · next h =>
    obtain ⟨draft, hd⟩ := Table.has_iff.1 h
    rw [hd]
    rfl
  · next h =>
    rw [Option.not_isSome_iff_eq_none.1 h]
    rfl

/-- **The import graph reaches what the imports reach**, when none of them is unknown. -/
theorem Gathers.reaches_iff (h : Gathers drafts docs)
    (hheaders : ∀ l ∈ docs, l.document.headerProblems = []) (hknown : drafts.importGraph.2 = []) :
    drafts.importGraph.1.Reaches a b ↔ Relation.TransGen (Loaded.Imports docs) a b := by
  have hedges : drafts.importGraph.1.DependsOn = Loaded.Imports docs := by
    funext x y
    rw [← h.imports_iff hheaders, dependsOn_importGraph h.sorted]
    exact propext ⟨And.left, fun hxy => ⟨hxy, (unknown_eq_nil_iff h.sorted).1 hknown x y hxy⟩⟩
  rw [Graph.Reaches, hedges]

/-- **The scope of the drafts implements the namespace of their documents.** -/
theorem implements_scope (h : Gathers drafts docs) (ha : Agrees drafts docs)
    (hheaders : ∀ l ∈ docs, l.document.headerProblems = []) (hknown : drafts.importGraph.2 = []) :
    (drafts.scope drafts.importGraph.1).Implements (Loaded.namespaceOf docs) where
  kind k kind := by
    rw [kindOf_scope, Option.map_eq_some_iff]
    constructor
    · rintro ⟨d, hd, rfl⟩
      obtain ⟨hname, l, hl, hm, hdecl⟩ := h.of_declOf hd
      exact ⟨l, hl, hm, d.decl, hdecl, hname, rfl⟩
    · rintro ⟨l, hl, hm, d, hd, hn, rfl⟩
      obtain ⟨kept, hkept, hsame⟩ := ha.exists_declOf h hl hd
      rw [hm, hn] at hkept
      exact ⟨kept, hkept, hsame.elim (congrArg _) Declaration.kind_of_same⟩
  reaches x y := by
    rw [closureOf_scope]
    refine Iff.trans ?_ (h.reaches_iff hheaders hknown)
    split
    · exact Graph.mem_closure_iff (wellFormed_importGraph drafts)
    · next hx =>
      refine iff_of_false List.not_mem_nil fun hxy => hx ?_
      exact mem_nodes_importGraph.1 ((wellFormed_importGraph drafts).nodes_of_reaches hxy).1
  nodup x := by
    rw [closureOf_scope]
    split
    · exact Graph.nodup_closure (wellFormed_importGraph drafts) x
    · exact List.nodup_nil

end Drafts

end InterfaceGen
