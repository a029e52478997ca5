import InterfaceGen.Proofs.Graph.Cycles
import InterfaceGen.Proofs.Model

/-!
# Proofs/Validity — a merge succeeds exactly when the documents are valid

`Loaded.Valid` is said of the documents alone: no draft, no graph and no scope is in it. The five
stages of a merge are taken one after the other, each under what the stages before it have
established; the overlay plays no part. Main statement: `merge_isOk_iff_valid`.
-/

namespace InterfaceGen

/-! ## Validity -/

/-- The documents fit together, import each other without a cycle and bind every type they write. -/
structure Loaded.Valid (documents : List Loaded) : Prop extends Loaded.Consistent documents where
  /-- What is imported is declared. -/
  declared : ∀ a b, Imports documents a b → Declares documents b
  /-- No module imports itself, through others or directly. -/
  acyclic : ∀ a, ¬ Relation.TransGen (Imports documents) a a
  /-- Properties, parameters and fields of events are of a type that is not void. -/
  fields : ∀ l ∈ documents, ∀ d ∈ l.document.declarations, ∀ f ∈ d.fields,
    ∃ t, (namespaceOf documents).Writes l.document.name f.type t ∧ t.isVoid = false
  /-- Returns are of a type, or void. -/
  returns : ∀ l ∈ documents, ∀ d ∈ l.document.declarations, ∀ r ∈ d.returns,
    ∃ t, (namespaceOf documents).Writes l.document.name r.type t
  /-- What a type extends is declared, and of the same kind. -/
  parents : ∀ l ∈ documents, ∀ d ∈ l.document.declarations, ∀ p, d.parent = some p →
    ∃ k, (namespaceOf documents).Writes l.document.name p (.reference k) ∧
      (namespaceOf documents).kind k d.kind
  /-- No type extends itself, through others or directly. -/
  lineage : ∀ k, ¬ Relation.TransGen (Extends documents) k k

theorem Loaded.Valid.resolvable {documents : List Loaded} (h : Valid documents) {l : Loaded}
    (hl : l ∈ documents) {d : Declaration} (hd : d ∈ l.document.declarations) :
    (namespaceOf documents).Resolvable l.document.name d :=
  ⟨h.parents l hl d hd, h.fields l hl d hd, h.returns l hl d hd⟩

/-- Neither order nor repetition of documents matters to their validity. -/
theorem Loaded.Valid.congr {documents others : List Loaded} (hv : Valid documents)
    (h : ∀ l, l ∈ documents ↔ l ∈ others) : Valid others where
  toConsistent := hv.toConsistent.mono fun l hl => (h l).2 hl
  declared a b hab := by
    obtain ⟨l, hl, hb⟩ := hv.declared a b (imports_congr h ▸ hab)
    exact ⟨l, (h l).1 hl, hb⟩
  acyclic := imports_congr h ▸ hv.acyclic
  fields l hl := namespaceOf_congr h ▸ hv.fields l ((h l).2 hl)
  returns l hl := namespaceOf_congr h ▸ hv.returns l ((h l).2 hl)
  parents l hl := namespaceOf_congr h ▸ hv.parents l ((h l).2 hl)
  lineage := extends_congr h ▸ hv.lineage

theorem Loaded.valid_sorted_iff {documents : List Loaded} :
    Valid (sorted documents) ↔ Valid documents :=
  ⟨fun h => h.congr fun _ => mem_sorted, fun h => h.congr fun _ => mem_sorted.symm⟩

/-! ## The stages of a merge -/

namespace Drafts

variable {drafts : Drafts} {docs : List Loaded}

/-- **Documents that agree with their drafts fit together** — each of them is compared with what is
kept, and so with every other. -/
theorem Agrees.consistent (ha : Agrees drafts docs) (h : Gathers drafts docs)
    (hdistinct : ∀ l ∈ docs, ∀ d ∈ l.document.declarations, d.Distinct) :
    Loaded.Consistent docs := by
  have hof : ∀ l ∈ docs, ∃ draft : ModuleDraft, drafts.find? l.document.name = some draft ∧
      draft.Agrees (Loaded.ofModule l.document.name docs) ∧
      l ∈ Loaded.ofModule l.document.name docs := fun l hl => by
    obtain ⟨draft, hdraft⟩ := Table.has_iff.1 ((h.has l.document.name).2 ⟨l, hl, rfl⟩)
    exact ⟨draft, hdraft, ha _ _ hdraft, Loaded.mem_ofModule.2 ⟨hl, rfl⟩⟩
  refine ⟨fun l hl => ?_, fun l hl d hd => ?_, fun k hk l hl hkl => ?_,
    fun k hk l hl hkl d hd e he hde => ?_⟩
  · obtain ⟨draft, -, hagrees, hmem⟩ := hof l hl
    exact hagrees.headers l hmem
  · obtain ⟨draft, -, hagrees, hmem⟩ := hof l hl
    exact hagrees.types.problems (l, d) (Loaded.mem_written.2 ⟨hmem, hd⟩)
  · obtain ⟨draft, hdraft, hagrees, hmem⟩ := hof k hk
    obtain ⟨draft', hdraft', hagrees', hmem'⟩ := hof l hl
    rw [hkl] at hdraft
    cases hdraft.symm.trans hdraft'
    have hv := ModuleDraft.versionsConflict_eq_false_iff.1 (hagrees.versions k hmem)
    exact hv.symm.trans (ModuleDraft.versionsConflict_eq_false_iff.1 (hagrees'.versions l hmem'))
  · obtain ⟨c, hc, hcd⟩ := ha.exists_declOf h hk hd
    obtain ⟨c', hc', hce⟩ := ha.exists_declOf h hl he
    rw [hkl, hde] at hc
    cases hc.symm.trans hc'
    obtain ⟨-, m, hm, -, hcm⟩ := h.of_declOf hc
    have hkept := hdistinct m hm _ hcm
    have hd' := hdistinct k hk d hd
    rcases hcd with heq | hcd
    · rw [← heq]
      exact hce.elim (fun hce => hce ▸ hkept.same_refl) id
    · have hdc := hkept.same_symm hd' hcd
      exact hce.elim (fun hce => hce ▸ hdc) (hd'.same_trans hdc)

/-- **Collecting reports nothing exactly when the documents fit together.** -/
theorem collect_eq_nil_iff (hdistinct : ∀ l ∈ docs, ∀ d ∈ l.document.declarations, d.Distinct) :
    (absorbAll [] docs).2 = [] ↔ Loaded.Consistent docs :=
  ⟨fun h => (agrees_collect h).consistent (gathers_collect docs) hdistinct, collect_eq_nil⟩

/-- What the headers say is what each document's draft agrees with. -/
theorem Agrees.headers (ha : Agrees drafts docs) (h : Gathers drafts docs) :
    ∀ l ∈ docs, l.document.headerProblems = [] := fun l hl => by
  obtain ⟨draft, hdraft⟩ := Table.has_iff.1 ((h.has l.document.name).2 ⟨l, hl, rfl⟩)
  exact (ha _ _ hdraft).headers l (Loaded.mem_ofModule.2 ⟨hl, rfl⟩)

/-- **No import is reported exactly when every import is declared.** -/
theorem Agrees.unknown_eq_nil_iff (ha : Agrees drafts docs) (h : Gathers drafts docs) :
    drafts.importGraph.2 = [] ↔ ∀ a b, Loaded.Imports docs a b → Loaded.Declares docs b := by
  rw [Drafts.unknown_eq_nil_iff h.sorted]
  refine forall₂_congr fun a b => imp_congr (h.imports_iff (ha.headers h)) (h.has b)

/-- **No cycle of imports is found exactly when there is none.** -/
theorem Agrees.cycles_eq_nil_iff (ha : Agrees drafts docs) (h : Gathers drafts docs)
    (hknown : drafts.importGraph.2 = []) : drafts.importGraph.1.cycles = [] ↔
      ∀ a, ¬ Relation.TransGen (Loaded.Imports docs) a a := by
  rw [Graph.cycles_eq_nil_iff (wellFormed_importGraph drafts), Graph.Acyclic]
  exact forall_congr' fun a => not_congr (h.reaches_iff (ha.headers h) hknown)

/-- Once every declaration is built, the drafts are complete. -/
theorem Agrees.complete (ha : Agrees drafts docs) (h : Gathers drafts docs) {o : Overlay}
    (hknown : drafts.importGraph.2 = []) (hbuilt : (drafts.finish o drafts.ownScope).2 = []) :
    Complete drafts docs :=
  ⟨h, ha, implements_scope h ha (ha.headers h) hknown, fun k d hd =>
    (Drafts.finish_clean_iff h).1 hbuilt k d hd (ha.wellFormed h hd).2⟩

/-- **No cycle of types is found exactly when there is none.** -/
theorem Complete.cycles_eq_nil_iff (h : Complete drafts docs) {o : Overlay} :
    (inheritanceGraph (drafts.modules o)).cycles = [] ↔
      ∀ k, ¬ Relation.TransGen (Loaded.Extends docs) k k := by
  have hextends : Extends (drafts.model o).types = Loaded.Extends docs := by
    funext a b
    exact propext h.extends_iff
  rw [Graph.cycles_eq_nil_iff (wellFormed_inheritanceGraph _), ← hextends]
  exact acyclic_inheritanceGraph_iff h.undotted

end Drafts

/-! ## Success -/

/-- What is left of a successful merge: its drafts are complete, and its model is theirs. -/
theorem complete_of_merge {o : Overlay} {documents : List Loaded} {m : Model}
    (h : merge o documents = .ok m) :
    (Loaded.drafts documents).Complete (Loaded.sorted documents) ∧
      (Loaded.drafts documents).model o = m := by
  obtain ⟨hcollected, hknown, -, hbuilt, -, hm⟩ := merge_eq_ok_iff.1 h
  exact ⟨(Drafts.agrees_collect hcollected).complete (Drafts.gathers_collect _) hknown hbuilt, hm⟩

/-- **A merge succeeds exactly when the documents are valid**, whatever the overlay. Default values
are objects without repeated keys, as every object is that is read. -/
theorem merge_isOk_iff_valid (o : Overlay) (documents : List Loaded)
    (hdistinct : ∀ l ∈ documents, ∀ d ∈ l.document.declarations, d.Distinct) :
    (∃ m, merge o documents = .ok m) ↔ Loaded.Valid documents := by
  have hdistinct' : ∀ l ∈ Loaded.sorted documents, ∀ d ∈ l.document.declarations, d.Distinct :=
    fun l hl => hdistinct l (Loaded.mem_sorted.1 hl)
  have hg : (Loaded.drafts documents).Gathers (Loaded.sorted documents) :=
    Drafts.gathers_collect _
  rw [← Loaded.valid_sorted_iff]
  constructor
  · rintro ⟨m, hm⟩
    obtain ⟨hcollected, hknown, hcycles, hbuilt, hlineage, -⟩ := merge_eq_ok_iff.1 hm
    have hcomplete := (complete_of_merge hm).1
    have ha := hcomplete.agrees
    have hresolvable := (ha.finish_clean_iff hg hcomplete.scope).1 hbuilt
    exact {
      toConsistent := (Drafts.collect_eq_nil_iff hdistinct').1 hcollected
      declared := (ha.unknown_eq_nil_iff hg).1 hknown
      acyclic := (ha.cycles_eq_nil_iff hg hknown).1 hcycles
      fields := fun l hl d hd => (hresolvable l hl d hd).fields
      returns := fun l hl d hd => (hresolvable l hl d hd).returns
      parents := fun l hl d hd => (hresolvable l hl d hd).parent
      lineage := hcomplete.cycles_eq_nil_iff.1 hlineage }
  · intro hv
    have hcollected := Drafts.collect_eq_nil hv.toConsistent
    have ha : (Loaded.drafts documents).Agrees (Loaded.sorted documents) :=
      Drafts.agrees_collect hcollected
    have hknown := (ha.unknown_eq_nil_iff hg).2 hv.declared
    have hcycles := (ha.cycles_eq_nil_iff hg hknown).2 hv.acyclic
    have hscope := Drafts.implements_scope hg ha (ha.headers hg) hknown
    have hbuilt : ((Loaded.drafts documents).finish o (Loaded.drafts documents).ownScope).2 = [] :=
      (ha.finish_clean_iff hg hscope).2 fun l hl d hd => hv.resolvable hl hd
    have hlineage := (ha.complete hg hknown hbuilt).cycles_eq_nil_iff (o := o)
    exact ⟨_, merge_eq_ok_iff.2
      ⟨hcollected, hknown, hcycles, hbuilt, hlineage.2 hv.lineage, rfl⟩⟩

/-! ## Three documents of two modules -/

/-- The base of users, as two documents declare it. -/
def sampleBase : ComplexTypeDecl where
  name := "Base"
  doc := none
  format := .register
  parent := none
  properties := [⟨"id", none, "int64", false, none⟩]
  values := []

/-- The core as a dependency. -/
def sampleDependency : Document where
  name := "core"
  version := "1.0"
  doc := some "Shared types"
  imports := []
  code := .obj [("package", .str "org.core")]
  aliases := [⟨"Id", none, "int64"⟩]
  complexTypes := [sampleBase,
    { sampleBase with name := "Color", format := .enum, properties := [], values := ["RED"] }]
  remoteClasses := []
  origin := none

/-- A module that imports the core. -/
def sampleApp : Document where
  name := "app"
  version := "2.0"
  doc := none
  imports := [⟨"core", "1.0"⟩]
  code := .null
  aliases := []
  complexTypes := [{ sampleBase with
    name := "User"
    parent := some "Base"
    properties := [⟨"friends", none, "core.Base[]", true, some (.arr [])⟩,
      ⟨"color", none, "Color", false, some (.obj [("name", .str "RED")])⟩] }]
  remoteClasses := [{
    name := "Player"
    doc := none
    parent := none
    isAbstract := false
    constructor := some ⟨none, [⟨"volume", none, "int", true, some (.num (.int 5))⟩]⟩
    methods := [⟨"play", none, [⟨"users", none, "User<>", false, none⟩], some ⟨"boolean", none⟩⟩,
      ⟨"stop", none, [], some ⟨"void", some "Always stops"⟩⟩]
    events := [⟨"ended", none, [⟨"by", none, "User", false, none⟩]⟩] }]
  origin := none

/-- The core again, as a local document with one of its types. -/
def sampleCore : Document where
  name := "core"
  version := " 1.0"
  doc := none
  imports := []
  code := .obj []
  aliases := []
  complexTypes := [sampleBase]
  remoteClasses := []
  origin := none

/-- Three documents in path order. -/
def sample : List Loaded :=
  [⟨"deps/core.json", .imported, sampleDependency⟩, ⟨"src/app.json", .local, sampleApp⟩,
    ⟨"src/core.json", .local, sampleCore⟩]

theorem sorted_sample : Loaded.sorted sample = sample := List.mergeSort_of_pairwise (by decide)

theorem exists_merge_sample : ∃ m, merge Overlay.empty sample = .ok m := by
  have hany : (merge Overlay.empty sample).toOption.any (fun _ => true) = true := by
    rw [merge, sorted_sample]
    decide +kernel
  obtain ⟨m, hm, -⟩ := exists_of_any_toOption hany
  exact ⟨m, hm⟩

theorem distinct_sample : ∀ l ∈ sample, l.document.Distinct := by
  have hcolor : (Json.obj [("name", .str "RED")]).Distinct :=
    .obj (by decide) (by simpa using Json.Distinct.str "RED")
  have hpackage : (Json.obj [("package", .str "org.core")]).Distinct :=
    .obj (by decide) (by simpa using Json.Distinct.str "org.core")
  have hempty : (Json.arr []).Distinct := .arr (by simp)
  have hcode : sampleCore.code.Distinct := Json.distinct_obj_nil
  simp only [sample, List.forall_mem_cons, List.not_mem_nil, false_imp_iff, implies_true, and_true]
  refine ⟨⟨hpackage, ?_⟩, ⟨.null, ?_⟩, ⟨hcode, ?_⟩⟩
  · simp [sampleDependency, sampleBase, Document.declarations, Declaration.Distinct,
      Declaration.fields, FieldDecl.Distinct]
  · simp [sampleApp, sampleBase, Document.declarations, Declaration.Distinct,
      Declaration.fields, FieldDecl.Distinct, hcolor, hempty, Json.Distinct.num]
  · simp [sampleCore, sampleBase, Document.declarations, Declaration.Distinct,
      Declaration.fields, FieldDecl.Distinct]

/-- The sample is valid, and so it is merged. -/
theorem merge_isOk_iff_valid_sample :
    (∀ l ∈ sample, ∀ d ∈ l.document.declarations, d.Distinct) ∧ Loaded.Valid sample := by
  have hdistinct : ∀ l ∈ sample, ∀ d ∈ l.document.declarations, d.Distinct :=
    fun l hl => (distinct_sample l hl).declarations
  exact ⟨hdistinct, (merge_isOk_iff_valid Overlay.empty sample hdistinct).1 exists_merge_sample⟩

end InterfaceGen
