import InterfaceGen.Proofs.Arrangement
import InterfaceGen.Proofs.Graph.Closure
import InterfaceGen.Proofs.Kept
import InterfaceGen.Proofs.Positions
import Mathlib.Data.List.Dedup

/-!
# Proofs/Diagnosis — a merge reports everything that is wrong, and each of it once

Cycles aside, what is reported comes from three stages that go on after a failure: collecting, which
compares what comes later with what came first; linking, which finds each unknown import; and
building, which takes each position of each kept declaration on its own. Main statement:
`diagnosis_of_merge`.
-/

namespace InterfaceGen

/-! ## What is expected to be reported -/

/-- What a merge reports. -/
def diagnostics : Except (List Diagnostic) Model → List Diagnostic
  | .ok _ => []
  | .error reported => reported

/-- Whether a diagnostic is about a cycle, of imports or of types. -/
def Diagnostic.isCycle : Diagnostic → Bool
  | .importCycle _ => true
  | .inheritanceCycle _ => true
  | _ => false

/-- Whether a diagnostic is about what documents say, cycles aside. -/
def Diagnostic.isFault : Diagnostic → Bool
  | .invalidDefinition _ _ | .duplicateDefinition _ _ _ _ | .versionConflict _ _ _
  | .unknownImport _ _ | .unresolvedReference _ _ | .ambiguousReference _ _ _
  | .unimportedModule _ _ _ _ | .kindMismatch _ _ _ => true
  | _ => false

theorem Diagnostic.isCycle_of_isFault {d : Diagnostic} (h : d.isFault = true) :
    d.isCycle = false := by
  cases d with
  | importCycle _ => cases h
  | inheritanceCycle _ => cases h
  | _ => rfl

namespace Loaded

/-- Each module with each module that one of its documents imports, itself aside. -/
def importPairs (docs : List Loaded) : List (String × String) :=
  ((docs.flatMap fun l => l.document.imports.map fun i => (l.document.name, i.name)).filter
    fun pair => pair.2 ≠ pair.1).dedup

/-- The imports of modules that no document declares. -/
def importFaults (docs : List Loaded) : List Diagnostic :=
  ((importPairs docs).filter fun pair => docs.all (·.document.name ≠ pair.2)).map fun pair =>
    .unknownImport pair.1 pair.2

/-- The first declaration of each type. -/
def kept (docs : List Loaded) : List (Loaded × Declaration) :=
  ((written docs).map key).dedup.filterMap (firstOf key (written docs))

/-- The positions of a declaration, if that is well formed. -/
def positionsOf (w : Loaded × Declaration) : List Position :=
  if w.2.problems = [] then w.2.positions w.1.document.name else []

/-- The positions of the kept declarations that are well formed. -/
def positions (docs : List Loaded) : List Position := (kept docs).flatMap positionsOf

/-- The module `a` imports the module `b`, which is another one and declared. -/
def Links (docs : List Loaded) (a b : String) : Prop :=
  (Imports docs a b ∧ b ≠ a) ∧ Declares docs b

/-- What names written in some documents refer to, whether these fit together or not: kept
declarations count, and imports of modules that are there. -/
def keptNamespace (docs : List Loaded) : Namespace where
  kind k kind := ∃ w, firstOf key (written docs) k = some w ∧ w.2.kind = kind
  reaches := Relation.TransGen (Links docs)

end Loaded

/-! ## Unknown imports -/

namespace Drafts

variable {drafts : Drafts} {docs : List Loaded} {a b : String} {o : Overlay} {s : Scope}

/-- The recorded links of a walk over the imports. -/
theorem nodup_links (h : Table.Sorted drafts)
    (himports : ∀ name draft, drafts.find? name = some draft → draft.imports.Sorted) :
    (drafts.importKeys.flatMap fun e => (targets e.1 e.2).map (e.1, ·)).Nodup := by
  refine List.nodup_flatMap.2 ⟨fun e he => ?_, ?_⟩
  · obtain ⟨⟨name, draft⟩, hd, rfl⟩ := List.mem_map.1 he
    have hkeys := (himports name draft (h.mem_iff.1 hd)).nodup_keys
    exact (hkeys.filter _).map fun _ _ heq => congrArg Prod.snd heq
  · refine (sorted_importKeys h).imp fun hlt x hx hy => ?_
    obtain ⟨_, -, rfl⟩ := List.mem_map.1 hx
    obtain ⟨_, -, heq⟩ := List.mem_map.1 hy
    exact absurd (congrArg Prod.fst heq).symm (ne_of_lt hlt)

/-- **Each import of a module that is not there is reported once.** -/
theorem Gathers.perm_unknown (h : Gathers drafts docs) :
    drafts.importGraph.2.Perm (Loaded.importFaults docs) := by
  have hhas : ∀ name, (!drafts.has name) = docs.all (·.document.name ≠ name) := fun name => by
    rw [Bool.eq_iff_iff, Bool.not_eq_true', ← Bool.not_eq_true, h.has]
    simp
  rw [drafts.links_importGraph.unknown, Loaded.importFaults]
  simp only [hhas]
  refine List.Perm.map _ (List.Perm.filter _ ?_)
  refine (List.perm_ext_iff_of_nodup (nodup_links h.sorted fun name draft hd =>
    (h.modules name draft hd).imports.sorted) (List.nodup_dedup _)).2 fun ⟨a, b⟩ => ?_
  rw [mem_links_iff h.sorted, h.imports_iff_ne]
  simp only [Loaded.Imports, List.mem_dedup, List.mem_filter, List.mem_flatMap,
    List.mem_map, Prod.mk.injEq, decide_eq_true_eq]
  refine and_congr_left' ?_
  constructor
  · rintro ⟨l, hl, hm, i, hi, hn⟩
    exact ⟨l, hl, i, hi, hm, hn⟩
  · rintro ⟨l, hl, i, hi, hm, hn⟩
    exact ⟨l, hl, hm, i, hi, hn⟩

/-! ## Names -/

/-- A module depends on the declared modules that it imports. -/
theorem Gathers.dependsOn_iff (h : Gathers drafts docs) :
    drafts.importGraph.1.DependsOn a b ↔ Loaded.Links docs a b := by
  rw [dependsOn_importGraph h.sorted, h.imports_iff_ne, h.has]
  rfl

/-- **The scope of the drafts reflects the namespace of what is kept**, on every run. -/
theorem Gathers.reflects (h : Gathers drafts docs) (hk : Keeps drafts docs) :
    drafts.ownScope.Reflects (Loaded.keptNamespace docs) (Loaded.Declares docs) where
  kind k kind := by
    have hdecl := hk.declOf k
    rw [ownScope, kindOf_scope]
    simp only [Loaded.keptNamespace]
    generalize drafts.declOf k = d, firstOf Loaded.key (Loaded.written docs) k = w at hdecl
    cases hdecl with
    | none => simp
    | some hkept => simp [hkept.decl]
  reaches a b := by
    have hreaches : drafts.importGraph.1.Reaches a b ↔
        Relation.TransGen (Loaded.Links docs) a b := by
      have hedges : drafts.importGraph.1.DependsOn = Loaded.Links docs := by
        funext x y
        exact propext h.dependsOn_iff
      rw [Graph.Reaches, hedges]
    rw [ownScope, closureOf_scope]
    refine Iff.trans ?_ hreaches
    split
    · exact Graph.mem_closure_iff (wellFormed_importGraph drafts)
    · next ha =>
      refine iff_of_false List.not_mem_nil fun hab => ha ?_
      exact mem_nodes_importGraph.1 ((wellFormed_importGraph drafts).nodes_of_reaches hab).1
  nodup a := by
    rw [ownScope, closureOf_scope]
    split
    · exact Graph.nodup_closure (wellFormed_importGraph drafts) a
    · exact List.nodup_nil
  known module := by
    have htypes := Table.find?_map
      (fun _ draft => draft.types.map fun e => (e.1, e.2.decl.kind)) module drafts
    rw [Table.has, ownScope, scope]
    simp only
    rw [htypes, Option.isSome_map]
    exact h.has module
  sorted a := by
    rw [ownScope, closureOf_scope]
    split
    · exact Graph.sorted_closure (wellFormed_importGraph drafts) a
    · exact List.Pairwise.nil

/-! ## Positions -/

/-- The keys of the collected types. -/
def typeKeys (drafts : Drafts) : List TypeKey :=
  drafts.flatMap fun e => e.2.types.keys.map (TypeKey.mk e.1)

theorem Gathers.nodup_typeKeys (h : Gathers drafts docs) : drafts.typeKeys.Nodup := by
  refine List.nodup_flatMap.2 ⟨fun e he => ?_, ?_⟩
  · have hkeys := (h.modules e.1 e.2 (h.sorted.mem_iff.1 he)).types.sorted.nodup_keys
    exact hkeys.map fun _ _ heq => congrArg TypeKey.name heq
  · refine h.sorted.imp fun hlt x hx hy => ?_
    obtain ⟨_, -, rfl⟩ := List.mem_map.1 hx
    obtain ⟨_, -, heq⟩ := List.mem_map.1 hy
    exact absurd (congrArg TypeKey.module heq).symm (ne_of_lt hlt)

theorem Gathers.mem_typeKeys (h : Gathers drafts docs) {k : TypeKey} :
    k ∈ drafts.typeKeys ↔ (drafts.declOf k).isSome = true := by
  simp only [typeKeys, List.mem_flatMap, List.mem_map, Table.mem_keys_iff_has]
  constructor
  · rintro ⟨⟨module, draft⟩, he, name, hn, rfl⟩
    rw [declOf, h.sorted.mem_iff.1 he]
    exact hn
  · intro hk
    obtain ⟨d, hd⟩ := Option.isSome_iff_exists.1 hk
    obtain ⟨draft, hdraft, hfind⟩ := Option.bind_eq_some_iff.1 hd
    exact ⟨_, h.sorted.mem_iff.2 hdraft, k.name, Table.has_iff.2 ⟨d, hfind⟩, rfl⟩

/-- The kept declarations are those under the collected keys. -/
theorem Gathers.perm_kept (h : Gathers drafts docs) (hk : Keeps drafts docs) :
    (drafts.typeKeys.filterMap (firstOf Loaded.key (Loaded.written docs))).Perm
      (Loaded.kept docs) := by
  refine List.Perm.filterMap _ ((List.perm_ext_iff_of_nodup h.nodup_typeKeys
    (List.nodup_dedup _)).2 fun k => ?_)
  rw [h.mem_typeKeys, List.mem_dedup, ← isSome_firstOf]
  have hdecl := hk.declOf k
  generalize drafts.declOf k = d, firstOf Loaded.key (Loaded.written docs) k = w at hdecl
  cases hdecl <;> simp

theorem buildFailures_buildTypes (s : Scope) (module : String) (draft : ModuleDraft) :
    buildFailures (buildTypes s module draft) = draft.types.flatMap fun e =>
      if e.2.wellFormed then (s.buildBody module e.2).2.2 else [] := by
  rw [buildTypes]
  induction draft.types with
  | nil => rfl
  | cons e types ih =>
    rw [List.filter_cons, List.flatMap_cons, ← ih]
    split
    · have hbuilt : buildFailures [(e.1, s.buildType module e.2)] =
          (s.buildBody module e.2).2.2 := by
        simp only [buildFailures, Scope.buildType, List.flatMap_singleton]
        cases hf : (s.buildBody module e.2).2.2 with
        | nil => rfl
        | cons d failed => rfl
      rw [← hbuilt, List.map_cons, ← List.singleton_append]
      exact List.flatMap_append
    · rfl

/-- **What is not built fails at positions of kept declarations**, and each of them fails once. -/
theorem Gathers.perm_failed (h : Gathers drafts docs) (hk : Keeps drafts docs) (o : Overlay)
    (s : Scope) :
    (drafts.finish o s).2.Perm ((Loaded.positions docs).filterMap s.check) := by
  have hfailed : (drafts.finish o s).2 = ((drafts.typeKeys.filterMap
      (firstOf Loaded.key (Loaded.written docs))).flatMap
        Loaded.positionsOf).filterMap s.check := by
    simp only [finish, typeKeys, buildFailures_buildTypes, List.filterMap_eq_flatMap_toList,
      List.flatMap_map, List.flatMap_assoc, Table.keys]
    refine List.flatMap_congr fun e he => List.flatMap_congr fun t hd => ?_
    obtain ⟨module, draft⟩ := e
    obtain ⟨name, d⟩ := t
    have hdraft := h.sorted.mem_iff.1 he
    have hfirst := hk.types module draft hdraft name
    rw [(h.modules module draft hdraft).types.sorted.mem_iff.1 hd] at hfirst
    generalize hw : firstOf Loaded.key (Loaded.written docs) ⟨module, name⟩ = w at hfirst
    cases hfirst with
    | @some _ w hkept =>
      have hmodule : w.1.document.name = module := congrArg TypeKey.module (mem_of_firstOf hw).2
      simp only [Option.toList_some, List.flatMap_singleton, Loaded.positionsOf,
        hkept.wellFormed, List.isEmpty_iff]
      split
      · next hp =>
        rw [s.failures_buildBody module (hkept.decl ▸ hp), hkept.decl, hmodule,
          List.filterMap_eq_flatMap_toList]
      · rfl
  rw [hfailed]
  exact ((h.perm_kept hk).flatMap_right _).filterMap _

end Drafts

/-! ## Merging -/

theorem diagnostics_merge (o : Overlay) (documents : List Loaded) :
    diagnostics (merge o documents) = Loaded.reports o documents := by
  rw [merge_eq]
  split
  · next h => exact (List.isEmpty_iff.1 h).symm
  · rfl

theorem Namespace.Misses.isFault {ns : Namespace} {known : String → Prop} {p : Position}
    {e : TypeExpr} {d : Diagnostic} (h : ns.Misses known p e d) : d.isFault = true := by
  induction h with
  | sequence _ ih => exact ih
  | set _ ih => exact ih
  | map _ ih => exact ih
  | _ => rfl

theorem Namespace.Faults.isFault {ns : Namespace} {known : String → Prop} {p : Position}
    {d : Diagnostic} (h : ns.Faults known p d) : d.isFault = true := by
  cases h with
  | unbound _ misses => exact misses.isFault
  | _ => rfl

namespace Loaded

/-- What is reported of some documents besides cycles, where `fault` is what is reported at a
position. -/
def faults (fault : Position → Option Diagnostic) (docs : List Loaded) : List Diagnostic :=
  headerFaults docs ++ bodyFaults (written docs) ++ (later module docs).filterMap versionFault ++
    (later key (written docs)).filterMap duplicateFault ++ importFaults docs ++
    (positions docs).filterMap fault

/-- All of it is about what the documents say. -/
theorem isFault_of_mem_faults {fault : Position → Option Diagnostic} {docs : List Loaded}
    (hfault : ∀ p d, fault p = some d → d.isFault = true) :
    ∀ d ∈ faults fault docs, d.isFault = true := by
  simp only [faults, List.forall_mem_append]
  refine ⟨⟨⟨⟨⟨?_, ?_⟩, ?_⟩, ?_⟩, ?_⟩, ?_⟩
  · simp only [headerFaults, Document.checkHeader, List.forall_mem_flatMap, List.forall_mem_map]
    exact fun _ _ _ _ => rfl
  · simp only [bodyFaults, List.forall_mem_flatMap, List.forall_mem_map]
    exact fun _ _ _ _ => rfl
  · intro d hd
    obtain ⟨pair, -, hd⟩ := List.mem_filterMap.1 hd
    simp only [versionFault] at hd
    split at hd <;> cases hd
    rfl
  · intro d hd
    obtain ⟨⟨⟨first, decl⟩, ⟨other, again⟩⟩, -, hd⟩ := List.mem_filterMap.1 hd
    simp only [duplicateFault] at hd
    split at hd <;> cases hd
    rfl
  · simp only [importFaults, List.forall_mem_map]
    exact fun _ _ => rfl
  · intro d hd
    obtain ⟨p, -, hd⟩ := List.mem_filterMap.1 hd
    exact hfault p d hd

/-- The cycles that are reported, of imports and of types. -/
def cycleReports (o : Overlay) (documents : List Loaded) : List Diagnostic :=
  (drafts documents).importGraph.1.cycles.map .importCycle ++
    (inheritanceGraph ((drafts documents).modules o)).cycles.map .inheritanceCycle

theorem isCycle_of_mem_cycleReports {o : Overlay} {documents : List Loaded} :
    ∀ d ∈ cycleReports o documents, d.isCycle = true := by
  simp only [cycleReports, List.forall_mem_append, List.forall_mem_map]
  exact ⟨fun _ _ => rfl, fun _ _ => rfl⟩

theorem nodup_cycleReports (o : Overlay) (documents : List Loaded) :
    (cycleReports o documents).Nodup := by
  refine List.nodup_append.2 ⟨(Graph.nodup_cycles _).map fun _ _ => Diagnostic.importCycle.inj,
    (Graph.nodup_cycles _).map fun _ _ => Diagnostic.inheritanceCycle.inj, ?_⟩
  intro d hd e he heq
  obtain ⟨_, -, rfl⟩ := List.mem_map.1 hd
  obtain ⟨_, -, rfl⟩ := List.mem_map.1 he
  cases heq

/-- The scope in which declarations are built reflects what is kept. -/
theorem reflects (documents : List Loaded) : (drafts documents).ownScope.Reflects
    (keptNamespace (sorted documents)) (Declares (sorted documents)) :=
  (Drafts.gathers_collect _).reflects (Drafts.keeps_collect _)

/-- What is reported at a position. -/
def faultAt (documents : List Loaded) : Position → Option Diagnostic :=
  (drafts documents).ownScope.check

theorem isFault_of_faultAt {documents : List Loaded} {p : Position} {d : Diagnostic}
    (h : faultAt documents p = some d) : d.isFault = true := by
  have hp := (reflects documents).reports_check p
  rw [← faultAt, h] at hp
  exact hp.2.isFault

theorem isFault_of_mem_faults_faultAt (documents : List Loaded) :
    ∀ d ∈ faults (faultAt documents) (sorted documents), d.isFault = true :=
  isFault_of_mem_faults fun _ _ => isFault_of_faultAt

theorem isCycle_of_mem_faults (documents : List Loaded) :
    ∀ d ∈ faults (faultAt documents) (sorted documents), d.isCycle = false :=
  fun d hd => Diagnostic.isCycle_of_isFault (isFault_of_mem_faults_faultAt documents d hd)

/-- **What is reported are the faults and the cycles.** -/
theorem perm_diagnostics (o : Overlay) (documents : List Loaded) :
    (diagnostics (merge o documents)).Perm
      (faults (faultAt documents) (sorted documents) ++ cycleReports o documents) := by
  have hg : (drafts documents).Gathers (sorted documents) := Drafts.gathers_collect _
  have hk : (drafts documents).Keeps (sorted documents) := Drafts.keeps_collect _
  have hfaults := ((Drafts.perm_collect (sorted documents)).append hg.perm_unknown).append
    (hg.perm_failed hk o (drafts documents).ownScope)
  rw [diagnostics_merge]
  refine List.Perm.trans ?_ (hfaults.append_right _)
  -- the cycles of imports are reported before the positions that fail
  simp only [reports, cycleReports, List.append_assoc]
  refine List.Perm.append_left _ (List.Perm.append_left _ ?_)
  rw [← List.append_assoc, ← List.append_assoc]
  exact List.perm_append_comm.append_right _

theorem filter_cycles_perm (o : Overlay) (documents : List Loaded) :
    ((diagnostics (merge o documents)).filter (·.isCycle)).Perm (cycleReports o documents) := by
  refine ((perm_diagnostics o documents).filter _).trans (List.Perm.of_eq ?_)
  have hnone := isCycle_of_mem_faults documents
  rw [List.filter_append, List.filter_eq_nil_iff.2 fun d hd => by simp [hnone d hd],
    List.filter_eq_self.2 isCycle_of_mem_cycleReports, List.nil_append]

theorem filter_faults_perm (o : Overlay) (documents : List Loaded) :
    ((diagnostics (merge o documents)).filter (!·.isCycle)).Perm
      (faults (faultAt documents) (sorted documents)) := by
  refine ((perm_diagnostics o documents).filter _).trans (List.Perm.of_eq ?_)
  have hnone := isCycle_of_mem_faults documents
  rw [List.filter_append, List.filter_eq_self.2 fun d hd => by simp [hnone d hd],
    List.filter_eq_nil_iff.2 fun d hd => by simp [isCycle_of_mem_cycleReports d hd],
    List.append_nil]

end Loaded

/-- **A merge reports everything that is wrong, and each of it once.** Of documents that are apart,
taken in the order of their paths and origins, it reports each problem of a header and of a
declaration, each later version and each later declaration that differs from the first one, each
missing module that another one imports, and what is wrong at each position of each kept and
well-formed declaration; and, cycles aside, nothing else. No cycle is reported twice either. -/
theorem diagnosis_of_merge (o : Overlay) {documents : List Loaded}
    (hapart : Loaded.Apart documents) :
    ∃ docs, docs.Perm documents ∧ docs.Pairwise (fun a b => a.compare b = .lt) ∧
      ∃ fault : Position → Option Diagnostic,
        (∀ p, (Loaded.keptNamespace docs).Reports (Loaded.Declares docs) p (fault p)) ∧
        ((diagnostics (merge o documents)).filter (!·.isCycle)).Perm
          (Loaded.faults fault docs) ∧
        ((diagnostics (merge o documents)).filter (·.isCycle)).Nodup :=
  ⟨Loaded.sorted documents, Loaded.sorted_perm documents, hapart.pairwise_sorted,
    Loaded.faultAt documents, (Loaded.reflects documents).reports_check,
    Loaded.filter_faults_perm o documents,
    (Loaded.filter_cycles_perm o documents).nodup_iff.2 (Loaded.nodup_cycleReports o documents)⟩

/-- A structured type of the core, with a parent and with fields of some types. -/
def contestedType (name : String) (parent : Option String) (fields : List (String × String)) :
    ComplexTypeDecl where
  name := name
  doc := none
  format := .register
  parent := parent
  properties := fields.map fun (field, type) => ⟨field, none, type, false, none⟩
  values := []

/-- A core, which imports a module that no document declares. -/
def contestedCore (version : String) (types : List ComplexTypeDecl) : Document where
  name := "core"
  version := version
  doc := none
  imports := [⟨"gone", ""⟩]
  code := .null
  aliases := []
  complexTypes := types
  remoteClasses := []
  origin := none

/-- Three documents of one module, two of them from one path. The second one writes the version of
the first with a blank and has a point of nothing; the third one has a version and a point of its
own, a line with one end missing and a loop that extends itself. -/
def contested : List Loaded :=
  [⟨"a.json", .local, contestedCore "1" [contestedType "Point" none [("x", "int")]]⟩,
    ⟨"a.json", .imported, contestedCore "1 " [contestedType "Point" none [("x", "void")]]⟩,
    ⟨"b.json", .local, contestedCore "2" [contestedType "Point" none [("x", "double")],
      contestedType "Line" none [("start", "Point"), ("stop", "Pont")],
      contestedType "Loop" (some "Loop") []]⟩]

/-- Each thing that is wrong is reported once, and the point of nothing is not looked into, since it
is not kept. -/
theorem diagnosis_of_merge_contested : Loaded.Apart contested ∧
    diagnostics (merge Overlay.empty contested) = [
      .duplicateDefinition "core" "Point" "a.json" "a.json", .versionConflict "core" "1" "2",
      .duplicateDefinition "core" "Point" "a.json" "b.json", .unknownImport "core" "gone",
      .unresolvedReference "core.Line.stop" "Pont", .inheritanceCycle ["core.Loop"]] ∧
    ∃ docs, docs.Perm contested ∧ docs.Pairwise (fun a b => a.compare b = .lt) ∧
      ∃ fault : Position → Option Diagnostic,
        (∀ p, (Loaded.keptNamespace docs).Reports (Loaded.Declares docs) p (fault p)) ∧
        ((diagnostics (merge Overlay.empty contested)).filter (!·.isCycle)).Perm
          (Loaded.faults fault docs) ∧
        ((diagnostics (merge Overlay.empty contested)).filter (·.isCycle)).Nodup := by
  have hapart : Loaded.Apart contested := by
    unfold Loaded.Apart
    decide
  have hsorted : Loaded.sorted contested = contested := List.mergeSort_of_pairwise (by decide)
  refine ⟨hapart, ?_, diagnosis_of_merge Overlay.empty hapart⟩
  rw [merge, hsorted]
  decide +kernel

end InterfaceGen
