import InterfaceGen.Proofs.Diagnosis
import InterfaceGen.Proofs.Graph.Cycles
import InterfaceGen.Proofs.Inheritance

/-!
# Proofs/Circular — a cycle of types is reported if all of its members are sound

What a type extends is recorded when the type is built, and it is built only if every position in
its declaration succeeds. So cycles are searched among sound types alone, and one position that
fails, of whatever member, hides every cycle through its type. Main statements:
`inheritanceCycle_of_merge` and, for a cycle that is hidden, `not_inheritanceCycle_hiddenCycle`.
-/

namespace InterfaceGen

namespace Loaded

variable {docs : List Loaded} {a b k : TypeKey}

/-- The first declaration of the type `a` is well formed, and what it extends is, taken alone, the
type `b`, which is of its kind. -/
def Inherits (docs : List Loaded) (a b : TypeKey) : Prop :=
  ∃ w, firstOf key (written docs) a = some w ∧ w.2.problems = [] ∧
    ∃ text, w.2.parent = some text ∧ (keptNamespace docs).BindsParent a.module w.2.kind text b

/-- The first declaration of a type is well formed, and all its positions succeed. -/
def Sound (docs : List Loaded) (k : TypeKey) : Prop :=
  ∃ w, firstOf key (written docs) k = some w ∧ w.2.problems = [] ∧
    ∀ p ∈ w.2.positions k.module, (keptNamespace docs).Succeeds p

/-- The name of a type that inherits is an identifier, and so is that of its parent. -/
theorem Inherits.isIdentifier (h : Inherits docs a b) :
    isIdentifier a.name = true ∧ isIdentifier b.name = true := by
  obtain ⟨w, hw, hproblems, text, -, hparent⟩ := h
  obtain rfl := (mem_of_firstOf hw).2
  exact ⟨Declaration.isIdentifier_of_problems hproblems, hparent.type.isIdentifier⟩

end Loaded

/-! ## Types that are built -/

namespace Drafts

variable {drafts : Drafts} {docs : List Loaded} {o : Overlay} {a b k : TypeKey}

/-- **A type is built exactly when it is sound.** -/
theorem Gathers.exists_lookup_iff (h : Gathers drafts docs) (hk : Keeps drafts docs) :
    (∃ t, (drafts.model o).lookup k = some t) ↔ Loaded.Sound docs k := by
  have hr := h.reflects hk
  have hdecl := hk.declOf k
  simp only [lookup_model h, Loaded.Sound]
  generalize drafts.declOf k = d, firstOf Loaded.key (Loaded.written docs) k = w at hdecl
  cases hdecl with
  | none => simp
  | @some d w hkept =>
    simp only [Option.some.injEq, exists_eq_left', hkept.wellFormed, List.isEmpty_iff,
      exists_and_left]
    refine and_congr_right fun hproblems => ?_
    rw [hr.exists_buildType_iff (hkept.decl ▸ hproblems), hkept.decl]

/-- What a built type extends is what its first declaration extends. -/
theorem Gathers.parent_iff (h : Gathers drafts docs) (hk : Keeps drafts docs) {t : TypeDef}
    (ht : (drafts.model o).lookup a = some t) : t.parent = some b ↔ Loaded.Inherits docs a b := by
  have hdecl := hk.declOf a
  obtain ⟨d, hd, hwf, hbuilt⟩ := (lookup_model h).1 ht
  simp only [Loaded.Inherits]
  rw [hd] at hdecl
  generalize firstOf Loaded.key (Loaded.written docs) a = w at hdecl
  cases hdecl with
  | @some _ w hkept =>
    have hproblems : w.2.problems = [] := by rwa [hkept.wellFormed, List.isEmpty_iff] at hwf
    have hparent := ((h.reflects hk).bindsBody_buildType (hkept.decl ▸ hproblems) hbuilt).parent
    rw [hkept.decl] at hparent
    simp only [Option.some.injEq, exists_eq_left', hproblems, true_and]
    generalize w.2.parent = text, t.parent = parent at hparent
    cases hparent with
    | none => simp
    | some hbinds =>
      simp only [Option.some.injEq, exists_eq_left']
      exact ⟨fun heq => heq ▸ hbinds, fun hb =>
        DataType.reference.inj (hbinds.type.unique hb.type)⟩

/-- **Types extend others as sound declarations do.** -/
theorem Gathers.extends_iff (h : Gathers drafts docs) (hk : Keeps drafts docs) :
    Extends (drafts.model o).types a b ↔ Loaded.Sound docs a ∧ Loaded.Inherits docs a b := by
  rw [← h.exists_lookup_iff hk (o := o)]
  constructor
  · rintro ⟨t, ht, rfl, hp⟩
    have hlookup := h.mem_types_iff.1 ht
    exact ⟨⟨t, hlookup⟩, (h.parent_iff hk hlookup).1 hp⟩
  · rintro ⟨⟨t, ht⟩, hinherits⟩
    have hkey := h.key_of_lookup ht
    exact ⟨t, h.mem_types_iff.2 (hkey.symm ▸ ht), hkey, (h.parent_iff hk ht).2 hinherits⟩

end Drafts

/-! ## Cycles that are reported -/

theorem Loaded.inheritanceCycle_mem_iff {o : Overlay} {documents : List Loaded}
    {types : List String} : .inheritanceCycle types ∈ diagnostics (merge o documents) ↔
      types ∈ (inheritanceGraph ((drafts documents).modules o)).cycles := by
  have hcycles := (filter_cycles_perm o documents).mem_iff (a := .inheritanceCycle types)
  rw [List.mem_filter] at hcycles
  simpa [Diagnostic.isCycle, cycleReports] using hcycles

/-- **A cycle of types is reported exactly when there is one among the sound types**: a position
that fails, be it of a member, keeps its type out of the search. -/
theorem inheritanceCycle_of_merge (o : Overlay) (documents : List Loaded) :
    (∃ types, .inheritanceCycle types ∈ diagnostics (merge o documents)) ↔
      ∃ k, Relation.TransGen (fun a b => Loaded.Sound (Loaded.sorted documents) a ∧
        Loaded.Inherits (Loaded.sorted documents) a b) k k := by
  have hg : (Loaded.drafts documents).Gathers (Loaded.sorted documents) :=
    Drafts.gathers_collect _
  have hk : (Loaded.drafts documents).Keeps (Loaded.sorted documents) := Drafts.keeps_collect _
  have hextends : Extends ((Loaded.drafts documents).model o).types = fun a b =>
      Loaded.Sound (Loaded.sorted documents) a ∧ Loaded.Inherits (Loaded.sorted documents) a b := by
    funext a b
    exact propext (hg.extends_iff hk)
  have hdots : Undotted ((Loaded.drafts documents).model o).types := fun a b hab => by
    obtain ⟨ha, hb⟩ := ((hg.extends_iff hk).1 hab).2.isIdentifier
    exact ⟨dot_not_mem ha, dot_not_mem hb⟩
  have hacyclic := (Graph.cycles_eq_nil_iff (wellFormed_inheritanceGraph _)).trans
    (acyclic_inheritanceGraph_iff hdots)
  simp only [Loaded.inheritanceCycle_mem_iff, ← hextends]
  rw [← not_iff_not, not_exists, not_exists, ← List.eq_nil_iff_forall_not_mem]
  exact hacyclic

/-! ## A cycle that is not reported -/

/-- A type with a property of a type that is missing. It extends the other one. -/
def hiddenCycleA : ComplexTypeDecl :=
  { sampleBase with
    name := "A"
    parent := some "B"
    properties := [⟨"x", none, "Missing", false, none⟩] }

/-- A type without faults, which extends the first one. -/
def hiddenCycleB : ComplexTypeDecl :=
  { sampleBase with
    name := "B"
    parent := some "A"
    properties := [] }

/-- One document with both types. -/
def hiddenCycle : List Loaded :=
  [⟨"d0.kmd.json", .local, { sampleCore with
    name := "m"
    version := "1.0.0"
    complexTypes := [hiddenCycleA, hiddenCycleB] }⟩]

theorem sorted_hiddenCycle : Loaded.sorted hiddenCycle = hiddenCycle :=
  List.mergeSort_of_pairwise (by decide)

/-- The missing type is all that is reported. -/
theorem diagnostics_hiddenCycle : diagnostics (merge Overlay.empty hiddenCycle) =
    [.unresolvedReference "m.A.x" "Missing"] := by
  rw [merge, sorted_hiddenCycle]
  decide +kernel

theorem inherits_hiddenCycle : Loaded.Inherits hiddenCycle ⟨"m", "A"⟩ ⟨"m", "B"⟩ ∧
    Loaded.Inherits hiddenCycle ⟨"m", "B"⟩ ⟨"m", "A"⟩ := by
  have hA : firstOf Loaded.key (Loaded.written hiddenCycle) ⟨"m", "A"⟩ =
      some (hiddenCycle.head (by decide), .complex hiddenCycleA) := by rfl
  have hB : firstOf Loaded.key (Loaded.written hiddenCycle) ⟨"m", "B"⟩ =
      some (hiddenCycle.head (by decide), .complex hiddenCycleB) := by rfl
  have hkindA : (Loaded.keptNamespace hiddenCycle).kind ⟨"m", "A"⟩ .register := ⟨_, hA, rfl⟩
  have hkindB : (Loaded.keptNamespace hiddenCycle).kind ⟨"m", "B"⟩ .register := ⟨_, hB, rfl⟩
  have hwritesA : (Loaded.keptNamespace hiddenCycle).Writes "m" "A" (.reference ⟨"m", "A"⟩) :=
    ⟨.named none "A", by decide +kernel, .named (.own ⟨_, hkindA⟩)⟩
  have hwritesB : (Loaded.keptNamespace hiddenCycle).Writes "m" "B" (.reference ⟨"m", "B"⟩) :=
    ⟨.named none "B", by decide +kernel, .named (.own ⟨_, hkindB⟩)⟩
  exact ⟨⟨_, hA, by decide, "B", rfl, hwritesB, hkindB⟩,
    ⟨_, hB, by decide, "A", rfl, hwritesA, hkindA⟩⟩

/-- **This cycle is not reported**, though each of the two types extends the other one. -/
theorem not_inheritanceCycle_hiddenCycle :
    (∃ k, Relation.TransGen (Loaded.Inherits (Loaded.sorted hiddenCycle)) k k) ∧
      ∀ types, .inheritanceCycle types ∉ diagnostics (merge Overlay.empty hiddenCycle) := by
  constructor
  · rw [sorted_hiddenCycle]
    exact ⟨⟨"m", "A"⟩, .tail (.single inherits_hiddenCycle.1) inherits_hiddenCycle.2⟩
  · simp [diagnostics_hiddenCycle]

end InterfaceGen
