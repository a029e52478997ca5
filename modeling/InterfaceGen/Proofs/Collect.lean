import InterfaceGen.Proofs.Draft

/-!
# Proofs/Collect — what has a name of its own is collected as it is

If no two declarations of a document have one name, and no two documents declare one module, nothing
is ever compared with what is kept: every declaration and every document ends up in the drafts as it
came, and is reported only for what is wrong with it alone. Main statements:
`DeclDraft.find?_absorbAll_iff` and `Drafts.find?_absorbAll_iff`.
-/

namespace InterfaceGen

/-! ## Declarations of different names -/

namespace DeclDraft

variable {types : Table DeclDraft} {loaded : Loaded} {decls : List Declaration} {name : String}
  {k : DeclDraft}

/-- A declaration as it is kept when it comes first. -/
def first (loaded : Loaded) (decl : Declaration) : DeclDraft :=
  ⟨decl, loaded.path, loaded.origin, decl.problems.isEmpty⟩

theorem absorb_of_fresh {decl : Declaration} (h : types.find? decl.name = none) :
    absorb loaded types decl = (types.insert decl.name (first loaded decl),
      decl.problems.map (Diagnostic.invalidDefinition loaded.document.name)) := by
  simp [absorb, h, first]

/-- After a declaration of a new name, the names that were new and are not its own still are. -/
theorem fresh_absorb {decl : Declaration} (hfresh : ∀ d ∈ decl :: decls, types.find? d.name = none)
    (hnodup : ((decl :: decls).map (·.name)).Nodup) :
    ∀ d ∈ decls, (absorb loaded types decl).1.find? d.name = none := by
  intro d hd
  have hne : d.name ≠ decl.name := fun heq =>
    (List.nodup_cons.1 hnodup).1 (List.mem_map.2 ⟨d, hd, heq⟩)
  rw [find?_absorb, if_neg hne]
  exact hfresh d (List.mem_cons_of_mem _ hd)

/-- **Declarations of new and different names are kept as they are.** -/
theorem find?_absorbAll_iff (hfresh : ∀ d ∈ decls, types.find? d.name = none)
    (hnodup : (decls.map (·.name)).Nodup) :
    (absorbAll loaded types decls).1.find? name = some k ↔
      types.find? name = some k ∨ ∃ d ∈ decls, d.name = name ∧ k = first loaded d := by
  induction decls generalizing types with
  | nil => simp [absorbAll]
  | cons d decls ih =>
    have hd := hfresh d List.mem_cons_self
    simp only [absorbAll]
    rw [ih (fresh_absorb hfresh hnodup) (List.nodup_cons.1 hnodup).2, absorb_of_fresh hd,
      Table.find?_insert]
    split
    · next hn =>
      subst hn
      simp only [hd, List.mem_cons, exists_eq_or_imp, true_and, Option.some.injEq, reduceCtorEq,
        false_or]
      exact or_congr_left eq_comm
    · next hn =>
      simp only [List.mem_cons, exists_eq_or_imp, Ne.symm hn, false_and, false_or]

/-- **Declarations of new and different names are reported only for their own problems.** -/
theorem absorbAll_eq_nil (hfresh : ∀ d ∈ decls, types.find? d.name = none)
    (hnodup : (decls.map (·.name)).Nodup) (hclean : ∀ d ∈ decls, d.problems = []) :
    (absorbAll loaded types decls).2 = [] := by
  induction decls generalizing types with
  | nil => rfl
  | cons d decls ih =>
    have hd : (absorb loaded types d).2 = [] := by
      rw [absorb_of_fresh (hfresh d List.mem_cons_self), hclean d List.mem_cons_self]
      rfl
    exact List.append_eq_nil_iff.2 ⟨hd, ih (fresh_absorb hfresh hnodup)
      (List.nodup_cons.1 hnodup).2 fun e he => hclean e (List.mem_cons_of_mem _ he)⟩

end DeclDraft

/-! ## Imports of different names -/

/-- **The imports of a module are collected to themselves.** -/
theorem ModuleDraft.addImports_values {imports : Table Import} (hsorted : imports.Sorted)
    (hnames : ∀ name i, imports.find? name = some i → i.name = name) :
    addImports [] imports.values = imports := by
  have hg := gathersImports_nil.addImports imports.values
  have hof : ∀ {i : Import}, i ∈ imports.values → imports.find? i.name = some i := by
    intro i hi
    obtain ⟨⟨n, i⟩, he, rfl⟩ := List.mem_map.1 hi
    have hfind := hsorted.mem_iff.1 he
    rw [hnames n i hfind]
    exact hfind
  refine hg.sorted.ext hsorted fun name => ?_
  cases hi : imports.find? name with
  | none =>
    rw [← Option.not_isSome_iff_eq_none]
    intro hsome
    obtain ⟨i, hmem, rfl⟩ := (hg.has name).1 hsome
    rw [List.nil_append] at hmem
    cases hi.symm.trans (hof hmem)
  | some i =>
    have hhas : (addImports [] imports.values).has name = true :=
      (hg.has name).2 ⟨i, List.mem_map.2 ⟨_, Table.mem_of_find? hi, rfl⟩, hnames name i hi⟩
    obtain ⟨j, hj⟩ := Table.has_iff.1 hhas
    obtain ⟨rfl, hmem⟩ := hg.kept name j hj
    rw [hj, ← hi, hof hmem]

/-! ## Documents of different modules -/

namespace Drafts

variable {drafts : Drafts} {docs : List Loaded} {name : String} {draft : ModuleDraft}

/-- The draft of a module with one document. -/
def first (l : Loaded) : ModuleDraft × List Diagnostic := (ModuleDraft.start l).absorb l

theorem next_of_fresh {l : Loaded} (h : drafts.find? l.document.name = none) :
    drafts.next l = first l := by
  rw [next, h, Option.getD_none, first]

/-- After a document of a new module, the modules that were new and are not its own still are. -/
theorem fresh_absorb {l : Loaded} (hfresh : ∀ k ∈ l :: docs, drafts.find? k.document.name = none)
    (hnodup : ((l :: docs).map (·.document.name)).Nodup) :
    ∀ k ∈ docs, (drafts.absorb l).1.find? k.document.name = none := by
  intro k hk
  have hne : k.document.name ≠ l.document.name := fun heq =>
    (List.nodup_cons.1 hnodup).1 (List.mem_map.2 ⟨k, hk, heq⟩)
  rw [find?_absorb, if_neg hne]
  exact hfresh k (List.mem_cons_of_mem _ hk)

/-- **Documents of new and different modules make a draft each.** -/
theorem find?_absorbAll_iff (hfresh : ∀ l ∈ docs, drafts.find? l.document.name = none)
    (hnodup : (docs.map (·.document.name)).Nodup) :
    (drafts.absorbAll docs).1.find? name = some draft ↔ drafts.find? name = some draft ∨
      ∃ l ∈ docs, l.document.name = name ∧ draft = (first l).1 := by
  induction docs generalizing drafts with
  | nil => simp [absorbAll]
  | cons l docs ih =>
    have hl := hfresh l List.mem_cons_self
    simp only [absorbAll]
    rw [ih (fresh_absorb hfresh hnodup) (List.nodup_cons.1 hnodup).2, find?_absorb,
      next_of_fresh hl]
    split
    · next hn =>
      subst hn
      simp only [hl, List.mem_cons, exists_eq_or_imp, true_and, Option.some.injEq, reduceCtorEq,
        false_or]
      exact or_congr_left eq_comm
    · next hn =>
      simp only [List.mem_cons, exists_eq_or_imp, Ne.symm hn, false_and, false_or]

/-- **Documents of new and different modules are reported only for what is wrong with each.** -/
theorem absorbAll_eq_nil (hfresh : ∀ l ∈ docs, drafts.find? l.document.name = none)
    (hnodup : (docs.map (·.document.name)).Nodup)
    (hclean : ∀ l ∈ docs, l.document.headerProblems = [] ∧ (first l).2 = []) :
    (drafts.absorbAll docs).2 = [] := by
  induction docs generalizing drafts with
  | nil => rfl
  | cons l docs ih =>
    refine List.append_eq_nil_iff.2 ⟨absorb_eq_nil_iff.2 ?_, ih (fresh_absorb hfresh hnodup)
      (List.nodup_cons.1 hnodup).2 fun k hk => hclean k (List.mem_cons_of_mem _ hk)⟩
    rw [next_of_fresh (hfresh l List.mem_cons_self)]
    exact hclean l List.mem_cons_self

end Drafts

end InterfaceGen
