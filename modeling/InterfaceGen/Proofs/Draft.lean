import InterfaceGen.Model.Draft
import InterfaceGen.Proofs.Document
import InterfaceGen.Proofs.Overlay

/-!
# Proofs/Draft — what the drafts say about the documents they were collected from

A collection `Gathers` its documents: what it holds came from them, and nothing they declare is
missing. This holds on every run. On a run that reports nothing the documents also `Agree` with the
draft: no version differs from the one kept, and no declaration from the kept one of its name. Both
are proved for one step and carried along the list. Main statements: `Drafts.gathers_collect`,
`Drafts.agrees_collect` and `Drafts.collect_eq_nil`.
-/

namespace InterfaceGen

/-- The declarations of some documents, each with its document, in order. -/
def Loaded.written (docs : List Loaded) : List (Loaded × Declaration) :=
  docs.flatMap fun l => l.document.declarations.map (l, ·)

theorem Loaded.mem_written {docs : List Loaded} {l : Loaded} {d : Declaration} :
    (l, d) ∈ written docs ↔ l ∈ docs ∧ d ∈ l.document.declarations := by
  simp only [written, List.mem_flatMap, List.mem_map, Prod.mk.injEq]
  constructor
  · rintro ⟨l, hl, d, hd, rfl, rfl⟩
    exact ⟨hl, hd⟩
  · rintro ⟨hl, hd⟩
    exact ⟨l, hl, d, hd, rfl, rfl⟩

theorem Loaded.written_concat (docs : List Loaded) (l : Loaded) :
    written (docs ++ [l]) = written docs ++ l.document.declarations.map (l, ·) := by
  simp [written]

/-! ## Declarations of one module -/

namespace DeclDraft

variable {types : Table DeclDraft} {written : List (Loaded × Declaration)} {loaded : Loaded}
  {decl : Declaration} {decls : List Declaration}

/-- What is kept for a name when one more declaration of it comes. -/
def next (kept : Option DeclDraft) (loaded : Loaded) (decl : Declaration) : DeclDraft :=
  match kept with
  | none => ⟨decl, loaded.path, loaded.origin, decl.problems.isEmpty⟩
  | some k =>
    if k.decl.conflicts decl then k else { k with origin := k.origin.combine loaded.origin }

/-- **A declaration changes what is kept for its name, and nothing else.** -/
theorem find?_absorb (loaded : Loaded) (types : Table DeclDraft) (decl : Declaration)
    (name : String) : (absorb loaded types decl).1.find? name =
      if name = decl.name then some (next (types.find? name) loaded decl)
      else types.find? name := by
  by_cases h : name = decl.name
  · subst h
    simp only [absorb, if_true]
    cases hk : types.find? decl.name with
    | none => simp [next]
    | some k =>
      simp only [next]
      split <;> simp_all
  · rw [if_neg h]
    simp only [absorb]
    cases types.find? decl.name with
    | none => exact Table.find?_insert_ne h _ _
    | some k =>
      simp only
      split
      · rfl
      · exact Table.find?_insert_ne h _ _

/-- A declaration is reported unless it is well formed and the same as the kept one. -/
theorem absorb_eq_nil_iff : (absorb loaded types decl).2 = [] ↔
    decl.problems = [] ∧ ∀ k, types.find? decl.name = some k → k.decl.same decl = true := by
  simp only [absorb]
  cases types.find? decl.name with
  | none => simp
  | some k =>
    by_cases hs : k.decl.same decl = true
    · simp [Declaration.conflicts, hs]
    · simp [Declaration.conflicts, hs]

theorem sorted_absorb (h : types.Sorted) : (absorb loaded types decl).1.Sorted := by
  simp only [absorb]
  split
  · split
    · exact h
    · exact h.insert _ _
  · exact h.insert _ _

/-- The table `types` keeps one of the declarations `written` for each of their names, well formed
or not, and local only if one of that name is. -/
structure Gathers (types : Table DeclDraft) (written : List (Loaded × Declaration)) : Prop where
  sorted : types.Sorted
  has : ∀ name, types.has name = true ↔ ∃ w ∈ written, w.2.name = name
  kept : ∀ name k, types.find? name = some k → k.decl.name = name ∧
    (∃ w ∈ written, w.2 = k.decl) ∧ k.wellFormed = k.decl.problems.isEmpty ∧
    (k.origin.isLocal = true → ∃ w ∈ written, w.1.origin.isLocal = true ∧ w.2.name = name)

/-- Every declaration is well formed and the same as the kept one of its name, which is local if the
declaration is. -/
structure Agrees (types : Table DeclDraft) (written : List (Loaded × Declaration)) : Prop where
  problems : ∀ w ∈ written, w.2.problems = []
  same : ∀ w ∈ written, ∀ k, types.find? w.2.name = some k →
    (k.decl = w.2 ∨ k.decl.same w.2 = true) ∧
      (w.1.origin.isLocal = true → k.origin.isLocal = true)

theorem gathers_nil : Gathers [] [] :=
  ⟨Table.sorted_nil, by simp [Table.has], fun _ _ hk => by cases hk⟩

theorem agrees_nil : Agrees [] [] :=
  ⟨fun _ hw => absurd hw List.not_mem_nil, fun _ hw => absurd hw List.not_mem_nil⟩

theorem Gathers.absorb (h : Gathers types written) (loaded : Loaded) (decl : Declaration) :
    Gathers (absorb loaded types decl).1 (written ++ [(loaded, decl)]) := by
  refine ⟨sorted_absorb h.sorted, fun name => ?_, fun name k hk => ?_⟩
  · have hhas := h.has name
    rw [Table.has_iff] at hhas ⊢
    rw [find?_absorb]
    by_cases hn : name = decl.name
    · simp [hn]
    · simp only [hn, if_false, hhas, List.mem_append, List.mem_singleton]
      constructor
      · rintro ⟨w, hw, heq⟩
        exact ⟨w, .inl hw, heq⟩
      · rintro ⟨w, hw | rfl, heq⟩
        · exact ⟨w, hw, heq⟩
        · exact absurd heq.symm hn
  · rw [find?_absorb] at hk
    have hold : ∀ j, types.find? name = some j → j.decl.name = name ∧
        (∃ w ∈ written ++ [(loaded, decl)], w.2 = j.decl) ∧
        j.wellFormed = j.decl.problems.isEmpty ∧ (j.origin.isLocal = true →
          ∃ w ∈ written ++ [(loaded, decl)], w.1.origin.isLocal = true ∧ w.2.name = name) := by
      intro j hj
      obtain ⟨hname, ⟨w, hw, heq⟩, hwf, horigin⟩ := h.kept name j hj
      refine ⟨hname, ⟨w, List.mem_append_left _ hw, heq⟩, hwf, fun hloc => ?_⟩
      obtain ⟨w, hw, hlocal⟩ := horigin hloc
      exact ⟨w, List.mem_append_left _ hw, hlocal⟩
    split at hk
    · next hn =>
      subst hn
      have hnew : (loaded, decl) ∈ written ++ [(loaded, decl)] := List.mem_concat_self
      cases hj : types.find? decl.name with
      | none =>
        rw [hj] at hk
        cases hk
        exact ⟨rfl, ⟨_, hnew, rfl⟩, rfl, fun hloc => ⟨_, hnew, hloc, rfl⟩⟩
      | some j =>
        rw [hj] at hk
        obtain ⟨hname, hdecl, hwf, horigin⟩ := hold j hj
        simp only [next, Option.some.injEq] at hk
        split at hk
        · subst hk
          exact ⟨hname, hdecl, hwf, horigin⟩
        · subst hk
          refine ⟨hname, hdecl, hwf, fun hloc => ?_⟩
          rw [Origin.isLocal_combine, Bool.or_eq_true] at hloc
          exact hloc.elim horigin fun hl => ⟨_, hnew, hl, rfl⟩
    · exact hold k hk

/-- A declaration that is not reported agrees with what is kept, and so do those before it. -/
theorem Agrees.absorb (h : Agrees types written) (hg : Gathers types written)
    (hclean : (DeclDraft.absorb loaded types decl).2 = []) :
    Agrees (DeclDraft.absorb loaded types decl).1 (written ++ [(loaded, decl)]) := by
  obtain ⟨hproblems, hsame⟩ := absorb_eq_nil_iff.1 hclean
  refine ⟨fun w hw => ?_, fun w hw k hk => ?_⟩
  · rcases List.mem_append.1 hw with hw | hw
    · exact h.problems w hw
    · exact List.mem_singleton.1 hw ▸ hproblems
  · rw [find?_absorb] at hk
    split at hk
    · next hn =>
      rw [hn] at hk
      cases hj : types.find? decl.name with
      | none =>
        rw [hj] at hk
        cases hk
        rcases List.mem_append.1 hw with hw | hw
        · -- an earlier declaration of the name would have been kept
          obtain ⟨j, hj'⟩ := Table.has_iff.1 ((hg.has decl.name).2 ⟨w, hw, hn⟩)
          rw [hj] at hj'
          cases hj'
        · rw [List.mem_singleton.1 hw]
          exact ⟨.inl rfl, id⟩
      | some j =>
        rw [hj] at hk
        simp only [next, Declaration.conflicts, hsame j hj, Bool.not_true, Bool.false_eq_true,
          if_false, Option.some.injEq] at hk
        subst hk
        rcases List.mem_append.1 hw with hw | hw
        · obtain ⟨heq, hloc⟩ := h.same w hw j (hn ▸ hj)
          exact ⟨heq, fun hl => by simp [hloc hl]⟩
        · rw [List.mem_singleton.1 hw]
          exact ⟨.inr (hsame j hj), fun hl => by simp [hl]⟩
    · next hn =>
      rcases List.mem_append.1 hw with hw | hw
      · exact h.same w hw k hk
      · exact absurd (congrArg (·.2.name) (List.mem_singleton.1 hw)) hn

/-- A declaration is not reported if it is well formed and the same as all before it. -/
theorem Gathers.absorb_eq_nil (h : Gathers types written) (hproblems : decl.problems = [])
    (hsame : ∀ w ∈ written, w.2.name = decl.name → w.2.same decl = true) :
    (DeclDraft.absorb loaded types decl).2 = [] := by
  refine absorb_eq_nil_iff.2 ⟨hproblems, fun k hk => ?_⟩
  obtain ⟨hname, ⟨w, hw, heq⟩, -, -⟩ := h.kept decl.name k hk
  exact heq ▸ hsame w hw (heq ▸ hname)

/-! ### All declarations of a document -/

theorem Gathers.absorbAll (h : Gathers types written) (loaded : Loaded)
    (decls : List Declaration) :
    Gathers (absorbAll loaded types decls).1 (written ++ decls.map (loaded, ·)) := by
  induction decls generalizing types written with
  | nil => simpa [DeclDraft.absorbAll] using h
  | cons d decls ih =>
    simpa [DeclDraft.absorbAll, List.append_assoc] using ih (h.absorb loaded d)

theorem Agrees.absorbAll (h : Agrees types written) (hg : Gathers types written)
    (hclean : (DeclDraft.absorbAll loaded types decls).2 = []) :
    Agrees (DeclDraft.absorbAll loaded types decls).1 (written ++ decls.map (loaded, ·)) := by
  induction decls generalizing types written with
  | nil => simpa [DeclDraft.absorbAll] using h
  | cons d decls ih =>
    obtain ⟨hfirst, hrest⟩ := List.append_eq_nil_iff.1 hclean
    simpa [DeclDraft.absorbAll, List.append_assoc] using
      ih (h.absorb hg hfirst) (hg.absorb loaded d) hrest

theorem Gathers.absorbAll_eq_nil (h : Gathers types written)
    (hproblems : ∀ d ∈ decls, d.problems = [])
    (hsame : ∀ w ∈ written ++ decls.map (loaded, ·), ∀ d ∈ decls, w.2.name = d.name →
      w.2.same d = true) : (DeclDraft.absorbAll loaded types decls).2 = [] := by
  induction decls generalizing types written with
  | nil => rfl
  | cons d decls ih =>
    refine List.append_eq_nil_iff.2 ⟨?_, ih (h.absorb loaded d) ?_ ?_⟩
    · exact h.absorb_eq_nil (hproblems d List.mem_cons_self) fun w hw =>
        hsame w (List.mem_append_left _ hw) d List.mem_cons_self
    · exact fun e he => hproblems e (List.mem_cons_of_mem _ he)
    · intro w hw e he
      refine hsame w ?_ e (List.mem_cons_of_mem _ he)
      simpa [List.append_assoc] using hw

end DeclDraft

/-! ## Modules -/

namespace ModuleDraft

variable {draft : ModuleDraft} {docs : List Loaded} {l : Loaded}

/-- The table `imports` has one of the imports `written` for each of their names. -/
structure GathersImports (imports : Table Import) (written : List Import) : Prop where
  sorted : imports.Sorted
  has : ∀ name, imports.has name = true ↔ ∃ i ∈ written, i.name = name
  kept : ∀ name i, imports.find? name = some i → i.name = name ∧ i ∈ written

theorem gathersImports_nil : GathersImports [] [] :=
  ⟨Table.sorted_nil, by simp [Table.has], fun _ _ hi => by cases hi⟩

theorem GathersImports.addImports {imports : Table Import} {written : List Import}
    (h : GathersImports imports written) (added : List Import) :
    GathersImports (addImports imports added) (written ++ added) := by
  induction added generalizing imports written with
  | nil => simpa [ModuleDraft.addImports] using h
  | cons i added ih =>
    have hstep : GathersImports (if imports.has i.name then imports else imports.insert i.name i)
        (written ++ [i]) := by
      have hmem : ∀ name, (∃ j ∈ written ++ [i], j.name = name) ↔
          (∃ j ∈ written, j.name = name) ∨ i.name = name := fun name => by
        simp [or_and_right, exists_or]
      split
      · next hin =>
        refine ⟨h.sorted, fun name => ?_, fun name j hj => ?_⟩
        · rw [hmem, ← h.has]
          exact ⟨.inl, fun hor => hor.elim id fun hn => hn ▸ hin⟩
        · exact (h.kept name j hj).imp_right (List.mem_append_left _)
      · refine ⟨h.sorted.insert _ _, fun name => ?_, fun name j hj => ?_⟩
        · rw [hmem, ← h.has, Table.has, Table.has, Table.find?_insert]
          by_cases hn : name = i.name
          · simp [hn]
          · simp [hn, Ne.symm hn]
        · rw [Table.find?_insert] at hj
          split at hj
          · next hn => cases hj; exact ⟨hn.symm, List.mem_concat_self⟩
          · exact (h.kept name j hj).imp_right (List.mem_append_left _)
    simpa [ModuleDraft.addImports, List.append_assoc] using ih hstep

/-- The draft holds what the documents `docs` of its module declare. -/
structure Gathers (draft : ModuleDraft) (docs : List Loaded) : Prop where
  version : ∃ l ∈ docs, l.document.version = draft.version
  origin : draft.origin.isLocal = true ↔ ∃ l ∈ docs, l.origin.isLocal = true
  documents : draft.documents = docs.map (·.path)
  imports : GathersImports draft.imports (docs.flatMap (·.document.imports))
  types : DeclDraft.Gathers draft.types (Loaded.written docs)
  isObject : draft.code.isObject = true
  distinct : (∀ l ∈ docs, l.document.code.Distinct) → draft.code.Distinct

/-- Every document has a clean header and the version of the draft, and its declarations agree with
those kept. -/
structure Agrees (draft : ModuleDraft) (docs : List Loaded) : Prop where
  headers : ∀ l ∈ docs, l.document.headerProblems = []
  versions : ∀ l ∈ docs, versionsConflict draft.version l.document.version = false
  types : DeclDraft.Agrees draft.types (Loaded.written docs)

/-- An object with another value laid over it, if that is an object, is one. -/
theorem isObject_mergeCode {base layer : Json} (h : base.isObject = true) :
    (if layer.isObject then base.merge layer else base).isObject = true := by
  split
  · next hl =>
    cases base with
    | obj ms =>
      cases layer with
      | obj ns => rfl
      | _ => cases hl
    | _ => cases h
  · exact h

/-- Adding a document to a draft that has not yet settled its version and origin by others. -/
theorem gathers_absorb (hversion : ∃ k ∈ docs ++ [l], k.document.version = draft.version)
    (horigin : (draft.origin.combine l.origin).isLocal = true ↔
      ∃ k ∈ docs ++ [l], k.origin.isLocal = true)
    (hdocuments : draft.documents = docs.map (·.path))
    (himports : GathersImports draft.imports (docs.flatMap (·.document.imports)))
    (htypes : DeclDraft.Gathers draft.types (Loaded.written docs))
    (hobject : draft.code.isObject = true)
    (hdistinct : (∀ l ∈ docs, l.document.code.Distinct) → draft.code.Distinct) :
    Gathers (draft.absorb l).1 (docs ++ [l]) where
  version := hversion
  origin := horigin
  documents := by simp [absorb, hdocuments]
  imports := by
    have := himports.addImports l.document.imports
    simpa [absorb] using this
  types := by
    rw [Loaded.written_concat]
    exact htypes.absorbAll l l.document.declarations
  isObject := isObject_mergeCode hobject
  distinct h := by
    have hbase := hdistinct fun k hk => h k (List.mem_append_left _ hk)
    simp only [absorb]
    split
    · exact hbase.merge (h l List.mem_concat_self)
    · exact hbase

/-- **A document more is gathered with the others.** -/
theorem Gathers.absorb (h : Gathers draft docs) (l : Loaded) :
    Gathers (draft.absorb l).1 (docs ++ [l]) := by
  refine gathers_absorb ?_ ?_ h.documents h.imports h.types h.isObject h.distinct
  · obtain ⟨k, hk, hv⟩ := h.version
    exact ⟨k, List.mem_append_left _ hk, hv⟩
  · rw [Origin.isLocal_combine, Bool.or_eq_true, h.origin]
    simp [or_and_right, exists_or]

/-- The first document of a module is gathered alone. -/
theorem gathers_start (l : Loaded) : Gathers ((start l).absorb l).1 [l] := by
  have hcode : (start l).code.Distinct := Json.distinct_obj_nil
  show Gathers _ ([] ++ [l])
  refine gathers_absorb ⟨l, List.mem_singleton.2 rfl, rfl⟩ ?_ rfl gathersImports_nil
    DeclDraft.gathers_nil rfl fun _ => hcode
  simp [start]

/-- What a document adds to the reports besides those on its header. -/
theorem absorb_eq_nil_iff : (draft.absorb l).2 = [] ↔
    versionsConflict draft.version l.document.version = false ∧
      (DeclDraft.absorbAll l draft.types l.document.declarations).2 = [] := by
  simp only [absorb, List.append_eq_nil_iff]
  refine and_congr_left' ?_
  split
  · next h => simp [h]
  · next h => simpa using h

theorem versionsConflict_eq_false_iff {v w : String} :
    versionsConflict v w = false ↔ Text.trimmed v = Text.trimmed w := by
  simp [versionsConflict]

/-- **A document that is not reported agrees with the draft, and so do those before it.** -/
theorem agrees_absorb (hagrees : ∀ k ∈ docs, k.document.headerProblems = [] ∧
      versionsConflict draft.version k.document.version = false)
    (htypes : DeclDraft.Agrees draft.types (Loaded.written docs))
    (hgathers : DeclDraft.Gathers draft.types (Loaded.written docs))
    (hheader : l.document.headerProblems = []) (hclean : (draft.absorb l).2 = []) :
    Agrees (draft.absorb l).1 (docs ++ [l]) := by
  obtain ⟨hversion, hdecls⟩ := absorb_eq_nil_iff.1 hclean
  have hall : ∀ k ∈ docs ++ [l], k.document.headerProblems = [] ∧
      versionsConflict draft.version k.document.version = false := fun k hk => by
    rcases List.mem_append.1 hk with hk | hk
    · exact hagrees k hk
    · exact List.mem_singleton.1 hk ▸ ⟨hheader, hversion⟩
  refine ⟨fun k hk => (hall k hk).1, fun k hk => (hall k hk).2, ?_⟩
  rw [Loaded.written_concat]
  exact htypes.absorbAll hgathers hdecls

end ModuleDraft

/-! ## All modules -/

/-- The documents of a module. -/
def Loaded.ofModule (name : String) (docs : List Loaded) : List Loaded :=
  docs.filter (·.document.name = name)

namespace Loaded

variable {docs : List Loaded} {l : Loaded} {name : String}

theorem mem_ofModule : l ∈ ofModule name docs ↔ l ∈ docs ∧ l.document.name = name := by
  simp [ofModule]

theorem ofModule_concat_self (docs : List Loaded) (l : Loaded) :
    ofModule l.document.name (docs ++ [l]) = ofModule l.document.name docs ++ [l] := by
  simp [ofModule]

theorem ofModule_concat_ne (h : name ≠ l.document.name) (docs : List Loaded) :
    ofModule name (docs ++ [l]) = ofModule name docs := by
  simp [ofModule, Ne.symm h]

end Loaded

namespace Drafts

variable {drafts : Drafts} {docs rest : List Loaded} {l : Loaded}

/-- What is collected for the module of a document, the document included. -/
def next (drafts : Drafts) (l : Loaded) : ModuleDraft × List Diagnostic :=
  ((drafts.find? l.document.name).getD (ModuleDraft.start l)).absorb l

/-- **A document changes what is collected for its module, and nothing else.** -/
theorem find?_absorb (drafts : Drafts) (l : Loaded) (name : String) :
    (drafts.absorb l).1.find? name =
      if name = l.document.name then some (drafts.next l).1 else drafts.find? name :=
  Table.find?_insert _ _ _ _

theorem absorb_eq_nil_iff : (drafts.absorb l).2 = [] ↔
    l.document.headerProblems = [] ∧ (drafts.next l).2 = [] := by
  simp [absorb, next, Document.checkHeader]

/-- The drafts are those of the modules that the documents `docs` declare, and each one holds what
its documents do. -/
structure Gathers (drafts : Drafts) (docs : List Loaded) : Prop where
  sorted : Table.Sorted drafts
  has : ∀ name, drafts.has name = true ↔ ∃ l ∈ docs, l.document.name = name
  modules : ∀ name draft, drafts.find? name = some draft →
    draft.Gathers (Loaded.ofModule name docs)

/-- Every document agrees with the draft of its module. -/
def Agrees (drafts : Drafts) (docs : List Loaded) : Prop :=
  ∀ name draft, drafts.find? name = some draft → draft.Agrees (Loaded.ofModule name docs)

theorem gathers_nil : Gathers [] [] :=
  ⟨Table.sorted_nil, by simp [Table.has], fun _ _ hd => by cases hd⟩

/-- A module without a draft has no document yet. -/
theorem Gathers.ofModule_eq_nil (h : Gathers drafts docs) {name : String}
    (hnone : drafts.find? name = none) : Loaded.ofModule name docs = [] := by
  refine List.eq_nil_iff_forall_not_mem.2 fun l hl => ?_
  have hhas := (h.has name).2 ⟨l, Loaded.mem_ofModule.1 hl⟩
  simp [Table.has, hnone] at hhas

theorem Gathers.next (h : Gathers drafts docs) (l : Loaded) :
    (drafts.next l).1.Gathers (Loaded.ofModule l.document.name docs ++ [l]) := by
  unfold Drafts.next
  cases hd : drafts.find? l.document.name with
  | none =>
    rw [h.ofModule_eq_nil hd]
    exact ModuleDraft.gathers_start l
  | some draft => exact (h.modules _ _ hd).absorb l

theorem Gathers.absorb (h : Gathers drafts docs) (l : Loaded) :
    Gathers (drafts.absorb l).1 (docs ++ [l]) := by
  refine ⟨h.sorted.insert _ _, fun name => ?_, fun name draft hd => ?_⟩
  · have hhas := h.has name
    rw [Table.has_iff] at hhas ⊢
    rw [find?_absorb]
    by_cases hn : name = l.document.name
    · simp [hn]
    · simp only [hn, if_false, hhas, List.mem_append, List.mem_singleton, or_and_right, exists_or,
        exists_eq_left, Ne.symm hn, or_false]
  · rw [find?_absorb] at hd
    split at hd
    · next hn =>
      cases hd
      rw [hn, Loaded.ofModule_concat_self]
      exact h.next l
    · next hn =>
      rw [Loaded.ofModule_concat_ne hn]
      exact h.modules name draft hd

/-- A document that is not reported agrees with its draft, and so do those before it. -/
theorem Agrees.absorb (h : Agrees drafts docs) (hg : Gathers drafts docs)
    (hclean : (drafts.absorb l).2 = []) : Agrees (drafts.absorb l).1 (docs ++ [l]) := by
  obtain ⟨hheader, hnext⟩ := absorb_eq_nil_iff.1 hclean
  intro name draft hd
  rw [find?_absorb] at hd
  split at hd
  · next hn =>
    cases hd
    rw [hn, Loaded.ofModule_concat_self]
    unfold Drafts.next at hnext ⊢
    cases hk : drafts.find? l.document.name with
    | none =>
      rw [hk] at hnext
      rw [hg.ofModule_eq_nil hk]
      exact ModuleDraft.agrees_absorb (fun _ hm => absurd hm List.not_mem_nil) DeclDraft.agrees_nil
        DeclDraft.gathers_nil hheader hnext
    | some kept =>
      rw [hk] at hnext
      have ha := h _ _ hk
      exact ModuleDraft.agrees_absorb (fun m hm => ⟨ha.headers m hm, ha.versions m hm⟩) ha.types
        (hg.modules _ _ hk).types hheader hnext
  · next hn =>
    rw [Loaded.ofModule_concat_ne hn]
    exact h name draft hd

/-! ### Runs -/

/-- **A collection gathers its documents.** -/
theorem Gathers.absorbAll (h : Gathers drafts docs) (rest : List Loaded) :
    Gathers (drafts.absorbAll rest).1 (docs ++ rest) := by
  induction rest generalizing drafts docs with
  | nil => simpa [Drafts.absorbAll] using h
  | cons l rest ih => simpa [Drafts.absorbAll, List.append_assoc] using ih (h.absorb l)

/-- **A collection that reports nothing agrees with its documents.** -/
theorem Agrees.absorbAll (h : Agrees drafts docs) (hg : Gathers drafts docs)
    (hclean : (drafts.absorbAll rest).2 = []) :
    Agrees (drafts.absorbAll rest).1 (docs ++ rest) := by
  induction rest generalizing drafts docs with
  | nil => simpa [Drafts.absorbAll] using h
  | cons l rest ih =>
    obtain ⟨hfirst, hothers⟩ := List.append_eq_nil_iff.1 hclean
    simpa [Drafts.absorbAll, List.append_assoc] using
      ih (h.absorb hg hfirst) (hg.absorb l) hothers

theorem gathers_collect (docs : List Loaded) : Gathers (absorbAll [] docs).1 docs :=
  gathers_nil.absorbAll docs

theorem agrees_collect (h : (absorbAll [] docs).2 = []) : Agrees (absorbAll [] docs).1 docs :=
  Agrees.absorbAll (fun _ _ hd => by cases hd) gathers_nil h

end Drafts

/-! ## Documents that fit together -/

/-- The documents are well formed one by one, and those of one module agree on its version and on
every type that more than one of them declares. -/
structure Loaded.Consistent (docs : List Loaded) : Prop where
  headers : ∀ l ∈ docs, l.document.headerProblems = []
  problems : ∀ l ∈ docs, ∀ d ∈ l.document.declarations, d.problems = []
  versions : ∀ k ∈ docs, ∀ l ∈ docs, k.document.name = l.document.name →
    Text.trimmed k.document.version = Text.trimmed l.document.version
  declarations : ∀ k ∈ docs, ∀ l ∈ docs, k.document.name = l.document.name →
    ∀ d ∈ k.document.declarations, ∀ e ∈ l.document.declarations, d.name = e.name →
      d.same e = true

theorem Loaded.Consistent.mono {docs part : List Loaded} (h : Consistent docs)
    (hp : part ⊆ docs) : Consistent part where
  headers l hl := h.headers l (hp hl)
  problems l hl := h.problems l (hp hl)
  versions k hk l hl := h.versions k (hp hk) l (hp hl)
  declarations k hk l hl := h.declarations k (hp hk) l (hp hl)

namespace Drafts

variable {drafts : Drafts} {docs rest : List Loaded} {l : Loaded}

/-- A document is not reported if it fits together with those before it. -/
theorem Gathers.absorb_eq_nil (h : Gathers drafts docs) (hc : Loaded.Consistent (docs ++ [l])) :
    (drafts.absorb l).2 = [] := by
  have hl : l ∈ docs ++ [l] := List.mem_concat_self
  refine absorb_eq_nil_iff.2 ⟨hc.headers l hl, ?_⟩
  have hsame : ∀ k ∈ docs ++ [l], k.document.name = l.document.name →
      ∀ w ∈ Loaded.written [k], ∀ d ∈ l.document.declarations, w.2.name = d.name →
        w.2.same d = true := by
    rintro k hk hkl ⟨k', d'⟩ hw d hd heq
    obtain ⟨hk', hd'⟩ := Loaded.mem_written.1 hw
    obtain rfl := List.mem_singleton.1 hk'
    exact hc.declarations _ hk l hl hkl d' hd' d hd heq
  unfold Drafts.next
  cases hd : drafts.find? l.document.name with
  | none =>
    refine ModuleDraft.absorb_eq_nil_iff.2
      ⟨ModuleDraft.versionsConflict_eq_false_iff.2 rfl, ?_⟩
    refine DeclDraft.gathers_nil.absorbAll_eq_nil (hc.problems l hl) fun w hw => ?_
    exact hsame l hl rfl w (by simpa [Loaded.written] using hw)
  | some draft =>
    have hg := h.modules _ _ hd
    obtain ⟨k, hk, hv⟩ := hg.version
    obtain ⟨hk, hkl⟩ := Loaded.mem_ofModule.1 hk
    refine ModuleDraft.absorb_eq_nil_iff.2 ⟨?_, ?_⟩
    · rw [Option.getD_some, ← hv, ModuleDraft.versionsConflict_eq_false_iff]
      exact hc.versions k (List.mem_append_left _ hk) l hl hkl
    · refine hg.types.absorbAll_eq_nil (hc.problems l hl) ?_
      rintro ⟨k, d⟩ hw
      rw [← Loaded.written_concat] at hw
      obtain ⟨hk, hd⟩ := Loaded.mem_written.1 hw
      have hk' : k ∈ docs ++ [l] ∧ k.document.name = l.document.name := by
        rwa [← Loaded.ofModule_concat_self, Loaded.mem_ofModule] at hk
      exact hsame k hk'.1 hk'.2 _ (Loaded.mem_written.2 ⟨List.mem_singleton.2 rfl, hd⟩)

theorem Gathers.absorbAll_eq_nil (h : Gathers drafts docs)
    (hc : Loaded.Consistent (docs ++ rest)) : (drafts.absorbAll rest).2 = [] := by
  induction rest generalizing drafts docs with
  | nil => rfl
  | cons l rest ih =>
    have hc' : Loaded.Consistent ((docs ++ [l]) ++ rest) := by simpa using hc
    refine List.append_eq_nil_iff.2 ⟨h.absorb_eq_nil ?_, ih (h.absorb l) hc'⟩
    exact hc'.mono (List.subset_append_left _ _)

/-- **Documents that fit together are collected without a report.** -/
theorem collect_eq_nil (h : Loaded.Consistent docs) : (absorbAll [] docs).2 = [] :=
  gathers_nil.absorbAll_eq_nil h

end Drafts

end InterfaceGen
