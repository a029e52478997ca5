import InterfaceGen.Proofs.Inheritance
import InterfaceGen.Proofs.Merge

/-!
# Proofs/Model — what a model says about the documents it was merged from

`Drafts.Complete` is what the five stages of a merge establish between drafts and documents: the
drafts gather the documents and agree with them, names are resolved as the namespace of the
documents prescribes, and every kept declaration is built. From then on a key has a type in the
model exactly when a document declares one, and that type binds every declaration of the key. Main
statements: `Complete.bindsBody`, `Complete.exists_lookup` and `Complete.extends_iff`.
-/

namespace InterfaceGen

namespace Loaded

/-- Some document writes that the type with the key `a` extends the type with the key `b`. -/
def Extends (documents : List Loaded) (a b : TypeKey) : Prop :=
  ∃ l ∈ documents, l.document.name = a.module ∧
    ∃ d ∈ l.document.declarations, d.name = a.name ∧
      ∃ p, d.parent = some p ∧ (namespaceOf documents).Writes a.module p (.reference b)

theorem extends_congr {documents others : List Loaded} (h : ∀ l, l ∈ documents ↔ l ∈ others) :
    Extends documents = Extends others := by
  funext a b
  simp only [Extends, namespaceOf_congr h, h]

end Loaded

namespace Drafts

variable {drafts : Drafts} {docs : List Loaded} {o : Overlay}
  {k k' : TypeKey} {t u : TypeDef} {l : Loaded} {d : Declaration}

/-- The drafts hold their documents and nothing else, and everything in them is resolved. -/
structure Complete (drafts : Drafts) (docs : List Loaded) : Prop where
  gathers : Gathers drafts docs
  agrees : Agrees drafts docs
  scope : drafts.ownScope.Implements (Loaded.namespaceOf docs)
  built : ∀ k d, drafts.declOf k = some d → ∃ t, drafts.ownScope.buildType k.module d = .ok t

namespace Complete

/-! ## Types and declarations -/

/-- A type of the model is built from the declaration that is kept under its key. -/
theorem declOf_of_lookup (h : Complete drafts docs)
    (ht : (drafts.model o).lookup k = some t) :
    ∃ d, drafts.declOf k = some d ∧ drafts.ownScope.buildType k.module d = .ok t ∧
      t.key = k ∧ t.origin = d.origin := by
  obtain ⟨d, hd, -, hbuilt⟩ := (lookup_model h.gathers).1 ht
  obtain ⟨-, heq⟩ := Scope.buildType_eq_ok hbuilt
  exact ⟨d, hd, hbuilt, h.gathers.key_of_lookup ht, by rw [heq]⟩

/-- A type of the model binds the declaration that is kept under its key, which has no problems. -/
theorem bindsBody_declOf (h : Complete drafts docs) (ht : (drafts.model o).lookup k = some t) :
    ∃ d, drafts.declOf k = some d ∧ d.decl.problems = [] ∧ t.name = d.decl.name ∧
      (Loaded.namespaceOf docs).BindsBody t.key d.decl t.body := by
  obtain ⟨d, hd, hbuilt, hkey, -⟩ := h.declOf_of_lookup ht
  obtain ⟨hname, -⟩ := h.gathers.of_declOf hd
  obtain ⟨hproblems, -⟩ := h.agrees.wellFormed h.gathers hd
  have hbinds := h.scope.bindsBody_buildType hproblems hbuilt
  rw [hname, ← hkey] at hbinds
  exact ⟨d, hd, hproblems, (congrArg TypeKey.name hkey).trans hname.symm, hbinds⟩

/-- **A written declaration has a type in the model, and the type binds it.** -/
theorem exists_lookup (h : Complete drafts docs) (o : Overlay)
    (hl : l ∈ docs) (hm : l.document.name = k.module) (hd : d ∈ l.document.declarations)
    (hn : d.name = k.name) : ∃ t, (drafts.model o).lookup k = some t ∧
      (Loaded.namespaceOf docs).BindsBody k d t.body := by
  obtain ⟨kept, hkept, hsame⟩ := h.agrees.exists_declOf h.gathers hl hd
  rw [hm, hn] at hkept
  obtain ⟨hproblems, hwf⟩ := h.agrees.wellFormed h.gathers hkept
  obtain ⟨t, ht⟩ := h.built k kept hkept
  refine ⟨t, (lookup_model h.gathers).2 ⟨kept, hkept, hwf, ht⟩, ?_⟩
  have hbinds := h.scope.bindsBody_buildType hproblems ht
  rw [(h.gathers.of_declOf hkept).1] at hbinds
  exact hsame.elim (fun heq => heq ▸ hbinds) hbinds.of_same

/-- **A type of the model binds every declaration of its key.** -/
theorem bindsBody (h : Complete drafts docs)
    (ht : (drafts.model o).lookup k = some t) (hl : l ∈ docs)
    (hm : l.document.name = k.module) (hd : d ∈ l.document.declarations) (hn : d.name = k.name) :
    (Loaded.namespaceOf docs).BindsBody k d t.body := by
  obtain ⟨u, hu, hbinds⟩ := h.exists_lookup o hl hm hd hn
  cases ht.symm.trans hu
  exact hbinds

/-- A type of the model is declared by a document of its module. -/
theorem exists_declaration (h : Complete drafts docs)
    (ht : (drafts.model o).lookup k = some t) :
    ∃ l ∈ docs, l.document.name = k.module ∧ ∃ d ∈ l.document.declarations, d.name = k.name := by
  obtain ⟨kept, hkept, -⟩ := h.declOf_of_lookup ht
  obtain ⟨hname, l, hl, hm, hd⟩ := h.gathers.of_declOf hkept
  exact ⟨l, hl, hm, kept.decl, hd, hname⟩

/-- **A key has a type exactly when the namespace declares it.** -/
theorem lookup_iff_declares (h : Complete drafts docs) :
    (∃ t, (drafts.model o).lookup k = some t) ↔
      (Loaded.namespaceOf docs).declares k := by
  rw [Loaded.declares_namespaceOf]
  constructor
  · rintro ⟨t, ht⟩
    exact h.exists_declaration ht
  · rintro ⟨l, hl, hm, d, hd, hn⟩
    obtain ⟨t, ht, -⟩ := h.exists_lookup o hl hm hd hn
    exact ⟨t, ht⟩

/-- The names of types are identifiers. -/
theorem isIdentifier_of_declares (h : Complete drafts docs)
    (hk : (Loaded.namespaceOf docs).declares k) : isIdentifier k.name = true := by
  obtain ⟨l, hl, hm, d, hd, hn⟩ := Loaded.declares_namespaceOf.1 hk
  obtain ⟨draft, hdraft⟩ := Table.has_iff.1 ((h.gathers.has l.document.name).2 ⟨l, hl, rfl⟩)
  have hproblems := (h.agrees _ _ hdraft).types.problems (l, d)
    (Loaded.mem_written.2 ⟨Loaded.mem_ofModule.2 ⟨hl, rfl⟩, hd⟩)
  exact hn ▸ Declaration.isIdentifier_of_problems hproblems

/-! ## Types and what they extend -/

/-- The type that a type extends is declared, of the same kind, and written in its declaration. -/
theorem parent_of_lookup (h : Complete drafts docs)
    (ht : (drafts.model o).lookup k = some t) (hp : t.parent = some k')
    (hl : l ∈ docs) (hm : l.document.name = k.module) (hd : d ∈ l.document.declarations)
    (hn : d.name = k.name) : ∃ p, d.parent = some p ∧
      (Loaded.namespaceOf docs).BindsParent k.module d.kind p k' := by
  have hrel := (h.bindsBody ht hl hm hd hn).parent
  rw [hp] at hrel
  cases hdp : d.parent with
  | none => rw [hdp] at hrel; cases hrel
  | some p =>
    rw [hdp] at hrel
    cases hrel with
    | some hbinds => exact ⟨p, rfl, hbinds⟩

/-- **A type of the model extends another exactly when a document says so.** -/
theorem extends_iff (h : Complete drafts docs) :
    Extends (drafts.model o).types k k' ↔
      Loaded.Extends docs k k' := by
  constructor
  · rintro ⟨t, ht, rfl, hp⟩
    have hlookup := h.gathers.mem_types_iff.1 ht
    obtain ⟨l, hl, hm, d, hd, hn⟩ := h.exists_declaration hlookup
    obtain ⟨p, hdp, hbinds⟩ := h.parent_of_lookup hlookup hp hl hm hd hn
    exact ⟨l, hl, hm, d, hd, hn, p, hdp, hbinds.type⟩
  · rintro ⟨l, hl, hm, d, hd, hn, p, hdp, hwrites⟩
    obtain ⟨t, ht, hbinds⟩ := h.exists_lookup o hl hm hd hn
    obtain ⟨-, -, -, hkey, -⟩ := h.declOf_of_lookup ht
    refine ⟨t, h.gathers.mem_types_iff.2 (hkey ▸ ht), hkey, ?_⟩
    have hrel := hbinds.parent
    rw [hdp] at hrel
    cases htp : t.parent with
    | none => rw [htp] at hrel; cases hrel
    | some k'' =>
      rw [htp] at hrel
      cases hrel with
      | some hparent =>
        have heq := hparent.type.unique hwrites
        simpa using heq

/-- Names in the extends relation hold no dot. -/
theorem undotted (h : Complete drafts docs) :
    Undotted (drafts.model o).types := by
  intro a b hab
  obtain ⟨l, hl, hm, d, hd, hn, p, -, hwrites⟩ := h.extends_iff.1 hab
  have hvisible : (Loaded.namespaceOf docs).declares b := by
    obtain ⟨e, -, hdenotes⟩ := hwrites
    exact (hdenotes.visible b (List.mem_singleton.2 rfl)).1
  exact ⟨dot_not_mem (h.isIdentifier_of_declares
      (Loaded.declares_namespaceOf.2 ⟨l, hl, hm, d, hd, hn⟩)),
    dot_not_mem (h.isIdentifier_of_declares hvisible)⟩

end Complete

end Drafts

end InterfaceGen
