import InterfaceGen.Proofs.Diagnosis
import InterfaceGen.Proofs.Extension

/-!
# Proofs/Revision — the body of a declaration is its own affair

Two lists of documents that differ in the bodies of one type's declarations only, each of which
keeps its name and its kind, are collected to drafts that differ under that one key. A scope holds
names, kinds and imports, so it is the same for both, and every other declaration is the same and is
built to the same. Whether a body is well formed plays no part: a broken declaration stays in the
scope, and references to it hold. Main statement: `outcomes_of_revised`.
-/

namespace InterfaceGen

/-! ## Sorting what agrees -/

/-- **Lists that agree are sorted to lists that agree**, if the items are compared alike. -/
theorem forall₂_mergeSort {α β : Type} {r : α → β → Prop} {le : α → α → Bool} {le' : β → β → Bool}
    (hle : ∀ a b a' b', r a b → r a' b' → le a a' = le' b b') {l : List α} {m : List β}
    (h : List.Forall₂ r l m) : List.Forall₂ r (l.mergeSort le) (m.mergeSort le') := by
  -- both lists are read off the list of the pairs, which is sorted by the first items
  obtain ⟨hlength, hpairs⟩ := List.forall₂_iff_zip.1 h
  have hl : (l.zip m).map Prod.fst = l := List.map_fst_zip hlength.le
  have hm : (l.zip m).map Prod.snd = m := List.map_snd_zip hlength.ge
  have hfst := List.map_mergeSort (f := Prod.fst) (r := fun p q : α × β => le p.1 q.1) (s := le)
    (l := l.zip m) fun _ _ _ _ => rfl
  have hsnd := List.map_mergeSort (f := Prod.snd) (r := fun p q : α × β => le p.1 q.1) (s := le')
    (l := l.zip m) fun p hp q hq => hle _ _ _ _ (hpairs hp) (hpairs hq)
  rw [hl] at hfst
  rw [hm] at hsnd
  rw [← hfst, ← hsnd, List.forall₂_map_left_iff, List.forall₂_map_right_iff, List.forall₂_same]
  exact fun p hp => hpairs (List.mem_mergeSort.1 hp)

/-! ## Documents that differ in one type -/

/-- Two declarations of the module have the same name and the same kind, and are the same unless the
type is `k`. -/
structure Declaration.Revised (k : TypeKey) (module : String) (a b : Declaration) : Prop where
  name : a.name = b.name
  kind : a.kind = b.kind
  same : TypeKey.mk module a.name ≠ k → a = b

/-- Two documents from the same place are the same but for the bodies of the type `k`. -/
structure Loaded.Revised (k : TypeKey) (a b : Loaded) : Prop where
  path : a.path = b.path
  origin : a.origin = b.origin
  name : a.document.name = b.document.name
  version : a.document.version = b.document.version
  doc : a.document.doc = b.document.doc
  imports : a.document.imports = b.document.imports
  code : a.document.code = b.document.code
  declarations : List.Forall₂ (Declaration.Revised k a.document.name) a.document.declarations
    b.document.declarations

/-- What is built under a key: a type, or what fails in its declaration; nothing if no well-formed
declaration is kept there. -/
def Loaded.outcome (documents : List Loaded) (k : TypeKey) :
    Option (Except (List Diagnostic) TypeDef) :=
  ((drafts documents).find? k.module).bind fun draft =>
    Table.find? k.name (Drafts.buildTypes (drafts documents).ownScope k.module draft)

/-! ## Drafts that differ in one type -/

/-- The declarations kept under the key `place` have the same kind, and are the same unless it is
`k`. -/
structure DeclDraft.Revised (k place : TypeKey) (a b : DeclDraft) : Prop where
  kind : a.decl.kind = b.decl.kind
  same : place ≠ k → a = b

/-- A module was collected with the same imports, and with types that differ under `k` only. -/
structure ModuleDraft.Revised (k : TypeKey) (module : String) (a b : ModuleDraft) : Prop where
  imports : a.imports = b.imports
  types : ∀ name, Option.Rel (DeclDraft.Revised k ⟨module, name⟩) (a.types.find? name)
    (b.types.find? name)

/-- The same modules were collected, and they differ under `k` only. -/
def Drafts.Revised (k : TypeKey) (a b : Drafts) : Prop :=
  ∀ name, Option.Rel (ModuleDraft.Revised k name) (a.find? name) (b.find? name)

variable {k : TypeKey} {l l' : Loaded}

/-! ### One declaration -/

/-- What is kept of a type differs only if the declarations of the type may. -/
theorem DeclDraft.Revised.next {module : String} {kept kept' : Option DeclDraft}
    {d d' : Declaration} (hl : l.Revised k l') (hd : d.Revised k module d')
    (h : Option.Rel (DeclDraft.Revised k ⟨module, d.name⟩) kept kept') :
    DeclDraft.Revised k ⟨module, d.name⟩ (DeclDraft.next kept l d)
      (DeclDraft.next kept' l' d') := by
  have hkind : ∀ (j : DeclDraft) (l : Loaded) (d : Declaration),
      (DeclDraft.next (some j) l d).decl.kind = j.decl.kind := fun j l d => by
    simp only [DeclDraft.next]
    split <;> rfl
  cases h with
  | none =>
    refine ⟨hd.kind, fun hk => ?_⟩
    rw [hd.same hk, DeclDraft.next, DeclDraft.next, hl.path, hl.origin]
  | some h =>
    refine ⟨by rw [hkind, hkind, h.kind], fun hk => ?_⟩
    rw [h.same hk, hd.same hk, DeclDraft.next, DeclDraft.next, hl.origin]

/-- **One declaration**: the types still differ under `k` only. -/
theorem DeclDraft.revised_absorb {module : String} {types types' : Table DeclDraft}
    {d d' : Declaration} (hl : l.Revised k l') (hd : d.Revised k module d')
    (h : ∀ name, Option.Rel (Revised k ⟨module, name⟩) (types.find? name) (types'.find? name))
    (name : String) : Option.Rel (Revised k ⟨module, name⟩)
      ((absorb l types d).1.find? name) ((absorb l' types' d').1.find? name) := by
  rw [find?_absorb, find?_absorb, ← hd.name]
  split
  · next hn => exact hn ▸ .some (.next hl hd (h d.name))
  · exact h name

theorem DeclDraft.revised_absorbAll {module : String} {decls decls' : List Declaration}
    (hl : l.Revised k l') (hdecls : List.Forall₂ (Declaration.Revised k module) decls decls')
    {types types' : Table DeclDraft}
    (h : ∀ name, Option.Rel (Revised k ⟨module, name⟩) (types.find? name) (types'.find? name))
    (name : String) : Option.Rel (Revised k ⟨module, name⟩)
      ((absorbAll l types decls).1.find? name) ((absorbAll l' types' decls').1.find? name) := by
  induction hdecls generalizing types types' with
  | nil => exact h name
  | cons hd _ ih => exact ih (revised_absorb hl hd h)

/-! ### One document -/

/-- The draft a module starts with has no types, and so none that differ. -/
theorem ModuleDraft.revised_start (k : TypeKey) (module : String) (l l' : Loaded) :
    Revised k module (start l) (start l') := ⟨rfl, fun _ => .none⟩

/-- **One document**: its module still differs under `k` only. -/
theorem ModuleDraft.Revised.absorb {draft draft' : ModuleDraft} (hl : l.Revised k l')
    (h : Revised k l.document.name draft draft') :
    Revised k l.document.name (draft.absorb l).1 (draft'.absorb l').1 where
  imports := by simp only [ModuleDraft.absorb, h.imports, hl.imports]
  types := DeclDraft.revised_absorbAll hl hl.declarations h.types

namespace Drafts

variable {a b : Drafts}

theorem Revised.next (h : Revised k a b) (hl : l.Revised k l') :
    ModuleDraft.Revised k l.document.name (a.next l).1 (b.next l').1 := by
  have hmodule := h l.document.name
  rw [Drafts.next, Drafts.next, ← hl.name]
  generalize a.find? l.document.name = draft, b.find? l.document.name = draft' at hmodule
  cases hmodule with
  | none => exact (ModuleDraft.revised_start k _ l l').absorb hl
  | some hdraft => exact hdraft.absorb hl

theorem Revised.absorb (h : Revised k a b) (hl : l.Revised k l') :
    Revised k (a.absorb l).1 (b.absorb l').1 := by
  intro name
  rw [find?_absorb, find?_absorb, ← hl.name]
  split
  · next hn => exact hn ▸ .some (h.next hl)
  · exact h name

/-- **All documents**, by induction on them. -/
theorem Revised.absorbAll {docs docs' : List Loaded} (h : Revised k a b)
    (hdocs : List.Forall₂ (Loaded.Revised k) docs docs') :
    Revised k (a.absorbAll docs).1 (b.absorbAll docs').1 := by
  induction hdocs generalizing a b with
  | nil => exact h
  | cons hl _ ih => exact ih (h.absorb hl)

end Drafts

/-- **Documents that differ in one type are collected to drafts that do**, since they are sorted by
their places. -/
theorem Loaded.revised_drafts {documents others : List Loaded}
    (h : List.Forall₂ (Revised k) documents others) :
    Drafts.Revised k (drafts documents) (drafts others) := by
  have hle : ∀ a b a' b', Revised k a b → Revised k a' b' →
      decide (a.compare a' ≠ .gt) = decide (b.compare b' ≠ .gt) := fun a b a' b' hab hab' => by
    rw [Loaded.compare, Loaded.compare, hab.path, hab'.path, hab.origin, hab'.origin]
  have hnil : Drafts.Revised k [] [] := fun _ => .none
  exact hnil.absorbAll (forall₂_mergeSort hle h)

/-! ## What is built -/

namespace Drafts

variable {a b : Drafts} {docs docs' : List Loaded} {k' : TypeKey}

/-- Modules that differ in the bodies of one type declare types of the same kinds. -/
theorem kinds_of_revised {module : String} {x y : ModuleDraft}
    (h : ModuleDraft.Revised k module x y) (hx : x.types.Sorted) (hy : y.types.Sorted) :
    x.types.map (fun e => (e.1, e.2.decl.kind)) = y.types.map fun e => (e.1, e.2.decl.kind) := by
  refine (hx.map fun _ d => d.decl.kind).ext (hy.map fun _ d => d.decl.kind) fun name => ?_
  rw [Table.find?_map fun _ (d : DeclDraft) => d.decl.kind,
    Table.find?_map fun _ (d : DeclDraft) => d.decl.kind]
  have hname := h.types name
  generalize x.types.find? name = d, y.types.find? name = d' at hname
  cases hname with
  | none => rfl
  | some hd => simp [hd.kind]

/-- **A scope knows names, kinds and imports**, which are the same. -/
theorem Revised.ownScope_eq (h : Revised k a b) (ha : Gathers a docs) (hb : Gathers b docs') :
    a.ownScope = b.ownScope := by
  -- what of its modules goes into a scope is the same for each of them
  have hmap : ∀ {β : Type} (f : String → ModuleDraft → β), (∀ name x y,
      a.find? name = some x → b.find? name = some y → ModuleDraft.Revised k name x y →
        f name x = f name y) →
      a.map (fun e => (e.1, f e.1 e.2)) = b.map fun e => (e.1, f e.1 e.2) := by
    intro β f hf
    refine (ha.sorted.map f).ext (hb.sorted.map f) fun name => ?_
    rw [Table.find?_map f, Table.find?_map f]
    have hname := h name
    have hsame := hf name
    generalize a.find? name = x, b.find? name = y at hname hsame
    cases hname with
    | none => rfl
    | some hxy => exact congrArg some (hsame _ _ rfl rfl hxy)
  have himports : a.importGraph = b.importGraph := importGraph_congr <|
    hmap (fun _ draft => draft.imports.keys) fun _ x y _ _ hxy => by rw [hxy.imports]
  have htypes := hmap (fun _ draft => draft.types.map fun e => (e.1, e.2.decl.kind))
    fun name x y hx hy hxy => kinds_of_revised hxy (ha.modules name x hx).types.sorted
      (hb.modules name y hy).types.sorted
  have hclosures := hmap (fun name _ => b.importGraph.1.closure name) fun _ _ _ _ _ _ => rfl
  rw [ownScope, ownScope, himports]
  exact congrArg₂ Scope.mk htypes hclosures

/-- What is kept under another key is the same. -/
theorem Revised.declOf_eq (h : Revised k a b) (hk : k' ≠ k) : a.declOf k' = b.declOf k' := by
  have hmodule := h k'.module
  rw [declOf, declOf]
  generalize a.find? k'.module = x, b.find? k'.module = y at hmodule
  cases hmodule with
  | none => rfl
  | @some x y hxy =>
    have hname := hxy.types k'.name
    simp only [Option.bind_some]
    generalize x.types.find? k'.name = d, y.types.find? k'.name = d' at hname
    cases hname with
    | none => rfl
    | some hd => exact congrArg some (hd.same hk)

theorem find?_buildTypes {s : Scope} {module name : String} {draft : ModuleDraft}
    (h : draft.types.Sorted) : Table.find? name (buildTypes s module draft) =
      ((draft.types.find? name).filter (·.wellFormed)).map (s.buildType module) := by
  have hbuilt : Table.Sorted (buildTypes s module draft) :=
    (h.filter _).map fun _ d => s.buildType module d
  refine Option.ext fun r => ?_
  rw [← hbuilt.mem_iff]
  simp only [buildTypes, List.mem_map, List.mem_filter, Prod.mk.injEq, Option.map_eq_some_iff,
    Option.filter_eq_some_iff]
  constructor
  · rintro ⟨⟨n, d⟩, ⟨hd, hwf⟩, rfl, hr⟩
    exact ⟨d, ⟨h.mem_iff.1 hd, hwf⟩, hr⟩
  · rintro ⟨d, ⟨hd, hwf⟩, hr⟩
    exact ⟨(name, d), ⟨h.mem_iff.2 hd, hwf⟩, rfl, hr⟩

end Drafts

namespace Loaded

variable {documents others : List Loaded} {k' : TypeKey}

/-- **The kept declaration is built, if it is well formed.** -/
theorem outcome_eq (documents : List Loaded) (k : TypeKey) : outcome documents k =
    (((drafts documents).declOf k).filter (·.wellFormed)).map
      ((drafts documents).ownScope.buildType k.module) := by
  have hgathers : (drafts documents).Gathers (sorted documents) := Drafts.gathers_collect _
  rw [outcome, Drafts.declOf]
  cases hd : (drafts documents).find? k.module with
  | none => rfl
  | some draft => exact Drafts.find?_buildTypes (hgathers.modules _ _ hd).types.sorted

/-- **A model has the types that are built.** -/
theorem lookup_eq_outcome {o : Overlay} {m : Model} (h : merge o documents = .ok m)
    (k : TypeKey) : m.lookup k = (outcome documents k).bind Except.toOption := by
  have hgathers : (drafts documents).Gathers (sorted documents) := Drafts.gathers_collect _
  have hok : ∀ {r : Except (List Diagnostic) TypeDef} {t}, r.toOption = some t ↔ r = .ok t :=
    fun {r t} => by cases r <;> simp [Except.toOption]
  obtain ⟨-, -, -, -, -, rfl⟩ := merge_eq_ok_iff.1 h
  refine Option.ext fun t => ?_
  rw [outcome_eq, Drafts.lookup_model hgathers]
  simp only [Option.bind_eq_some_iff, Option.map_eq_some_iff, Option.filter_eq_some_iff, hok]
  constructor
  · rintro ⟨d, hd, hwf, hbuilt⟩
    exact ⟨_, ⟨d, ⟨hd, hwf⟩, rfl⟩, hbuilt⟩
  · rintro ⟨_, ⟨d, ⟨hd, hwf⟩, rfl⟩, hbuilt⟩
    exact ⟨d, hd, hwf, hbuilt⟩

/-- Names refer to the same in documents that differ in one type. -/
theorem ownScope_of_revised (h : List.Forall₂ (Revised k) documents others) :
    (drafts documents).ownScope = (drafts others).ownScope :=
  (revised_drafts h).ownScope_eq (Drafts.gathers_collect _) (Drafts.gathers_collect _)

end Loaded

/-- **The body of a declaration is read for its own type alone.** Let two lists of documents be the
same but for the bodies of the type `k`, well formed or not. Then every other declaration has the
same outcome, the type or the list of its faults; at each position the same is reported, so no
reference to `k` fails for what its body is; and if both are merged, all other types are the same.
-/
theorem outcomes_of_revised {k : TypeKey} {documents others : List Loaded}
    (h : List.Forall₂ (Loaded.Revised k) documents others) :
    (∀ k', k' ≠ k → Loaded.outcome documents k' = Loaded.outcome others k') ∧
      (∀ p, Loaded.faultAt documents p = Loaded.faultAt others p) ∧
      ∀ o m n, merge o documents = .ok m → merge o others = .ok n →
        ∀ k', k' ≠ k → m.lookup k' = n.lookup k' := by
  have hscope := Loaded.ownScope_of_revised h
  have houtcome : ∀ k', k' ≠ k → Loaded.outcome documents k' = Loaded.outcome others k' :=
    fun k' hk => by
      rw [Loaded.outcome_eq, Loaded.outcome_eq, hscope, (Loaded.revised_drafts h).declOf_eq hk]
  refine ⟨houtcome, fun p => ?_, fun o m n hm hn k' hk => ?_⟩
  · rw [Loaded.faultAt, Loaded.faultAt, hscope]
  · rw [Loaded.lookup_eq_outcome hm, Loaded.lookup_eq_outcome hn, houtcome k' hk]

/-- The sample with a value in the first declaration of `core.Base`, which breaks it. -/
def brokenSample : List Loaded :=
  [⟨"deps/core.json", .imported, { sampleDependency with
      complexTypes := { sampleBase with values := ["RED"] } ::
        sampleDependency.complexTypes.tail }⟩,
    ⟨"src/app.json", .local, sampleApp⟩, ⟨"src/core.json", .local, sampleCore⟩]

/-- The base is no longer built, and still the user that extends it is. -/
theorem outcomes_of_revised_brokenSample :
    List.Forall₂ (Loaded.Revised ⟨"core", "Base"⟩) sample brokenSample ∧
      Loaded.outcome brokenSample ⟨"core", "Base"⟩ = none ∧
      (∃ t, Loaded.outcome brokenSample ⟨"app", "User"⟩ = some (.ok t)) ∧
      (∀ k', k' ≠ ⟨"core", "Base"⟩ → Loaded.outcome sample k' = Loaded.outcome brokenSample k') ∧
      (∀ p, Loaded.faultAt sample p = Loaded.faultAt brokenSample p) ∧
      ∀ o m n, merge o sample = .ok m → merge o brokenSample = .ok n →
        ∀ k', k' ≠ ⟨"core", "Base"⟩ → m.lookup k' = n.lookup k' := by
  have hself : ∀ (k : TypeKey) (l : Loaded), l.Revised k l := fun k l =>
    ⟨rfl, rfl, rfl, rfl, rfl, rfl, rfl, List.forall₂_same.2 fun _ _ => ⟨rfl, rfl, fun _ => rfl⟩⟩
  have hrevised : List.Forall₂ (Loaded.Revised ⟨"core", "Base"⟩) sample brokenSample :=
    .cons ⟨rfl, rfl, rfl, rfl, rfl, rfl, rfl, .cons ⟨rfl, rfl, fun _ => rfl⟩ <|
        .cons ⟨rfl, rfl, fun h => absurd rfl h⟩ <| .cons ⟨rfl, rfl, fun _ => rfl⟩ .nil⟩ <|
      .cons (hself _ _) <| .cons (hself _ _) .nil
  have hsorted : Loaded.sorted brokenSample = brokenSample :=
    List.mergeSort_of_pairwise (by decide)
  have hbase : (Loaded.outcome brokenSample ⟨"core", "Base"⟩).isNone = true := by
    rw [Loaded.outcome, Loaded.drafts, hsorted]
    decide +kernel
  have huser : (Loaded.outcome brokenSample ⟨"app", "User"⟩).any (·.isOk) = true := by
    rw [Loaded.outcome, Loaded.drafts, hsorted]
    decide +kernel
  refine ⟨hrevised, Option.isNone_iff_eq_none.1 hbase, ?_, outcomes_of_revised hrevised⟩
  obtain ⟨r, hr, hok⟩ := (Option.any_eq_true _ _).1 huser
  cases r with
  | ok t => exact ⟨t, hr⟩
  | error failed => cases hok

end InterfaceGen
