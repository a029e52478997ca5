import InterfaceGen.Proofs.Scope

/-!
# Proofs/Kept — the first declaration of a type is kept, and every later one is compared with it

The items of a list that come after another one of their key are its `later` ones, each behind the
first of that key. Documents are compared by the names of their modules, declarations by the keys of
their types. What is kept on any run is what came first (`Drafts.Keeps`), and so a collection
reports what is wrong with each document and each declaration alone, and each later one that differs
from the first: nothing else, and nothing of it twice. Main statements: `Drafts.keeps_collect` and
`Drafts.perm_collect`.
-/

namespace InterfaceGen

/-! ## First and later items -/

section Later

variable {α κ : Type} [DecidableEq κ] (key : α → κ)

/-- The first item of a key. -/
def firstOf (l : List α) (k : κ) : Option α := l.find? (key · = k)

/-- The items of a list after `seen` that are not the first of their key, each behind the one that
is. -/
def laterFrom (seen : List α) : List α → List (α × α)
  | [] => []
  | x :: rest => ((firstOf key seen (key x)).map (·, x)).toList ++ laterFrom (seen ++ [x]) rest

/-- The items of a list that are not the first of their key, each behind the one that is. -/
def later (l : List α) : List (α × α) := laterFrom key [] l

variable {key} {seen l : List α} {k : κ} {x : α}

theorem firstOf_append (front back : List α) (k : κ) :
    firstOf key (front ++ back) k = (firstOf key front k).or (firstOf key back k) :=
  List.find?_append

theorem firstOf_eq_none_iff : firstOf key l k = none ↔ ∀ x ∈ l, key x ≠ k := by
  simp [firstOf]

theorem mem_of_firstOf (h : firstOf key l k = some x) : x ∈ l ∧ key x = k :=
  ⟨List.mem_of_find?_eq_some h, by simpa using List.find?_some h⟩

theorem isSome_firstOf : (firstOf key l k).isSome = true ↔ k ∈ l.map key := by
  simp [firstOf]

theorem laterFrom_append (seen front back : List α) : laterFrom key seen (front ++ back) =
    laterFrom key seen front ++ laterFrom key (seen ++ front) back := by
  induction front generalizing seen with
  | nil => simp [laterFrom]
  | cons x front ih => simp [laterFrom, ih, List.append_assoc]

end Later

/-! ## What documents get wrong -/

namespace Loaded

/-- The module that a document declares. -/
def module (l : Loaded) : String := l.document.name

/-- The key of the type that a declaration declares. -/
def key (w : Loaded × Declaration) : TypeKey := ⟨w.1.document.name, w.2.name⟩

/-- What is wrong with the header of each document. -/
def headerFaults (docs : List Loaded) : List Diagnostic := docs.flatMap (·.document.checkHeader)

/-- What is wrong with each declaration alone. -/
def bodyFaults (written : List (Loaded × Declaration)) : List Diagnostic :=
  written.flatMap fun w => w.2.problems.map (.invalidDefinition w.1.document.name)

/-- What is wrong with a document behind the first one of its module. -/
def versionFault (pair : Loaded × Loaded) : Option Diagnostic :=
  let first := pair.1.document
  let other := pair.2.document
  if Text.trimmed first.version = Text.trimmed other.version then none
  else some (.versionConflict other.name first.version other.version)

/-- What is wrong with a declaration behind the first one of its type. -/
def duplicateFault (pair : (Loaded × Declaration) × (Loaded × Declaration)) : Option Diagnostic :=
  let (first, decl) := pair.1
  let (other, again) := pair.2
  if decl.same again then none
  else some (.duplicateDefinition other.document.name again.name first.path other.path)

theorem key_module {docs : List Loaded} {w : Loaded × Declaration} (hw : w ∈ written docs) :
    ∃ l ∈ docs, l.document.name = (key w).module := by
  obtain ⟨l, d⟩ := w
  exact ⟨l, (mem_written.1 hw).1, rfl⟩

theorem written_append (front back : List Loaded) :
    written (front ++ back) = written front ++ written back := List.flatMap_append

theorem headerFaults_append (front back : List Loaded) :
    headerFaults (front ++ back) = headerFaults front ++ headerFaults back := List.flatMap_append

theorem bodyFaults_append (front back : List (Loaded × Declaration)) :
    bodyFaults (front ++ back) = bodyFaults front ++ bodyFaults back := List.flatMap_append

end Loaded

/-! ## Declarations of one module -/

namespace DeclDraft

variable {types : Table DeclDraft} {seen : List (Loaded × Declaration)} {loaded : Loaded}
  {decl : Declaration} {module : String}

/-- The draft is what becomes of the declaration `w` when it comes first. -/
structure KeptFrom (k : DeclDraft) (w : Loaded × Declaration) : Prop where
  decl : k.decl = w.2
  path : k.path = w.1.path
  wellFormed : k.wellFormed = w.2.problems.isEmpty

/-- The table keeps, of the declarations `seen`, the first one of each type of the module. -/
def KeepsFirst (module : String) (types : Table DeclDraft) (seen : List (Loaded × Declaration)) :
    Prop :=
  ∀ name, Option.Rel KeptFrom (types.find? name) (firstOf Loaded.key seen ⟨module, name⟩)

/-- Declarations of another module change nothing. -/
theorem KeepsFirst.append (h : KeepsFirst module types seen) {added : List (Loaded × Declaration)}
    (hadded : ∀ w ∈ added, (Loaded.key w).module ≠ module) :
    KeepsFirst module types (seen ++ added) := by
  intro name
  have hnone : firstOf Loaded.key added ⟨module, name⟩ = none :=
    firstOf_eq_none_iff.2 fun w hw heq => hadded w hw (congrArg TypeKey.module heq)
  rw [firstOf_append, hnone, Option.or_none]
  exact h name

/-- **One declaration**: the first of its type is kept. -/
theorem KeepsFirst.absorb (h : KeepsFirst loaded.document.name types seen) (decl : Declaration) :
    KeepsFirst loaded.document.name (absorb loaded types decl).1 (seen ++ [(loaded, decl)]) := by
  intro name
  have hname := h name
  rw [find?_absorb, firstOf_append]
  split
  · next hn =>
    subst hn
    have hself : firstOf Loaded.key [(loaded, decl)] ⟨loaded.document.name, decl.name⟩ =
        some (loaded, decl) := by simp [firstOf, Loaded.key]
    rw [hself]
    generalize types.find? decl.name = k, firstOf Loaded.key seen _ = w at hname
    cases hname with
    | none => exact .some ⟨rfl, rfl, rfl⟩
    | some hkept =>
      simp only [next, Option.some_or]
      split
      · exact .some hkept
      · exact .some ⟨hkept.decl, hkept.path, hkept.wellFormed⟩
  · next hn =>
    have hother : firstOf Loaded.key [(loaded, decl)] ⟨loaded.document.name, name⟩ = none :=
      firstOf_eq_none_iff.2 fun w hw heq => by
        obtain rfl := List.mem_singleton.1 hw
        exact hn (congrArg TypeKey.name heq).symm
    rw [hother, Option.or_none]
    exact hname

/-- …and is what the others are compared with. -/
theorem KeepsFirst.reported_absorb (h : KeepsFirst loaded.document.name types seen)
    (decl : Declaration) : (DeclDraft.absorb loaded types decl).2 =
      Loaded.bodyFaults [(loaded, decl)] ++
        (laterFrom Loaded.key seen [(loaded, decl)]).filterMap Loaded.duplicateFault := by
  have hname := h decl.name
  simp only [DeclDraft.absorb, Loaded.bodyFaults, laterFrom, Loaded.key, List.flatMap_singleton]
  generalize types.find? decl.name = k, firstOf Loaded.key seen _ = w at hname
  cases hname with
  | none => simp
  | @some k w hkept =>
    obtain ⟨first, original⟩ := w
    obtain ⟨hdecl, hpath, -⟩ := hkept
    simp only at hdecl hpath
    by_cases hs : original.same decl = true
    · simp [Declaration.conflicts, Loaded.duplicateFault, hdecl, hs]
    · simp [Declaration.conflicts, Loaded.duplicateFault, hdecl, hpath, hs]

theorem KeepsFirst.absorbAll (h : KeepsFirst loaded.document.name types seen)
    (decls : List Declaration) : KeepsFirst loaded.document.name (absorbAll loaded types decls).1
      (seen ++ decls.map (loaded, ·)) := by
  induction decls generalizing types seen with
  | nil => simpa [DeclDraft.absorbAll] using h
  | cons d decls ih => simpa [DeclDraft.absorbAll, List.append_assoc] using ih (h.absorb d)

/-- **All declarations of a document**, by induction on them. -/
theorem KeepsFirst.perm_absorbAll (h : KeepsFirst loaded.document.name types seen)
    (decls : List Declaration) : (DeclDraft.absorbAll loaded types decls).2.Perm
      (Loaded.bodyFaults (decls.map (loaded, ·)) ++
        (laterFrom Loaded.key seen (decls.map (loaded, ·))).filterMap Loaded.duplicateFault) := by
  induction decls generalizing types seen with
  | nil => exact .refl _
  | cons d decls ih =>
    have hrest := ih (h.absorb d)
    simp only [DeclDraft.absorbAll, h.reported_absorb d]
    have hcons : (d :: decls).map (loaded, ·) = [(loaded, d)] ++ decls.map (loaded, ·) := rfl
    rw [hcons, Loaded.bodyFaults_append, laterFrom_append, List.filterMap_append]
    rw [List.perm_iff_count] at hrest ⊢
    intro a
    have := hrest a
    simp only [List.count_append] at this ⊢
    omega

end DeclDraft

/-! ## All modules -/

namespace Drafts

variable {drafts : Drafts} {docs rest : List Loaded} {l : Loaded}

/-- The drafts keep the version of the first document of each module, and the first declaration of
each type. -/
structure Keeps (drafts : Drafts) (docs : List Loaded) : Prop where
  version : ∀ name, Option.Rel (fun draft l => draft.version = l.document.version)
    (drafts.find? name) (firstOf Loaded.module docs name)
  types : ∀ name draft, drafts.find? name = some draft →
    DeclDraft.KeepsFirst name draft.types (Loaded.written docs)

theorem keeps_nil : Keeps [] [] := ⟨fun _ => .none, fun _ _ hd => by cases hd⟩

/-- What is collected so far for the module of a document keeps the first declarations. -/
theorem Keeps.types_getD (h : Keeps drafts docs) (l : Loaded) :
    DeclDraft.KeepsFirst l.document.name
      ((drafts.find? l.document.name).getD (ModuleDraft.start l)).types (Loaded.written docs) := by
  cases hd : drafts.find? l.document.name with
  | some draft => exact h.types _ _ hd
  | none =>
    -- no document of the module has come, and so none of its declarations
    have hversion := h.version l.document.name
    rw [hd] at hversion
    generalize hfirst : firstOf Loaded.module docs _ = first at hversion
    cases hversion
    intro name
    have hnone : firstOf Loaded.key (Loaded.written docs) ⟨l.document.name, name⟩ = none := by
      refine firstOf_eq_none_iff.2 fun w hw heq => ?_
      obtain ⟨k, hk, hm⟩ := Loaded.key_module hw
      exact firstOf_eq_none_iff.1 hfirst k hk (hm.trans (congrArg TypeKey.module heq))
    rw [hnone]
    exact .none

theorem Keeps.absorb (h : Keeps drafts docs) (l : Loaded) :
    Keeps (drafts.absorb l).1 (docs ++ [l]) := by
  refine ⟨fun name => ?_, fun name draft hd => ?_⟩
  · have hname := h.version name
    rw [find?_absorb, firstOf_append]
    split
    · next hn =>
      subst hn
      have hself : firstOf Loaded.module [l] l.document.name = some l := by
        simp [firstOf, Loaded.module]
      rw [hself]
      unfold next
      generalize drafts.find? l.document.name = draft, firstOf Loaded.module docs _ = first at hname
      cases hname with
      | none => exact .some rfl
      | some hversion => exact .some hversion
    · next hn =>
      have hother : firstOf Loaded.module [l] name = none :=
        firstOf_eq_none_iff.2 fun k hk heq => hn (heq ▸ List.mem_singleton.1 hk ▸ rfl)
      rw [hother, Option.or_none]
      exact hname
  · rw [find?_absorb] at hd
    rw [Loaded.written_concat]
    split at hd
    · next hn =>
      subst hn
      cases hd
      exact (h.types_getD l).absorbAll l.document.declarations
    · next hn =>
      refine (h.types name draft hd).append fun w hw heq => hn ?_
      obtain ⟨d, -, rfl⟩ := List.mem_map.1 hw
      exact heq.symm

/-- **One document**: what is reported is what is wrong with it alone, and what differs from the
first of its kind. -/
theorem Keeps.perm_absorb (h : Keeps drafts docs) (l : Loaded) : (drafts.absorb l).2.Perm
    (Loaded.headerFaults [l] ++ Loaded.bodyFaults (Loaded.written [l]) ++
      (laterFrom Loaded.module docs [l]).filterMap Loaded.versionFault ++
      (laterFrom Loaded.key (Loaded.written docs) (Loaded.written [l])).filterMap
        Loaded.duplicateFault) := by
  have hdecls := (h.types_getD l).perm_absorbAll l.document.declarations
  have hwritten : Loaded.written [l] = l.document.declarations.map (l, ·) := by
    simp [Loaded.written]
  have hversion : (if versionsConflict
      ((drafts.find? l.document.name).getD (ModuleDraft.start l)).version l.document.version
      then [Diagnostic.versionConflict l.document.name
        ((drafts.find? l.document.name).getD (ModuleDraft.start l)).version l.document.version]
      else []) = (laterFrom Loaded.module docs [l]).filterMap Loaded.versionFault := by
    have hname := h.version l.document.name
    have hmodule : l.module = l.document.name := rfl
    simp only [laterFrom, hmodule]
    generalize drafts.find? l.document.name = draft, firstOf Loaded.module docs _ = first at hname
    cases hname with
    | none => simp [versionsConflict, ModuleDraft.start]
    | @some draft first heq =>
      by_cases hv : Text.trimmed first.document.version = Text.trimmed l.document.version
      · simp [versionsConflict, Loaded.versionFault, heq, hv]
      · simp [versionsConflict, Loaded.versionFault, heq, hv]
  rw [hwritten, ← hversion]
  simp only [Drafts.absorb, ModuleDraft.absorb, Loaded.headerFaults, List.flatMap_singleton]
  rw [List.perm_iff_count] at hdecls ⊢
  intro a
  have := hdecls a
  simp only [List.count_append] at this ⊢
  omega

/-! ### Runs -/

theorem Keeps.absorbAll (h : Keeps drafts docs) (rest : List Loaded) :
    Keeps (drafts.absorbAll rest).1 (docs ++ rest) := by
  induction rest generalizing drafts docs with
  | nil => simpa [Drafts.absorbAll] using h
  | cons l rest ih => simpa [Drafts.absorbAll, List.append_assoc] using ih (h.absorb l)

theorem Keeps.perm_absorbAll (h : Keeps drafts docs) (rest : List Loaded) :
    (drafts.absorbAll rest).2.Perm
      (Loaded.headerFaults rest ++ Loaded.bodyFaults (Loaded.written rest) ++
        (laterFrom Loaded.module docs rest).filterMap Loaded.versionFault ++
        (laterFrom Loaded.key (Loaded.written docs) (Loaded.written rest)).filterMap
          Loaded.duplicateFault) := by
  induction rest generalizing drafts docs with
  | nil => exact .refl _
  | cons l rest ih =>
    have hfirst := h.perm_absorb l
    have hrest := ih (h.absorb l)
    have hcons : l :: rest = [l] ++ rest := rfl
    have hreported : (drafts.absorbAll (l :: rest)).2 =
        (drafts.absorb l).2 ++ ((drafts.absorb l).1.absorbAll rest).2 := rfl
    rw [hreported, hcons, Loaded.written_append, Loaded.headerFaults_append,
      Loaded.bodyFaults_append, laterFrom_append, laterFrom_append, List.filterMap_append,
      List.filterMap_append, ← Loaded.written_append]
    rw [List.perm_iff_count] at hfirst hrest ⊢
    intro a
    have := hfirst a
    have := hrest a
    simp only [List.count_append] at *
    omega

/-- **A collection keeps what comes first.** -/
theorem keeps_collect (docs : List Loaded) : Keeps (absorbAll [] docs).1 docs :=
  keeps_nil.absorbAll docs

/-- **A collection reports what is wrong with each part alone, and what differs from the first of
its kind**, each of them once. -/
theorem perm_collect (docs : List Loaded) : (absorbAll [] docs).2.Perm
    (Loaded.headerFaults docs ++ Loaded.bodyFaults (Loaded.written docs) ++
      (later Loaded.module docs).filterMap Loaded.versionFault ++
      (later Loaded.key (Loaded.written docs)).filterMap Loaded.duplicateFault) :=
  keeps_nil.perm_absorbAll docs

/-- **The declaration kept for a type is the first one that is written.** -/
theorem Keeps.declOf (h : Keeps drafts docs) (k : TypeKey) :
    Option.Rel DeclDraft.KeptFrom (drafts.declOf k)
      (firstOf Loaded.key (Loaded.written docs) k) := by
  have hversion := h.version k.module
  have htypes := h.types k.module
  simp only [Drafts.declOf]
  generalize drafts.find? k.module = draft,
    hfirst : firstOf Loaded.module docs _ = first at hversion htypes
  cases hversion with
  | some _ => exact htypes _ rfl k.name
  | none =>
    have hnone : firstOf Loaded.key (Loaded.written docs) k = none := by
      refine firstOf_eq_none_iff.2 fun w hw heq => ?_
      obtain ⟨l, hl, hm⟩ := Loaded.key_module hw
      exact firstOf_eq_none_iff.1 hfirst l hl (hm.trans (congrArg TypeKey.module heq))
    rw [hnone]
    exact .none

end Drafts

end InterfaceGen
