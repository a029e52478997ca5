import InterfaceGen.Model.Scope
import InterfaceGen.Proofs.Table
import Mathlib.Data.List.Nodup

/-!
# Proofs/Resolution — a scope resolves a name exactly as its namespace prescribes

A `Namespace` is the part of the documents that references depend on: which types each module
declares, of which kinds, and which modules it reaches. `Selects` is the rule for a name, `Denotes`
carries it through the containers, and `Writes` starts from the written text. Whatever a scope
resolves is denoted by the names it lists, and a scope that `Implements` a namespace fails only if
nothing is denoted. Main statements: `Scope.denotes_of_resolve`,
`Scope.Implements.resolveSpelling_iff` and `Scope.Implements.resolveParent_iff`.
-/

namespace InterfaceGen

/-! ## The rule -/

/-- What names may refer to. -/
structure Namespace where
  /-- The module of the key declares a type of its name, and of this kind. -/
  kind : TypeKey → DeclKind → Prop
  /-- The first module reaches the second one by one import or more. -/
  reaches : String → String → Prop

namespace Namespace

variable {ns : Namespace} {module text : String}

/-- The module of the key declares a type of its name. -/
def declares (ns : Namespace) (k : TypeKey) : Prop := ∃ d, ns.kind k d

/-- The type that a name selects in a module; it may be qualified by a module. -/
inductive Selects (ns : Namespace) (module : String) : Option String → String → TypeKey → Prop where
  /-- The module's own type comes first. -/
  | own {name : String} (declared : ns.declares ⟨module, name⟩) :
      Selects ns module none name ⟨module, name⟩
  /-- Otherwise the only type of that name among the modules that are reached. -/
  | imported {name target : String} (missing : ¬ ns.declares ⟨module, name⟩)
      (reached : ns.reaches module target) (declared : ns.declares ⟨target, name⟩)
      (only : ∀ other, ns.reaches module other → ns.declares ⟨other, name⟩ → other = target) :
      Selects ns module none name ⟨target, name⟩
  /-- A qualifier names the module itself or one that is reached. -/
  | qualified {name target : String} (visible : target = module ∨ ns.reaches module target)
      (declared : ns.declares ⟨target, name⟩) : Selects ns module (some target) name ⟨target, name⟩

/-- The type that an expression denotes in a module. -/
inductive Denotes (ns : Namespace) (module : String) : TypeExpr → DataType → Prop where
  | primitive (p : Primitive) : Denotes ns module (.primitive p) (.primitive p)
  | named {qualifier : Option String} {name : String} {key : TypeKey}
      (selected : ns.Selects module qualifier name key) :
      Denotes ns module (.named qualifier name) (.reference key)
  | sequence {e : TypeExpr} {t : DataType} (h : Denotes ns module e t) :
      Denotes ns module (.sequence e) (.sequence t)
  | set {e : TypeExpr} {t : DataType} (h : Denotes ns module e t) :
      Denotes ns module (.set e) (.set t)
  | map {e : TypeExpr} {t : DataType} (h : Denotes ns module e t) :
      Denotes ns module (.map e) (.map t)

/-- The text is a type expression that denotes the type in the module. -/
def Writes (ns : Namespace) (module text : String) (t : DataType) : Prop :=
  ∃ e, TypeExpr.parse text = .ok e ∧ ns.Denotes module e t

/-! ## At most one type, and a visible one -/

/-- What is selected is declared, in the module itself or in one that it reaches. -/
theorem Selects.visible {q : Option String} {name : String} {k : TypeKey}
    (h : ns.Selects module q name k) :
    ns.declares k ∧ (k.module = module ∨ ns.reaches module k.module) := by
  cases h with
  | own declared => exact ⟨declared, .inl rfl⟩
  | imported _ reached declared _ => exact ⟨declared, .inr reached⟩
  | qualified visible declared => exact ⟨declared, visible⟩

/-- **A name selects one type at most.** -/
theorem Selects.unique {q : Option String} {name : String} {k k' : TypeKey}
    (h : ns.Selects module q name k) (h' : ns.Selects module q name k') : k = k' := by
  cases h with
  | own declared =>
    cases h' with
    | own _ => rfl
    | imported missing _ _ _ => exact absurd declared missing
  | imported missing _ _ only =>
    cases h' with
    | own declared => exact absurd declared missing
    | imported _ reached declared _ => rw [only _ reached declared]
  | qualified _ _ =>
    cases h' with
    | qualified _ _ => rfl

/-- **An expression denotes one type at most.** -/
theorem Denotes.unique {e : TypeExpr} {t t' : DataType} (h : ns.Denotes module e t)
    (h' : ns.Denotes module e t') : t = t' := by
  induction h generalizing t' with
  | primitive p => cases h'; rfl
  | named selected =>
    cases h' with
    | named selected' => rw [selected.unique selected']
  | sequence _ ih => cases h' with | sequence h' => rw [ih h']
  | set _ ih => cases h' with | set h' => rw [ih h']
  | map _ ih => cases h' with | map h' => rw [ih h']

theorem Writes.unique {t t' : DataType} (h : ns.Writes module text t)
    (h' : ns.Writes module text t') : t = t' := by
  obtain ⟨e, he, hd⟩ := h
  obtain ⟨e', he', hd'⟩ := h'
  cases he.symm.trans he'
  exact hd.unique hd'

/-- Every key in a denoted type is visible. -/
theorem Denotes.visible {e : TypeExpr} {t : DataType} (h : ns.Denotes module e t) :
    ∀ k ∈ t.references, ns.declares k ∧ (k.module = module ∨ ns.reaches module k.module) := by
  induction h with
  | primitive p => exact fun _ hk => absurd hk List.not_mem_nil
  | named selected => exact fun k hk => List.mem_singleton.1 hk ▸ selected.visible
  | sequence _ ih => exact ih
  | set _ ih => exact ih
  | map _ ih => exact ih

end Namespace

/-! ## Scopes -/

/-- A mapped result is a value exactly when the result is one. -/
theorem map_eq_ok_iff {α β : Type} {f : α → β} {r : Except Diagnostic α} {b : β} :
    r.map f = .ok b ↔ ∃ a, r = .ok a ∧ f a = b := by
  cases r with
  | ok a => simp [Except.map]
  | error d => simp [Except.map]

/-- A result with a property that can be computed is a value. -/
theorem exists_of_any_toOption {ε α : Type} {x : Except ε α} {p : α → Bool}
    (h : x.toOption.any p = true) : ∃ a, x = .ok a ∧ p a = true := by
  cases x with
  | ok a => exact ⟨a, rfl, h⟩
  | error e => cases h

namespace Scope

variable {s : Scope} {ns : Namespace} {module reference location : String}

/-- The modules that a scope lists as reachable. -/
def closureOf (s : Scope) (module : String) : Names := (s.closures.find? module).getD []

/-- What a scope lists, as a namespace. -/
def listed (s : Scope) : Namespace where
  kind k d := s.kindOf k = some d
  reaches a b := b ∈ s.closureOf a

/-! ### What is resolved is denoted -/

theorem declares_listed (s : Scope) (k : TypeKey) :
    (s.kindOf k).isSome = true ↔ s.listed.declares k :=
  Option.isSome_iff_exists

theorem sees_iff {target : String} :
    s.sees module target = true ↔ target = module ∨ s.listed.reaches module target := by
  rw [sees, Bool.or_eq_true, decide_eq_true_eq, List.contains_iff_mem, eq_comm]
  rfl

theorem resolveQualified_iff {target name : String} {k : TypeKey} :
    s.resolveQualified module target name reference location = .ok k ↔
      s.listed.Selects module (some target) name k := by
  have hsees : s.sees module target = true ↔ _ := sees_iff
  have hdecl := s.declares_listed ⟨target, name⟩
  simp only [resolveQualified]
  constructor
  · intro hk
    split at hk
    · next hs =>
      split at hk
      · next hd =>
        cases hk
        exact .qualified (hsees.1 hs) (hdecl.1 hd)
      · cases hk
    · split at hk <;> cases hk
  · intro hk
    cases hk with
    | qualified visible declared => rw [if_pos (hsees.2 visible), if_pos (hdecl.2 declared)]

theorem mem_candidates {name : String} {k : TypeKey} : k ∈ s.candidates module name ↔
    s.listed.reaches module k.module ∧ k.module ≠ module ∧ k.name = name ∧
      s.listed.declares k := by
  simp only [candidates, List.mem_filter, List.mem_map, decide_eq_true_eq, declares_listed]
  constructor
  · rintro ⟨⟨target, ⟨hr, hne⟩, rfl⟩, hd⟩
    exact ⟨hr, hne, rfl, hd⟩
  · rintro ⟨hr, hne, rfl, hd⟩
    exact ⟨⟨k.module, ⟨hr, hne⟩, rfl⟩, hd⟩

/-- **A single candidate is selected**, once the module itself declares no type of the name. -/
theorem selects_of_candidates {name : String} {k : TypeKey}
    (hmissing : ¬ s.listed.declares ⟨module, name⟩) (h : s.candidates module name = [k]) :
    s.listed.Selects module none name k := by
  have honly : ∀ other, other ∈ s.candidates module name → other = k := fun other hother =>
    List.mem_singleton.1 (h ▸ hother)
  obtain ⟨hr, -, rfl, hdecl⟩ := mem_candidates.1 (h ▸ List.mem_singleton.2 rfl)
  refine .imported hmissing hr hdecl fun other hr' hdecl' => ?_
  -- a declaring module that is reached is not the module itself
  have hne : other ≠ module := fun heq => hmissing (heq ▸ hdecl')
  exact congrArg TypeKey.module (honly ⟨other, k.name⟩ (mem_candidates.2 ⟨hr', hne, rfl, hdecl'⟩))

theorem selects_of_resolveUnqualified {name : String} {k : TypeKey}
    (h : s.resolveUnqualified module name reference location = .ok k) :
    s.listed.Selects module none name k := by
  simp only [resolveUnqualified] at h
  split at h
  · next hd =>
    cases h
    exact .own ((s.declares_listed _).1 hd)
  · next hd =>
    split at h
    · cases h
    · next key hc =>
      cases h
      exact selects_of_candidates (fun hdecl => hd ((s.declares_listed _).2 hdecl)) hc
    · cases h

/-- **What an expression is resolved to is what it denotes** — by recursion on the expression. -/
theorem denotes_of_resolve {e : TypeExpr} {t : DataType}
    (h : s.resolve module e reference location = .ok t) : s.listed.Denotes module e t := by
  induction e generalizing t with
  | primitive p =>
    cases h
    exact .primitive p
  | named q name =>
    cases q with
    | none =>
      obtain ⟨k, hk, rfl⟩ := map_eq_ok_iff.1 h
      exact .named (selects_of_resolveUnqualified hk)
    | some target =>
      obtain ⟨k, hk, rfl⟩ := map_eq_ok_iff.1 h
      exact .named (resolveQualified_iff.1 hk)
  | sequence e ih =>
    obtain ⟨element, helement, rfl⟩ := map_eq_ok_iff.1 h
    exact .sequence (ih helement)
  | set e ih =>
    obtain ⟨element, helement, rfl⟩ := map_eq_ok_iff.1 h
    exact .set (ih helement)
  | map e ih =>
    obtain ⟨element, helement, rfl⟩ := map_eq_ok_iff.1 h
    exact .map (ih helement)

theorem writes_of_resolveSpelling {text : String} {t : DataType}
    (h : s.resolveSpelling module text location = .ok t) : s.listed.Writes module text t := by
  unfold resolveSpelling at h
  split at h
  · cases h
  · next e he => exact ⟨e, he, denotes_of_resolve h⟩

/-! ### What is denoted is resolved -/

/-- The scope knows what the namespace declares and reaches. -/
structure Implements (s : Scope) (ns : Namespace) : Prop where
  kind : ∀ k d, s.kindOf k = some d ↔ ns.kind k d
  reaches : ∀ a b, b ∈ s.closureOf a ↔ ns.reaches a b
  nodup : ∀ a, (s.closureOf a).Nodup

namespace Implements

/-- The namespace is the one that is listed. -/
theorem eq_listed (h : s.Implements ns) : ns = s.listed := by
  have hkind : ns.kind = s.listed.kind := funext₂ fun k d => propext (h.kind k d).symm
  have hreaches : ns.reaches = s.listed.reaches := funext₂ fun a b => propext (h.reaches a b).symm
  cases ns
  exact congrArg₂ Namespace.mk hkind hreaches

theorem declares (h : s.Implements ns) (k : TypeKey) :
    (s.kindOf k).isSome = true ↔ ns.declares k :=
  h.eq_listed ▸ s.declares_listed k

theorem sees_iff (h : s.Implements ns) {target : String} :
    s.sees module target = true ↔ target = module ∨ ns.reaches module target :=
  h.eq_listed ▸ Scope.sees_iff

theorem mem_candidates (h : s.Implements ns) {name : String} {k : TypeKey} :
    k ∈ s.candidates module name ↔
      ns.reaches module k.module ∧ k.module ≠ module ∧ k.name = name ∧ ns.declares k :=
  h.eq_listed ▸ Scope.mem_candidates

theorem nodup_candidates (h : s.Implements ns) (module name : String) :
    (s.candidates module name).Nodup := by
  refine (List.Nodup.map (fun a b hab => ?_) ((h.nodup module).filter _)).filter _
  exact congrArg TypeKey.module hab

/-- **An imported type that is selected is the only candidate.** -/
theorem candidates_eq_singleton (h : s.Implements ns) {name target : String}
    (hmissing : ¬ ns.declares ⟨module, name⟩) (hreached : ns.reaches module target)
    (hdeclared : ns.declares ⟨target, name⟩)
    (honly : ∀ other, ns.reaches module other → ns.declares ⟨other, name⟩ → other = target) :
    s.candidates module name = [⟨target, name⟩] := by
  refine List.perm_singleton.1 ((List.perm_ext_iff_of_nodup (h.nodup_candidates _ _)
    (List.nodup_singleton _)).2 fun c => ?_)
  rw [List.mem_singleton, h.mem_candidates]
  constructor
  · rintro ⟨hr, -, rfl, hdecl⟩
    rw [← honly c.module hr hdecl]
  · rintro rfl
    exact ⟨hreached, fun heq => hmissing (heq ▸ hdeclared), rfl, hdeclared⟩

theorem resolveUnqualified_of_selects (h : s.Implements ns) {name : String} {k : TypeKey}
    (hk : ns.Selects module none name k) :
    s.resolveUnqualified module name reference location = .ok k := by
  simp only [resolveUnqualified]
  cases hk with
  | own declared => rw [if_pos ((h.declares _).2 declared)]
  | imported missing reached declared only =>
    rw [if_neg fun hd => missing ((h.declares _).1 hd),
      h.candidates_eq_singleton missing reached declared only]

/-- **Resolution yields what is denoted** — by recursion on the derivation. -/
theorem resolve_iff (h : s.Implements ns) {e : TypeExpr} {t : DataType} :
    s.resolve module e reference location = .ok t ↔ ns.Denotes module e t := by
  refine ⟨fun ht => h.eq_listed ▸ denotes_of_resolve ht, fun ht => ?_⟩
  induction ht with
  | primitive p => rfl
  | @named q name k selected =>
    cases q with
    | none => exact map_eq_ok_iff.2 ⟨k, h.resolveUnqualified_of_selects selected, rfl⟩
    | some target =>
      exact map_eq_ok_iff.2 ⟨k, resolveQualified_iff.2 (h.eq_listed ▸ selected), rfl⟩
  | sequence _ ih => exact map_eq_ok_iff.2 ⟨_, ih, rfl⟩
  | set _ ih => exact map_eq_ok_iff.2 ⟨_, ih, rfl⟩
  | map _ ih => exact map_eq_ok_iff.2 ⟨_, ih, rfl⟩

/-- **A text is resolved to the type it writes.** -/
theorem resolveSpelling_iff (h : s.Implements ns) {text : String} {t : DataType} :
    s.resolveSpelling module text location = .ok t ↔ ns.Writes module text t := by
  unfold resolveSpelling Namespace.Writes
  cases TypeExpr.parse text with
  | error fault => simp
  | ok e => simp [h.resolve_iff]

/-- **A parent is resolved to the type it writes, if that is of the right kind.** -/
theorem resolveParent_iff (h : s.Implements ns) {expected : DeclKind} {k : TypeKey} :
    s.resolveParent module reference location expected = .ok k ↔
      ns.Writes module reference (.reference k) ∧ ns.kind k expected := by
  have hspelling : s.resolveSpelling module reference location = .ok (.reference k) ↔ _ :=
    h.resolveSpelling_iff
  rw [← hspelling, ← h.kind]
  unfold resolveParent
  cases s.resolveSpelling module reference location with
  | error d => simp
  | ok t =>
    cases t with
    | reference key =>
      by_cases hk : s.kindOf key = some expected
      · simp only [hk, if_true, Except.ok.injEq, DataType.reference.injEq]
        exact ⟨fun heq => ⟨heq, heq ▸ hk⟩, And.left⟩
      · simp only [hk, if_false, reduceCtorEq, Except.ok.injEq, DataType.reference.injEq,
          false_iff, not_and]
        exact fun heq => heq ▸ hk
    | _ => simp

end Implements

end Scope

end InterfaceGen
