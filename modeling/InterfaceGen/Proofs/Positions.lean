import InterfaceGen.Proofs.Build

/-!
# Proofs/Positions — each position of a declaration fails on its own, and once

A declaration writes types at its positions: after `extends`, at its fields and at its returns. A
position succeeds if its text denotes what is expected there (`Succeeds`), and otherwise exactly one
diagnostic says why not (`Faults`). In a scope that reflects a namespace, the failures of a
well-formed declaration are those of its positions, in their order. Main statements:
`Scope.failures_buildBody`, `Scope.Reflects.reports_check` and
`Scope.Reflects.exists_buildType_iff`.
-/

namespace InterfaceGen

/-! ## Positions -/

/-- What is expected of a type that is written. -/
inductive Role where
  /-- A declared type of this kind. -/
  | parent (kind : DeclKind)
  /-- A type that has values. -/
  | value
  /-- A type, or void. -/
  | result
  deriving Repr, DecidableEq

/-- A place in a module at which a type is written. -/
structure Position where
  module : String
  location : String
  text : String
  role : Role
  deriving Repr, DecidableEq

/-- The positions of some fields that are declared at `owner`. -/
def fieldPositions (module owner : String) (fields : List FieldDecl) : List Position :=
  fields.map fun f => ⟨module, owner ++ "." ++ f.name, f.type, .value⟩

/-- The positions of a method: its parameters and its return. -/
def MethodDecl.positions (module owner : String) (m : MethodDecl) : List Position :=
  let location := owner ++ "." ++ m.name
  fieldPositions module location m.params ++
    (m.result.map fun r => ⟨module, location ++ " return", r.type, .result⟩).toList

/-- The positions of the members of a declaration. -/
def Declaration.memberPositions (module : String) (d : Declaration) : List Position :=
  let owner := module ++ "." ++ d.name
  match d with
  | .alias _ => []
  | .complex c => fieldPositions module owner c.properties
  | .remote r =>
    (r.constructor.map fun c => fieldPositions module (owner ++ " constructor") c.params).getD [] ++
      r.methods.flatMap (MethodDecl.positions module owner) ++
      r.events.flatMap fun e => fieldPositions module (owner ++ "." ++ e.name) e.properties

/-- All positions of a declaration: what it extends, and those of its members. -/
def Declaration.positions (module : String) (d : Declaration) : List Position :=
  (d.parent.map fun text => ⟨module, module ++ "." ++ d.name, text, .parent d.kind⟩).toList ++
    d.memberPositions module

/-! ## What a position fails with -/

/-- The failure of a result, if it is one. -/
def failure? {α : Type} : Except Diagnostic α → Option Diagnostic
  | .ok _ => none
  | .error d => some d

theorem failures_map {α β : Type} (f : α → Except Diagnostic β) (as : List α) :
    failures (as.map f) = as.filterMap fun a => failure? (f a) := by
  rw [failures, List.filterMap_map]
  refine List.filterMap_congr fun a _ => ?_
  cases h : f a <;> simp [failure?, h]

theorem failures_optional {α β : Type} (f : α → Except Diagnostic β) (o : Option α) :
    failures (o.map f).toList = o.toList.filterMap fun a => failure? (f a) := by
  cases o with
  | none => rfl
  | some a => exact failures_map f [a]

namespace Scope

variable {s : Scope} {module owner : String}

/-- What is reported at a position, if anything is. -/
def check (s : Scope) (p : Position) : Option Diagnostic :=
  match p.role with
  | .parent kind => failure? (s.resolveParent p.module p.text p.location kind)
  | .value =>
    match s.resolveSpelling p.module p.text p.location with
    | .error d => some d
    | .ok t =>
      if t.isVoid then some (.invalidDefinition p.module (p.location ++ " cannot be void"))
      else none
  | .result => failure? (s.resolveSpelling p.module p.text p.location)

theorem failures_buildFields (s : Scope) (module owner : String) (fs : List FieldDecl) :
    failures (s.buildFields module owner fs) =
      (fieldPositions module owner fs).filterMap s.check := by
  rw [buildFields, failures_map, fieldPositions, List.filterMap_map]
  refine List.filterMap_congr fun f _ => ?_
  simp only [buildField, Function.comp_apply, check]
  cases s.resolveSpelling module f.type (owner ++ "." ++ f.name) with
  | error d => rfl
  | ok t =>
    simp only
    split <;> rfl

theorem failures_buildParent (s : Scope) (module owner : String) (kind : DeclKind)
    (parent : Option String) : failures (s.buildParent module owner kind parent).toList =
      (parent.map fun text => ⟨module, owner, text, .parent kind⟩).toList.filterMap s.check := by
  rw [buildParent, failures_optional]
  cases parent <;> rfl

theorem failures_buildMethod (s : Scope) (module owner : String) (m : MethodDecl) :
    (s.buildMethod module owner m).2 = (m.positions module owner).filterMap s.check := by
  simp only [buildMethod, MethodDecl.positions, buildReturn, failures_buildFields,
    failures_optional, List.filterMap_append]
  cases m.result <;> rfl

/-- **The failures of a well-formed declaration are those of its positions**, in their order. -/
theorem failures_buildBody (s : Scope) (module : String) {draft : DeclDraft}
    (hd : draft.decl.problems = []) :
    (s.buildBody module draft).2.2 = (draft.decl.positions module).filterMap s.check := by
  obtain ⟨decl, path, origin, wellFormed⟩ := draft
  have hbody := (List.append_eq_nil_iff.1 hd).2
  simp only [Declaration.positions, List.filterMap_append]
  cases decl with
  | «alias» a => rfl
  | complex c =>
    cases hc : c.format with
    | enum =>
      -- an enumeration with positions would not be well formed
      obtain ⟨hparent, hproperties⟩ := bare_of_enum hc hbody
      simp [buildBody, hc, Declaration.parent, hparent, Declaration.memberPositions, hproperties,
        fieldPositions]
    | register =>
      simp only [buildBody, hc, failures_buildParent, failures_buildFields, Declaration.parent,
        Declaration.kind, Declaration.memberPositions]
  | remote r =>
    have hcreate : ((r.constructor.map (s.buildConstructor module (module ++ "." ++ r.name))).map
        (·.2)).getD [] = ((r.constructor.map fun c =>
          fieldPositions module (module ++ "." ++ r.name ++ " constructor") c.params).getD
            []).filterMap s.check := by
      cases r.constructor with
      | none => rfl
      | some c => exact failures_buildFields s module _ c.params
    simp only [buildBody, Declaration.name, hcreate, failures_buildParent, Declaration.parent,
      Declaration.kind, Declaration.memberPositions, List.filterMap_append, List.flatMap_map,
      failures_buildMethod, buildEvent, failures_buildFields, List.filterMap_flatMap,
      List.append_assoc]

end Scope

/-! ## What a namespace says of a position -/

namespace Namespace

/-- The text at a position denotes what is expected there. -/
def Succeeds (ns : Namespace) (p : Position) : Prop :=
  match p.role with
  | .parent kind => ∃ k, ns.Writes p.module p.text (.reference k) ∧ ns.kind k kind
  | .value => ∃ t, ns.Writes p.module p.text t ∧ t.isVoid = false
  | .result => ∃ t, ns.Writes p.module p.text t

/-- Why an expression at a position denotes nothing, where `known` are the modules there are. -/
inductive Misses (ns : Namespace) (known : String → Prop) (p : Position) :
    TypeExpr → Diagnostic → Prop where
  /-- The named module is visible, but declares no such type. -/
  | absent {name target : String} (visible : target = p.module ∨ ns.reaches p.module target)
      (missing : ¬ ns.declares ⟨target, name⟩) :
      Misses ns known p (.named (some target) name) (.unresolvedReference p.location p.text)
  /-- The named module is there, but not visible. -/
  | unimported {name target : String}
      (hidden : ¬(target = p.module ∨ ns.reaches p.module target)) (declared : known target) :
      Misses ns known p (.named (some target) name)
        (.unimportedModule p.module p.location p.text target)
  /-- The named module is not there. -/
  | unknown {name target : String} (hidden : ¬(target = p.module ∨ ns.reaches p.module target))
      (undeclared : ¬ known target) :
      Misses ns known p (.named (some target) name) (.unresolvedReference p.location p.text)
  /-- No visible module declares such a type. -/
  | nowhere {name : String} (missing : ¬ ns.declares ⟨p.module, name⟩)
      (others : ∀ target, ns.reaches p.module target → ¬ ns.declares ⟨target, name⟩) :
      Misses ns known p (.named none name) (.unresolvedReference p.location p.text)
  /-- More than one module that is reached declares such a type, and the module itself does not. -/
  | ambiguous {name : String} {keys : List TypeKey} (missing : ¬ ns.declares ⟨p.module, name⟩)
      (complete : ∀ k, k ∈ keys ↔ k.name = name ∧ ns.reaches p.module k.module ∧ ns.declares k)
      (order : keys.Pairwise fun a b => a.module < b.module) (several : 2 ≤ keys.length) :
      Misses ns known p (.named none name)
        (.ambiguousReference p.location p.text (keys.map (·.shown)))
  | sequence {e : TypeExpr} {d : Diagnostic} (h : Misses ns known p e d) :
      Misses ns known p (.sequence e) d
  | set {e : TypeExpr} {d : Diagnostic} (h : Misses ns known p e d) : Misses ns known p (.set e) d
  | map {e : TypeExpr} {d : Diagnostic} (h : Misses ns known p e d) : Misses ns known p (.map e) d

/-- Why a position does not succeed. -/
inductive Faults (ns : Namespace) (known : String → Prop) (p : Position) : Diagnostic → Prop where
  /-- The text is no type expression. -/
  | malformed {fault : TypeExpr.Fault} (h : TypeExpr.parse p.text = .error fault) :
      Faults ns known p (.invalidDefinition p.module (p.location ++ ": " ++ fault.message))
  /-- The expression denotes nothing. -/
  | unbound {e : TypeExpr} {d : Diagnostic} (h : TypeExpr.parse p.text = .ok e)
      (misses : ns.Misses known p e d) : Faults ns known p d
  /-- The type has no values. -/
  | void {t : DataType} (role : p.role = .value) (h : ns.Writes p.module p.text t)
      (void : t.isVoid = true) :
      Faults ns known p (.invalidDefinition p.module (p.location ++ " cannot be void"))
  /-- The type is not declared, or of another kind. -/
  | kindMismatch {kind : DeclKind} {t : DataType} (role : p.role = .parent kind)
      (h : ns.Writes p.module p.text t) (other : ∀ k, t = .reference k → ¬ ns.kind k kind) :
      Faults ns known p (.kindMismatch p.location p.text kind.describe)

/-- Nothing is reported at a position that succeeds, and otherwise the reason why it does not. -/
def Reports (ns : Namespace) (known : String → Prop) (p : Position) : Option Diagnostic → Prop
  | none => ns.Succeeds p
  | some d => ¬ ns.Succeeds p ∧ ns.Faults known p d

end Namespace

/-! ## Scopes report what their namespaces say -/

theorem map_eq_error_iff {α β : Type} {f : α → β} {r : Except Diagnostic α} {d : Diagnostic} :
    r.map f = .error d ↔ r = .error d := by
  cases r <;> simp [Except.map]

/-- The scope implements the namespace and knows the modules there are, and it lists those that are
reached in the order of their names. -/
structure Scope.Reflects (s : Scope) (ns : Namespace) (known : String → Prop) : Prop extends
    s.Implements ns where
  known : ∀ module, s.types.has module = true ↔ known module
  sorted : ∀ module, Names.Sorted (s.closureOf module)

namespace Scope.Reflects

variable {s : Scope} {ns : Namespace} {known : String → Prop} {p : Position} {d : Diagnostic}
  {name : String}

/-! ### Names -/

theorem misses_resolveQualified (h : s.Reflects ns known) {target : String}
    (hd : s.resolveQualified p.module target name p.text p.location = .error d) :
    ns.Misses known p (.named (some target) name) d := by
  simp only [resolveQualified] at hd
  split at hd
  · next hs =>
    split at hd
    · cases hd
    · next hmissing =>
      cases hd
      exact .absent (h.sees_iff.1 hs) fun hdecl => hmissing ((h.declares _).2 hdecl)
  · next hs =>
    have hhidden := fun hvisible => hs (h.sees_iff.2 hvisible)
    split at hd
    · next hk =>
      cases hd
      exact .unimported hhidden ((h.known target).1 hk)
    · next hk =>
      cases hd
      exact .unknown hhidden fun hdeclared => hk ((h.known target).2 hdeclared)

/-- The candidates for a name are in the order of their modules. -/
theorem pairwise_candidates (h : s.Reflects ns known) (module name : String) :
    (s.candidates module name).Pairwise fun a b => a.module < b.module :=
  (List.Pairwise.map (TypeKey.mk · name) (fun _ _ hlt => hlt) ((h.sorted module).filter _)).filter _

theorem misses_resolveUnqualified (h : s.Reflects ns known)
    (hd : s.resolveUnqualified p.module name p.text p.location = .error d) :
    ns.Misses known p (.named none name) d := by
  simp only [resolveUnqualified] at hd
  split at hd
  · cases hd
  next hown =>
  have hmissing : ¬ ns.declares ⟨p.module, name⟩ := fun hdecl => hown ((h.declares _).2 hdecl)
  have hcomplete : ∀ k, k ∈ s.candidates p.module name ↔
      k.name = name ∧ ns.reaches p.module k.module ∧ ns.declares k := fun k => by
    rw [h.mem_candidates]
    constructor
    · rintro ⟨hr, -, hn, hdecl⟩
      exact ⟨hn, hr, hdecl⟩
    · rintro ⟨rfl, hr, hdecl⟩
      exact ⟨hr, fun heq => hmissing (heq ▸ hdecl), rfl, hdecl⟩
  split at hd
  · next hnil =>
    cases hd
    refine .nowhere hmissing fun target hr hdecl => ?_
    have hmem := (hcomplete ⟨target, name⟩).2 ⟨rfl, hr, hdecl⟩
    rw [hnil] at hmem
    cases hmem
  · cases hd
  · next hne hsingle =>
    cases hd
    refine .ambiguous hmissing hcomplete (h.pairwise_candidates p.module name) ?_
    rcases hc : s.candidates p.module name with _ | ⟨k, _ | ⟨l, ks⟩⟩
    · exact absurd hc hne
    · exact absurd hc (hsingle k)
    · simp

/-! ### Texts -/

/-- **What is not resolved denotes nothing, for the reason that is given** — by recursion on the
expression. -/
theorem misses_resolve (h : s.Reflects ns known) {e : TypeExpr}
    (hd : s.resolve p.module e p.text p.location = .error d) : ns.Misses known p e d := by
  induction e with
  | primitive t => cases hd
  | named q name =>
    cases q with
    | none => exact h.misses_resolveUnqualified (map_eq_error_iff.1 hd)
    | some target => exact h.misses_resolveQualified (map_eq_error_iff.1 hd)
  | sequence e ih => exact .sequence (ih (map_eq_error_iff.1 hd))
  | set e ih => exact .set (ih (map_eq_error_iff.1 hd))
  | map e ih => exact .map (ih (map_eq_error_iff.1 hd))

theorem writes_iff (h : s.Reflects ns known) {t : DataType} :
    s.resolveSpelling p.module p.text p.location = .ok t ↔ ns.Writes p.module p.text t :=
  h.resolveSpelling_iff

/-- A text that is not resolved is malformed or denotes nothing. -/
theorem faults_resolveSpelling (h : s.Reflects ns known)
    (hd : s.resolveSpelling p.module p.text p.location = .error d) :
    ns.Faults known p d ∧ ∀ t, ¬ ns.Writes p.module p.text t := by
  refine ⟨?_, fun t ht => ?_⟩
  · unfold resolveSpelling at hd
    split at hd
    · next hparse => cases hd; exact .malformed hparse
    · next e hparse => exact .unbound hparse (h.misses_resolve hd)
  · rw [h.writes_iff.2 ht] at hd
    cases hd

/-! ### Positions -/

theorem reports_parent (h : s.Reflects ns known) {kind : DeclKind} (hrole : p.role = .parent kind) :
    ns.Reports known p (failure? (s.resolveParent p.module p.text p.location kind)) := by
  have hparent : ∀ k, s.resolveParent p.module p.text p.location kind = .ok k ↔
      ns.Writes p.module p.text (.reference k) ∧ ns.kind k kind := fun k => h.resolveParent_iff
  have hsucceeds : ns.Succeeds p ↔
      ∃ k, s.resolveParent p.module p.text p.location kind = .ok k := by
    simp only [Namespace.Succeeds, hrole, hparent]
  cases hr : s.resolveParent p.module p.text p.location kind with
  | ok k => exact hsucceeds.2 ⟨k, hr⟩
  | error d =>
    refine ⟨fun hs => ?_, ?_⟩
    · obtain ⟨k, hk⟩ := hsucceeds.1 hs
      cases hr.symm.trans hk
    · unfold resolveParent at hr
      split at hr
      · next hd => cases hr; exact (h.faults_resolveSpelling hd).1
      · next k hk =>
        split at hr
        · cases hr
        · next hkind =>
          cases hr
          refine .kindMismatch hrole (h.writes_iff.1 hk) fun k' heq hk' => hkind ?_
          cases heq
          exact (h.kind k kind).2 hk'
      · next t hother ht =>
        cases hr
        exact .kindMismatch hrole (h.writes_iff.1 ht) fun k heq => absurd heq (hother k)

theorem reports_value (h : s.Reflects ns known) (hrole : p.role = .value) :
    ns.Reports known p (s.check p) := by
  have hsucceeds : ns.Succeeds p ↔ ∃ t, ns.Writes p.module p.text t ∧ t.isVoid = false := by
    simp only [Namespace.Succeeds, hrole]
  simp only [check, hrole]
  cases hr : s.resolveSpelling p.module p.text p.location with
  | error d =>
    obtain ⟨hfault, hnone⟩ := h.faults_resolveSpelling hr
    refine ⟨fun hs => ?_, hfault⟩
    obtain ⟨t, ht, -⟩ := hsucceeds.1 hs
    exact hnone t ht
  | ok t =>
    have ht := h.writes_iff.1 hr
    simp only
    split
    · next hv =>
      refine ⟨fun hs => ?_, .void hrole ht hv⟩
      obtain ⟨u, hu, hvalue⟩ := hsucceeds.1 hs
      rw [ht.unique hu, hvalue] at hv
      cases hv
    · next hv => exact hsucceeds.2 ⟨t, ht, by simpa using hv⟩

theorem reports_result (h : s.Reflects ns known) (hrole : p.role = .result) :
    ns.Reports known p (failure? (s.resolveSpelling p.module p.text p.location)) := by
  have hsucceeds : ns.Succeeds p ↔ ∃ t, ns.Writes p.module p.text t := by
    simp only [Namespace.Succeeds, hrole]
  cases hr : s.resolveSpelling p.module p.text p.location with
  | ok t => exact hsucceeds.2 ⟨t, h.writes_iff.1 hr⟩
  | error d =>
    obtain ⟨hfault, hnone⟩ := h.faults_resolveSpelling hr
    refine ⟨fun hs => ?_, hfault⟩
    obtain ⟨t, ht⟩ := hsucceeds.1 hs
    exact hnone t ht

/-- **Nothing is reported at a position that succeeds, and otherwise the reason why it does not.**
-/
theorem reports_check (h : s.Reflects ns known) (p : Position) :
    ns.Reports known p (s.check p) := by
  cases hrole : p.role with
  | parent kind =>
    simp only [check, hrole]
    exact h.reports_parent hrole
  | value => exact h.reports_value hrole
  | result =>
    simp only [check, hrole]
    exact h.reports_result hrole

theorem check_eq_none_iff (h : s.Reflects ns known) : s.check p = none ↔ ns.Succeeds p := by
  have hp := h.reports_check p
  cases hc : s.check p with
  | none => rw [hc] at hp; exact iff_of_true rfl hp
  | some d => rw [hc] at hp; exact iff_of_false nofun hp.1

/-- **A well-formed declaration is built exactly when all its positions succeed.** -/
theorem exists_buildType_iff (h : s.Reflects ns known) {module : String} {draft : DeclDraft}
    (hd : draft.decl.problems = []) : (∃ t, s.buildType module draft = .ok t) ↔
      ∀ p ∈ draft.decl.positions module, ns.Succeeds p := by
  have hfailed : (s.buildBody module draft).2.2 = [] ↔
      ∀ p ∈ draft.decl.positions module, ns.Succeeds p := by
    rw [s.failures_buildBody module hd, List.filterMap_eq_nil_iff]
    exact forall₂_congr fun p _ => h.check_eq_none_iff
  rw [← hfailed, buildType]
  by_cases hf : (s.buildBody module draft).2.2 = [] <;> simp [hf]

end Scope.Reflects

end InterfaceGen
