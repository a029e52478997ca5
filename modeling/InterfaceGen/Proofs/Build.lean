import InterfaceGen.Proofs.Binding

/-!
# Proofs/Build — a declaration is built exactly when it is resolvable

In a scope that implements a namespace, building a well-formed declaration succeeds if and only if
the declaration is resolvable there, and what is built binds it. The proof goes position by
position: a list of positions fails nowhere exactly when each position succeeds. Main statements:
`Scope.Implements.buildType_isOk_iff` and `Scope.Implements.bindsBody_buildType`.
-/

namespace InterfaceGen

/-! ## Results beside failures -/

section Results

variable {α β : Type} {f : α → Except Diagnostic β}

theorem mem_successes {results : List (Except Diagnostic α)} {a : α} :
    a ∈ successes results ↔ .ok a ∈ results := by
  simp only [successes, List.mem_filterMap]
  constructor
  · rintro ⟨r, hr, heq⟩
    cases r with
    | ok b => cases heq; exact hr
    | error d => cases heq
  · exact fun h => ⟨_, h, rfl⟩

theorem successes_append (as bs : List (Except Diagnostic α)) :
    successes (as ++ bs) = successes as ++ successes bs := List.filterMap_append

/-- What holds between any two results that are values holds between any two successes. -/
theorem pairwise_successes {r : α → α → Prop} {results : List (Except Diagnostic α)}
    (h : results.Pairwise fun x y => ∀ a b, x = .ok a → y = .ok b → r a b) :
    (successes results).Pairwise r := by
  refine List.Pairwise.filterMap _ (fun x y hxy a ha b hb => ?_) h
  cases x with
  | error d => cases ha
  | ok x =>
    cases y with
    | error d => cases hb
    | ok y => cases ha; cases hb; exact hxy _ _ rfl rfl

/-- **Nothing fails exactly when everything succeeds.** -/
theorem failures_map_eq_nil_iff {as : List α} :
    failures (as.map f) = [] ↔ ∀ a ∈ as, ∃ b, f a = .ok b := by
  simp only [failures, List.filterMap_map, List.filterMap_eq_nil_iff, Function.comp_apply]
  refine forall₂_congr fun a _ => ?_
  cases f a with
  | ok b => simp
  | error d => simp

/-- If nothing fails, the successes are the results, one for each item. -/
theorem forall₂_successes {as : List α} (h : failures (as.map f) = []) :
    List.Forall₂ (fun a b => f a = .ok b) as (successes (as.map f)) := by
  have heq := failures_eq_nil_iff.1 h
  rw [← List.forall₂_map_left_iff (f := f) (R := fun r b => r = .ok b)]
  nth_rewrite 1 [heq]
  rw [List.forall₂_map_left_iff]
  exact List.forall₂_same.2 fun _ _ => rfl

theorem failures_optional_eq_nil_iff {o : Option α} :
    failures (o.map f).toList = [] ↔ ∀ a, o = some a → ∃ b, f a = .ok b := by
  cases o with
  | none => simp [failures]
  | some a => simpa using (failures_map_eq_nil_iff : failures ([a].map f) = [] ↔ _)

/-- A list of members fails nowhere exactly when each member does not. -/
theorem forall₂_members {build : α → β × List Diagnostic} {binds : α → β → Prop} {as : List α}
    (h : ∀ a, (build a).2 = [] → binds a (build a).1)
    (hclean : (as.map build).flatMap (·.2) = []) :
    List.Forall₂ binds as ((as.map build).map (·.1)) := by
  rw [List.flatMap_eq_nil_iff] at hclean
  rw [List.map_map, List.forall₂_map_right_iff]
  exact List.forall₂_same.2 fun a ha => h a (hclean _ (List.mem_map_of_mem ha))

end Results

/-- A well-formed enumeration extends nothing and has no properties. -/
theorem bare_of_enum {c : ComplexTypeDecl} (hc : c.format = .enum)
    (hbody : (Declaration.complex c).bodyProblems = []) : c.parent = none ∧ c.properties = [] := by
  simp only [Declaration.bodyProblems, ComplexTypeDecl.problems, hc,
    ComplexTypeDecl.enumProblems, List.append_eq_nil_iff] at hbody
  simpa [and_comm] using hbody.1.2

namespace Scope

variable {s : Scope} {module : String} {draft : DeclDraft} {t : TypeDef}

/-! ## Built types -/

/-- What a declaration is built to, when nothing failed. -/
theorem buildType_eq_ok (ht : s.buildType module draft = .ok t) :
    (s.buildBody module draft).2.2 = [] ∧ t = ⟨draft.decl.name, module, draft.origin,
      (s.buildBody module draft).1, (s.buildBody module draft).2.1⟩ := by
  simp only [buildType] at ht
  split at ht
  · next hf =>
    cases ht
    exact ⟨List.isEmpty_iff.1 hf, rfl⟩
  · cases ht

/-- The events of a built type are its own, and have its origin. -/
theorem events_buildType (ht : s.buildType module draft = .ok t) :
    ∀ e ∈ t.events, e.owner = t.key ∧ e.origin = t.origin := by
  obtain ⟨-, rfl⟩ := buildType_eq_ok ht
  obtain ⟨decl, path, origin, wellFormed⟩ := draft
  intro e he
  cases decl with
  | «alias» a => cases he
  | complex c =>
    simp only [TypeDef.events, buildBody] at he
    cases hc : c.format <;> simp [hc] at he
  | remote r =>
    simp only [TypeDef.events, buildBody, List.map_map, List.mem_map] at he
    obtain ⟨d, -, rfl⟩ := he
    exact ⟨rfl, rfl⟩

namespace Implements

variable {ns : Namespace} {owner location : String} {key : TypeKey}

/-! ## Positions -/

theorem buildField_isOk_iff (h : s.Implements ns) {f : FieldDecl} :
    (∃ b, s.buildField module owner f = .ok b) ↔
      ∃ t, ns.Writes module f.type t ∧ t.isVoid = false := by
  have hspelling : ∀ t, s.resolveSpelling module f.type (owner ++ "." ++ f.name) = .ok t ↔
      ns.Writes module f.type t := fun t => h.resolveSpelling_iff
  simp only [buildField, ← hspelling]
  cases s.resolveSpelling module f.type (owner ++ "." ++ f.name) with
  | error d => simp
  | ok t => cases hv : t.isVoid <;> simp [hv]

theorem bindsField_buildField (h : s.Implements ns) {f : FieldDecl} {b : Field}
    (hb : s.buildField module owner f = .ok b) : ns.BindsField module f b := by
  simp only [buildField] at hb
  split at hb
  · cases hb
  · next t ht =>
    split at hb
    · cases hb
    · next hv =>
      cases hb
      exact ⟨rfl, h.resolveSpelling_iff.1 ht, by simpa using hv⟩

theorem failures_buildFields_eq_nil_iff (h : s.Implements ns) {fs : List FieldDecl} :
    failures (s.buildFields module owner fs) = [] ↔
      ∀ f ∈ fs, ∃ t, ns.Writes module f.type t ∧ t.isVoid = false := by
  rw [buildFields, failures_map_eq_nil_iff]
  exact forall₂_congr fun f _ => h.buildField_isOk_iff

theorem bindsFields_buildFields (h : s.Implements ns) {fs : List FieldDecl}
    (hclean : failures (s.buildFields module owner fs) = []) :
    ns.BindsFields module fs (successes (s.buildFields module owner fs)) :=
  (forall₂_successes hclean).imp fun _ _ => h.bindsField_buildField

theorem failures_buildParent_eq_nil_iff (h : s.Implements ns) {kind : DeclKind}
    {parent : Option String} : failures (s.buildParent module owner kind parent).toList = [] ↔
      ∀ p, parent = some p → ∃ k, ns.Writes module p (.reference k) ∧ ns.kind k kind := by
  rw [buildParent, failures_optional_eq_nil_iff]
  exact forall₂_congr fun p _ => exists_congr fun k => h.resolveParent_iff

theorem bindsParent_buildParent (h : s.Implements ns) {kind : DeclKind} {parent : Option String}
    (hclean : failures (s.buildParent module owner kind parent).toList = []) :
    Option.Rel (ns.BindsParent module kind) parent
      (success? (s.buildParent module owner kind parent)) := by
  cases parent with
  | none => exact .none
  | some p =>
    obtain ⟨k, hk⟩ := failures_optional_eq_nil_iff.1 hclean p rfl
    obtain ⟨htype, hkind⟩ := h.resolveParent_iff.1 hk
    simp only [buildParent, Option.map_some, success?, hk]
    exact .some ⟨htype, hkind⟩

/-! ## Members -/

theorem buildMethod_clean_iff (h : s.Implements ns) {m : MethodDecl} :
    (s.buildMethod module owner m).2 = [] ↔
      (∀ f ∈ m.params, ∃ t, ns.Writes module f.type t ∧ t.isVoid = false) ∧
        ∀ r, m.result = some r → ∃ t, ns.Writes module r.type t := by
  simp only [buildMethod, List.append_eq_nil_iff, h.failures_buildFields_eq_nil_iff, buildReturn,
    failures_optional_eq_nil_iff, h.resolveSpelling_iff]

/-- A return that is void is no type, and any other is what is written. -/
theorem bindsReturn_buildReturn (h : s.Implements ns) {m : MethodDecl}
    (hclean : failures (s.buildReturn module location m).toList = []) :
    ns.BindsReturn module m.result
      ((success? (s.buildReturn module location m)).filter (!·.isVoid)) := by
  unfold buildReturn at hclean ⊢
  cases hr : m.result with
  | none => exact .missing
  | some r =>
    obtain ⟨t, ht⟩ := failures_optional_eq_nil_iff.1 hclean r hr
    simp only [Option.map_some, success?, ht]
    have hwrites := h.resolveSpelling_iff.1 ht
    cases hv : t.isVoid with
    | false =>
      simp only [Option.filter_some, hv, Bool.not_false, if_true]
      exact .value hwrites hv
    | true =>
      have hvoid : t = .primitive .void := by
        cases t with
        | primitive p => cases p <;> simp_all [DataType.isVoid]
        | _ => cases hv
      subst hvoid
      exact .void hwrites

theorem bindsMethod_buildMethod (h : s.Implements ns) {m : MethodDecl}
    (hclean : (s.buildMethod module owner m).2 = []) :
    ns.BindsMethod module m (s.buildMethod module owner m).1 := by
  obtain ⟨hparams, hresult⟩ := List.append_eq_nil_iff.1 hclean
  exact ⟨rfl, h.bindsFields_buildFields hparams, h.bindsReturn_buildReturn hresult⟩

theorem bindsEvent_buildEvent (h : s.Implements ns) {e : EventDecl} {origin : Origin}
    (hclean : (s.buildEvent key origin owner e).2 = []) :
    ns.BindsEvent key e (s.buildEvent key origin owner e).1 :=
  ⟨rfl, rfl, h.bindsFields_buildFields hclean⟩

/-! ## Declarations -/

/-- **A well-formed declaration fails nowhere exactly when it is resolvable.** -/
theorem buildBody_clean_iff (h : s.Implements ns) (hd : draft.decl.problems = []) :
    (s.buildBody module draft).2.2 = [] ↔ ns.Resolvable module draft.decl := by
  obtain ⟨decl, path, origin, wellFormed⟩ := draft
  have hbody := (List.append_eq_nil_iff.1 hd).2
  cases decl with
  | «alias» a =>
    refine iff_of_true rfl ⟨fun _ hp => ?_, fun _ hf => ?_, fun _ hr => ?_⟩
    · cases hp
    · cases hf
    · cases hr
  | complex c =>
    cases hc : c.format with
    | enum =>
      obtain ⟨hparent, hproperties⟩ := bare_of_enum hc hbody
      simp only [buildBody, hc]
      refine iff_of_true trivial ⟨fun p hp => ?_, fun f hf => ?_, fun _ hr => ?_⟩
      · cases hparent.symm.trans hp
      · simp [Declaration.fields, hproperties] at hf
      · cases hr
    | register =>
      simp only [buildBody, hc, List.append_eq_nil_iff, h.failures_buildParent_eq_nil_iff,
        h.failures_buildFields_eq_nil_iff]
      have hkind : (Declaration.complex c).kind = .register := by simp [Declaration.kind, hc]
      constructor
      · rintro ⟨hparent, hfields⟩
        refine ⟨hkind ▸ hparent, hfields, fun _ hr => ?_⟩
        cases hr
      · exact fun hres => ⟨hkind ▸ hres.parent, hres.fields⟩
  | remote r =>
    have hctor : ((r.constructor.map (s.buildConstructor module (module ++ "." ++ r.name))).map
        (·.2)).getD [] = [] ↔ ∀ c, r.constructor = some c → ∀ f ∈ c.params,
          ∃ t, ns.Writes module f.type t ∧ t.isVoid = false := by
      cases r.constructor with
      | none => simp
      | some c => simpa [buildConstructor] using h.failures_buildFields_eq_nil_iff
    simp only [buildBody, Declaration.name, List.append_eq_nil_iff, hctor,
      h.failures_buildParent_eq_nil_iff, List.flatMap_eq_nil_iff, List.forall_mem_map,
      h.buildMethod_clean_iff, buildEvent, h.failures_buildFields_eq_nil_iff]
    constructor
    · rintro ⟨⟨⟨hparent, hcreate⟩, hcall⟩, hemit⟩
      exact ⟨hparent,
        Declaration.forall_fields_remote_iff.2 ⟨hcreate, fun m hm => (hcall m hm).1, hemit⟩,
        Declaration.forall_returns_remote_iff.2 fun m hm => (hcall m hm).2⟩
    · intro hres
      obtain ⟨hcreate, hcall, hemit⟩ := Declaration.forall_fields_remote_iff.1 hres.fields
      have hreturns := Declaration.forall_returns_remote_iff.1 hres.returns
      exact ⟨⟨⟨hres.parent, hcreate⟩, fun m hm => ⟨hcall m hm, hreturns m hm⟩⟩, hemit⟩

theorem buildType_isOk_iff (h : s.Implements ns) (hd : draft.decl.problems = []) :
    (∃ t, s.buildType module draft = .ok t) ↔ ns.Resolvable module draft.decl := by
  rw [← h.buildBody_clean_iff hd]
  unfold buildType
  by_cases hf : (s.buildBody module draft).2.2 = [] <;> simp [hf]

/-- **What is built binds the declaration.** -/
theorem bindsBody_buildType (h : s.Implements ns) (hd : draft.decl.problems = [])
    (ht : s.buildType module draft = .ok t) :
    ns.BindsBody ⟨module, draft.decl.name⟩ draft.decl t.body := by
  obtain ⟨hclean, rfl⟩ := buildType_eq_ok ht
  obtain ⟨decl, path, origin, wellFormed⟩ := draft
  have hbody := (List.append_eq_nil_iff.1 hd).2
  cases decl with
  | «alias» a =>
    simp only [Declaration.bodyProblems, AliasDecl.problems] at hbody
    simp only [buildBody]
    cases hp : Primitive.ofName? (Text.trimmed a.type) with
    | none => simp [hp] at hbody
    | some p =>
      refine .alias hp fun hv => ?_
      obtain rfl : p = .void := hv
      simp [hp] at hbody
  | complex c =>
    cases hc : c.format with
    | enum =>
      obtain ⟨hparent, hproperties⟩ := bare_of_enum hc hbody
      simp only [buildBody, hc]
      exact .enum hc hparent hproperties
    | register =>
      simp only [buildBody, hc, List.append_eq_nil_iff] at hclean ⊢
      exact .complex hc (h.bindsParent_buildParent hclean.1) (h.bindsFields_buildFields hclean.2)
  | remote r =>
    simp only [buildBody, List.append_eq_nil_iff] at hclean ⊢
    obtain ⟨⟨⟨hparent, hcreate⟩, hcall⟩, hemit⟩ := hclean
    refine .remote (h.bindsParent_buildParent hparent) ?_
      (forall₂_members (fun m hm => h.bindsMethod_buildMethod hm) hcall)
      (forall₂_members (fun e he => h.bindsEvent_buildEvent he) hemit)
    cases hc : r.constructor with
    | none => exact .none
    | some c =>
      rw [hc] at hcreate
      exact .some (h.bindsFields_buildFields hcreate)

end Implements

end Scope

end InterfaceGen
