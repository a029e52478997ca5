import InterfaceGen.Model.Export
import InterfaceGen.Proofs.Build
import InterfaceGen.Proofs.Spelling

/-!
# Proofs/Rebuild — a built type is built again from the declaration it is written back as

Written back, every reference is qualified, and a qualified name needs no rule: it selects the key
it spells, as long as the key is declared and seen, which a built type ensures. So each position is
resolved to itself; only origins may differ. Main statement: `Scope.Implements.buildType_toDecl`.
-/

namespace InterfaceGen

/-! ## Other origins -/

/-- The body with its events from elsewhere. -/
def TypeBody.retag (origin : Origin) : TypeBody → TypeBody
  | .remote parent isAbstract constructor methods events =>
    .remote parent isAbstract constructor methods (events.map fun e => { e with origin := origin })
  | body => body

/-- The type, from elsewhere. -/
def TypeDef.retag (origin : Origin) (t : TypeDef) : TypeDef :=
  { t with origin := origin, body := t.body.retag origin }

/-- A primitive is written back under its name, which has no blank at an end. -/
theorem Primitive.ofName?_trimmed (p : Primitive) : ofName? (Text.trimmed p.name) = some p := by
  cases p <;> decide

namespace TypeDef

/-- Origins are not written back. -/
theorem toDecl_retag (origin : Origin) (t : TypeDef) : (t.retag origin).toDecl = t.toDecl := by
  obtain ⟨name, module, tag, doc, body⟩ := t
  cases body <;> simp [retag, TypeBody.retag, toDecl, Event.toDecl]

theorem parent_retag (origin : Origin) (t : TypeDef) : (t.retag origin).parent = t.parent := by
  obtain ⟨name, module, tag, doc, body⟩ := t
  cases body <;> rfl

end TypeDef

namespace Namespace

variable {ns : Namespace} {module text : String} {t : DataType}

/-! ## Qualified spellings -/

/-- Every declared key can be written. -/
def Named (ns : Namespace) : Prop :=
  ∀ k, ns.declares k → isModuleName k.module = true ∧ isIdentifier k.name = true

/-- **The expression of a type denotes it where its keys are seen.** -/
theorem denotes_expr
    (h : ∀ k ∈ t.references, ns.declares k ∧ (k.module = module ∨ ns.reaches module k.module)) :
    ns.Denotes module t.expr t := by
  induction t with
  | primitive p => exact .primitive p
  | reference k =>
    obtain ⟨hdeclared, hvisible⟩ := h k (List.mem_singleton.2 rfl)
    exact .named (.qualified hvisible hdeclared)
  | sequence t ih => exact .sequence (ih h)
  | set t ih => exact .set (ih h)
  | map t ih => exact .map (ih h)

/-- **What a text writes is written by its spelling too.** -/
theorem Writes.spelling (hnames : ns.Named) (h : ns.Writes module text t) :
    ns.Writes module t.spelling t := by
  have hv := h.noVoidElement
  obtain ⟨e, -, hdenotes⟩ := h
  have hvisible := hdenotes.visible
  exact ⟨t.expr, DataType.parse_spelling (fun k hk => hnames k (hvisible k hk).1) hv,
    denotes_expr hvisible⟩

end Namespace

/-! ## Results without failures -/

theorem successes_map_ok {α : Type} (as : List α) : successes (as.map .ok) = as := by
  simp [successes, List.filterMap_map]

theorem failures_map_ok {α : Type} (as : List α) :
    failures (as.map (.ok : α → Except Diagnostic α)) = [] := by
  simp [failures, List.filterMap_map]

namespace Scope.Implements

variable {s : Scope} {ns : Namespace} {module owner : String} {key : TypeKey}

/-! ## Positions -/

theorem buildField_toDecl (h : s.Implements ns) (hnames : ns.Named) {f : FieldDecl} {b : Field}
    (hb : ns.BindsField module f b) : s.buildField module owner b.toDecl = .ok b := by
  have hspelling : s.resolveSpelling module b.dataType.spelling (owner ++ "." ++ b.name) =
      .ok b.dataType := h.resolveSpelling_iff.2 (hb.type.spelling hnames)
  simp only [buildField, Field.toDecl, hspelling, hb.notVoid, Bool.false_eq_true, if_false]

theorem buildFields_toDecl (h : s.Implements ns) (hnames : ns.Named) {fs : List FieldDecl}
    {bs : List Field} (hb : ns.BindsFields module fs bs) :
    s.buildFields module owner (bs.map Field.toDecl) = bs.map .ok := by
  rw [buildFields, List.map_map]
  refine List.map_congr_left fun b hmem => ?_
  obtain ⟨f, -, hbinds⟩ := exists_of_forall₂ hb b hmem
  exact h.buildField_toDecl hnames hbinds

theorem buildParent_toDecl (h : s.Implements ns) (hnames : ns.Named) {kind : DeclKind}
    {text : Option String} {parent : Option TypeKey}
    (hb : Option.Rel (ns.BindsParent module kind) text parent) :
    s.buildParent module owner kind (parent.map (·.shown)) = parent.map .ok := by
  cases hb with
  | none => rfl
  | @some p k hbinds =>
    have hwrites := hbinds.type.spelling hnames
    rw [DataType.spelling] at hwrites
    simp only [buildParent, Option.map_some]
    rw [h.resolveParent_iff.2 ⟨hwrites, hbinds.kind⟩]

/-- A return that is void is written back only if there is a doc for it, and is void again. -/
theorem buildReturn_toDecl (h : s.Implements ns) (hnames : ns.Named) {o : Operation}
    {result : Option ReturnDecl} {location : String}
    (hb : ns.BindsReturn module result o.returnType) :
    failures (s.buildReturn module location o.toDecl).toList = [] ∧
      (success? (s.buildReturn module location o.toDecl)).filter (!·.isVoid) = o.returnType ∧
      o.toDecl.result.bind (·.doc) = o.returnDoc := by
  have hvoid : s.resolveSpelling module Primitive.void.name (location ++ " return") =
      .ok (.primitive .void) := by
    refine h.resolveSpelling_iff.2 ⟨.primitive .void, ?_, .primitive .void⟩
    exact DataType.parse_spelling (t := .primitive .void) (fun _ hk => absurd hk List.not_mem_nil)
      trivial
  obtain ⟨name, doc, params, returnType, returnDoc⟩ := o
  cases returnType with
  | none =>
    cases returnDoc with
    | none => exact ⟨rfl, rfl, rfl⟩
    | some d =>
      simp only [buildReturn, Operation.toDecl, Operation.resultDecl, Option.map_some, hvoid]
      exact ⟨rfl, rfl, rfl⟩
  | some t =>
    cases hb with
    | value type notVoid =>
      have hspelling : s.resolveSpelling module t.spelling (location ++ " return") = .ok t :=
        h.resolveSpelling_iff.2 (type.spelling hnames)
      simp only [buildReturn, Operation.toDecl, Operation.resultDecl, Option.map_some, hspelling]
      exact ⟨rfl, by simp [success?, notVoid], rfl⟩

/-! ## Members -/

theorem buildMethod_toDecl (h : s.Implements ns) (hnames : ns.Named) {m : MethodDecl}
    {o : Operation} (hb : ns.BindsMethod module m o) :
    s.buildMethod module owner o.toDecl = (o, []) := by
  have hparams : s.buildFields module (owner ++ "." ++ o.toDecl.name) o.toDecl.params =
      o.params.map .ok := h.buildFields_toDecl hnames hb.params
  have hresult : failures (s.buildReturn module (owner ++ "." ++ o.toDecl.name) o.toDecl).toList =
      [] ∧ _ := h.buildReturn_toDecl hnames hb.result
  obtain ⟨hclean, htype, hdoc⟩ := hresult
  simp only [buildMethod, hparams, hclean, htype, hdoc, successes_map_ok, failures_map_ok]
  rfl

theorem buildMethods_toDecl (h : s.Implements ns) (hnames : ns.Named) {ms : List MethodDecl}
    {os : List Operation} (hb : List.Forall₂ (ns.BindsMethod module) ms os) :
    (os.map Operation.toDecl).map (s.buildMethod module owner) = os.map fun o => (o, []) := by
  rw [List.map_map]
  refine List.map_congr_left fun o ho => ?_
  obtain ⟨m, -, hbinds⟩ := exists_of_forall₂ hb o ho
  exact h.buildMethod_toDecl hnames hbinds

theorem buildConstructor_toDecl (h : s.Implements ns) (hnames : ns.Named) {d : ConstructorDecl}
    {c : Constructor} (hb : ns.BindsFields module d.params c.params) :
    s.buildConstructor module owner c.toDecl = (c, []) := by
  have hparams : s.buildFields module (owner ++ " constructor") c.toDecl.params =
      c.params.map .ok := h.buildFields_toDecl hnames hb
  simp only [buildConstructor, hparams, successes_map_ok, failures_map_ok]
  rfl

theorem buildEvents_toDecl (h : s.Implements ns) (hnames : ns.Named) {ds : List EventDecl}
    {es : List Event} (hb : List.Forall₂ (ns.BindsEvent key) ds es) (origin : Origin) :
    (es.map Event.toDecl).map (s.buildEvent key origin owner) =
      es.map fun e => ({ e with origin := origin }, []) := by
  rw [List.map_map]
  refine List.map_congr_left fun e he => ?_
  obtain ⟨d, -, hbinds⟩ := exists_of_forall₂ hb e he
  have hproperties : s.buildFields key.module (owner ++ "." ++ e.toDecl.name) e.toDecl.properties =
      e.properties.map .ok := h.buildFields_toDecl hnames hbinds.properties
  simp only [Function.comp_apply, buildEvent, hproperties, successes_map_ok, failures_map_ok]
  rw [← hbinds.owner]
  rfl

/-! ## Types -/

/-- **A type is built again from the declaration it is written back as**, with the origin of that
declaration. -/
theorem buildType_toDecl (h : s.Implements ns) (hnames : ns.Named) {d : Declaration} {t : TypeDef}
    (hb : ns.BindsBody t.key d t.body) (path : String) (origin : Origin) (wellFormed : Bool) :
    s.buildType t.module ⟨t.toDecl, path, origin, wellFormed⟩ = .ok (t.retag origin) := by
  obtain ⟨name, module, tag, doc, body⟩ := t
  cases hb with
  | «alias» type _ =>
    simp only [buildType, TypeDef.toDecl, buildBody, Primitive.ofName?_trimmed]
    rfl
  | enum _ _ _ => rfl
  | @complex c parent properties _ extend fields =>
    have hparent : s.buildParent module (module ++ "." ++ name) .register (parent.map (·.shown)) =
        parent.map .ok := h.buildParent_toDecl hnames extend
    have hfields : s.buildFields module (module ++ "." ++ name) (properties.map Field.toDecl) =
        properties.map .ok := h.buildFields_toDecl hnames fields
    simp only [buildType, TypeDef.toDecl, buildBody, Declaration.name, hparent, hfields,
      successes_map_ok, failures_map_ok]
    cases parent <;> rfl
  | @remote r parent constructor methods events extend create call emit =>
    have hparent : s.buildParent module (module ++ "." ++ name) .remote (parent.map (·.shown)) =
        parent.map .ok := h.buildParent_toDecl hnames extend
    have hmethods : (methods.map Operation.toDecl).map
        (s.buildMethod module (module ++ "." ++ name)) = methods.map fun o => (o, []) :=
      h.buildMethods_toDecl hnames call
    have hevents : (events.map Event.toDecl).map
        (s.buildEvent ⟨module, name⟩ origin (module ++ "." ++ name)) =
          events.map fun e => ({ e with origin := origin }, []) :=
      h.buildEvents_toDecl hnames emit origin
    have hconstructor : (constructor.map Constructor.toDecl).map
        (s.buildConstructor module (module ++ "." ++ name)) = constructor.map fun c => (c, []) := by
      cases constructor with
      | none => rfl
      | some c =>
        generalize r.constructor = declared at create
        cases create with
        | some hparams => exact congrArg some (h.buildConstructor_toDecl hnames hparams)
    simp only [buildType, TypeDef.toDecl, buildBody, Declaration.name, hparent, hmethods, hevents,
      hconstructor]
    have hclean : failures (parent.map .ok : Option (Except Diagnostic TypeKey)).toList = [] := by
      cases parent <;> rfl
    have hkept : success? (parent.map .ok : Option (Except Diagnostic TypeKey)) = parent := by
      cases parent <;> rfl
    have hnone : (constructor.map fun _ => ([] : List Diagnostic)).getD [] = [] := by
      cases constructor <;> rfl
    simp [hclean, hkept, hnone, Function.comp_def, TypeDef.retag, TypeBody.retag]

end Scope.Implements

end InterfaceGen
