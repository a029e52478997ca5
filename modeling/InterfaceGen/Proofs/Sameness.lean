import InterfaceGen.Proofs.Document

/-!
# Proofs/Sameness — declarations that are the same are built to the same type

Two types are the same if they differ in nothing but the spelling of their default values, which
compare as JSON. Building a declaration reads its names and its written types and copies the rest;
so declarations that are the same are built to types that are, or fail in the same way. Main
statement: `Scope.buildType_same`.
-/

namespace InterfaceGen

/-! ## Equality of types -/

/-- Whether two fields are the same; default values compare as JSON. -/
def Field.same (a b : Field) : Bool :=
  a.name = b.name && a.doc = b.doc && a.dataType = b.dataType && a.optional = b.optional &&
    Json.sameOption a.defaultValue b.defaultValue

def Operation.same (a b : Operation) : Bool :=
  a.name = b.name && a.doc = b.doc && sameList Field.same a.params b.params &&
    a.returnType = b.returnType && a.returnDoc = b.returnDoc

def Constructor.same (a b : Constructor) : Bool :=
  a.doc = b.doc && sameList Field.same a.params b.params

def Event.same (a b : Event) : Bool :=
  a.name = b.name && a.doc = b.doc && a.owner = b.owner && a.origin = b.origin &&
    sameList Field.same a.properties b.properties

/-- Whether two types are the same in what they are. -/
def TypeBody.same : TypeBody → TypeBody → Bool
  | .alias a, .alias b => a = b
  | .enum a, .enum b => a = b
  | .complex p as, .complex q bs => p = q && sameList Field.same as bs
  | .remote p x c as es, .remote q y d bs fs =>
    p = q && x = y && sameOptional Constructor.same c d && sameList Operation.same as bs &&
      sameList Event.same es fs
  | _, _ => false

/-- Whether two types are the same, their origins included. -/
def TypeDef.same (a b : TypeDef) : Bool :=
  a.name = b.name && a.module = b.module && a.origin = b.origin && a.doc = b.doc &&
    a.body.same b.body

namespace TypeDef

variable {a b : TypeDef}

theorem same_iff : a.same b = true ↔ a.name = b.name ∧ a.module = b.module ∧
    a.origin = b.origin ∧ a.doc = b.doc ∧ a.body.same b.body = true := by
  simp [same, and_assoc]

theorem key_of_same (h : a.same b = true) : a.key = b.key := by
  obtain ⟨hname, hmodule, -⟩ := same_iff.1 h
  rw [key, key, hname, hmodule]

/-- Types that are the same extend the same type. -/
theorem parent_of_same (h : a.same b = true) : a.parent = b.parent := by
  obtain ⟨-, -, -, -, hbody⟩ := same_iff.1 h
  unfold parent
  cases ha : a.body <;> cases hb : b.body <;> simp_all [TypeBody.same]

end TypeDef

/-! ## Results that are the same -/

/-- Two results are the same failure, or values that agree. -/
inductive SameResult {ε α : Type} (r : α → α → Prop) : Except ε α → Except ε α → Prop where
  | ok {a b : α} (h : r a b) : SameResult r (.ok a) (.ok b)
  | error (e : ε) : SameResult r (.error e) (.error e)

/-- Results that are the same one by one have the same failures, and values that agree. -/
theorem forall₂_successes_of_same {α : Type} {r : α → α → Prop}
    {as bs : List (Except Diagnostic α)} (h : List.Forall₂ (SameResult r) as bs) :
    List.Forall₂ r (successes as) (successes bs) ∧ failures as = failures bs := by
  induction h with
  | nil => exact ⟨.nil, rfl⟩
  | cons hab _ ih =>
    cases hab with
    | ok hr => exact ⟨.cons hr ih.1, ih.2⟩
    | error e => exact ⟨ih.1, congrArg (e :: ·) ih.2⟩

namespace Scope

variable (s : Scope) (module owner : String)

/-! ## Members -/

theorem buildField_same {f g : FieldDecl} (h : f.same g = true) :
    SameResult (Field.same · · = true) (s.buildField module owner f)
      (s.buildField module owner g) := by
  obtain ⟨hname, hdoc, htype, hopt, hdefault⟩ := FieldDecl.same_iff.1 h
  simp only [buildField, hname, htype]
  cases s.resolveSpelling module g.type (owner ++ "." ++ g.name) with
  | error d => exact .error d
  | ok t =>
    simp only
    split
    · exact .error _
    · exact .ok (by simp [Field.same, hdoc, hopt, hdefault])

/-- Fields that are the same are built to fields that are, with the same failures. -/
theorem buildFields_same {fs gs : List FieldDecl}
    (h : List.Forall₂ (FieldDecl.same · · = true) fs gs) :
    List.Forall₂ (Field.same · · = true) (successes (s.buildFields module owner fs))
        (successes (s.buildFields module owner gs)) ∧
      failures (s.buildFields module owner fs) = failures (s.buildFields module owner gs) := by
  refine forall₂_successes_of_same ?_
  rw [buildFields, buildFields, List.forall₂_map_left_iff, List.forall₂_map_right_iff]
  exact h.imp fun _ _ => buildField_same s module owner

theorem buildConstructor_same {c d : ConstructorDecl} (h : c.same d = true) :
    (s.buildConstructor module owner c).1.same (s.buildConstructor module owner d).1 = true ∧
      (s.buildConstructor module owner c).2 = (s.buildConstructor module owner d).2 := by
  obtain ⟨hdoc, hparams⟩ := ConstructorDecl.same_iff.1 h
  obtain ⟨hbuilt, hfailed⟩ := buildFields_same s module (owner ++ " constructor") hparams
  refine ⟨?_, hfailed⟩
  simp only [buildConstructor, Constructor.same, hdoc, decide_true, Bool.true_and]
  exact sameList_iff.2 hbuilt

theorem buildMethod_same {m n : MethodDecl} (h : m.same n = true) :
    (s.buildMethod module owner m).1.same (s.buildMethod module owner n).1 = true ∧
      (s.buildMethod module owner m).2 = (s.buildMethod module owner n).2 := by
  obtain ⟨hname, hdoc, hparams, hresult⟩ := MethodDecl.same_iff.1 h
  obtain ⟨hbuilt, hfailed⟩ := buildFields_same s module (owner ++ "." ++ n.name) hparams
  simp only [buildMethod, buildReturn, Operation.same, hname, hdoc, hresult, hfailed, decide_true,
    Bool.true_and, Bool.and_true, and_true]
  exact sameList_iff.2 hbuilt

theorem buildEvent_same (key : TypeKey) (origin : Origin) {e f : EventDecl}
    (h : e.same f = true) :
    (s.buildEvent key origin owner e).1.same (s.buildEvent key origin owner f).1 = true ∧
      (s.buildEvent key origin owner e).2 = (s.buildEvent key origin owner f).2 := by
  obtain ⟨hname, hdoc, hproperties⟩ := EventDecl.same_iff.1 h
  obtain ⟨hbuilt, hfailed⟩ := buildFields_same s key.module (owner ++ "." ++ f.name) hproperties
  simp only [buildEvent, Event.same, hname, hdoc, hfailed, decide_true, Bool.true_and, and_true]
  exact sameList_iff.2 hbuilt

/-- Members that are the same one by one are built to members that are, with the same failures. -/
theorem members_same {α β : Type} {declared : α → α → Bool} {built : β → β → Bool}
    (build : α → β × List Diagnostic) {as bs : List α}
    (h : ∀ a b, declared a b = true →
      built (build a).1 (build b).1 = true ∧ (build a).2 = (build b).2)
    (hab : List.Forall₂ (declared · · = true) as bs) :
    sameList built ((as.map build).map (·.1)) ((bs.map build).map (·.1)) = true ∧
      (as.map build).flatMap (·.2) = (bs.map build).flatMap (·.2) := by
  induction hab with
  | nil => exact ⟨rfl, rfl⟩
  | cons hxy _ ih =>
    obtain ⟨hsame, hfailed⟩ := h _ _ hxy
    simp only [List.map_cons, List.flatMap_cons, sameList, hsame, hfailed, ih, Bool.true_and,
      and_self]

end Scope

/-! ## Declarations -/

/-- Two collected declarations are the same, from whatever files they are. -/
structure DeclDraft.Similar (a b : DeclDraft) : Prop where
  decl : a.decl.same b.decl = true
  origin : a.origin = b.origin
  wellFormed : a.wellFormed = b.wellFormed

namespace Scope

variable (s : Scope) (module : String) {a b : DeclDraft}

theorem buildBody_same (h : a.Similar b) :
    (s.buildBody module a).1 = (s.buildBody module b).1 ∧
      (s.buildBody module a).2.1.same (s.buildBody module b).2.1 = true ∧
      (s.buildBody module a).2.2 = (s.buildBody module b).2.2 := by
  obtain ⟨decl, path, origin, wellFormed⟩ := a
  obtain ⟨decl', path', origin', wellFormed'⟩ := b
  obtain ⟨hdecl, rfl, -⟩ := h
  cases decl with
  | «alias» d =>
    cases decl' with
    | «alias» e =>
      obtain rfl := Declaration.same_alias_iff.1 hdecl
      exact ⟨rfl, by simp [buildBody, TypeBody.same], rfl⟩
    | _ => simp [Declaration.same] at hdecl
  | complex d =>
    cases decl' with
    | complex e =>
      obtain ⟨hname, hdoc, hformat, hparent, hproperties, hvalues⟩ :=
        Declaration.same_complex_iff.1 hdecl
      obtain ⟨hbuilt, hfailed⟩ := buildFields_same s module (module ++ "." ++ e.name) hproperties
      simp only [buildBody, Declaration.name, hname, hdoc, hformat, hparent, hvalues]
      cases e.format with
      | enum => exact ⟨rfl, by simp [TypeBody.same], rfl⟩
      | register => exact ⟨rfl, by simp [TypeBody.same, sameList_iff, hbuilt], by rw [hfailed]⟩
    | _ => simp [Declaration.same] at hdecl
  | remote d =>
    cases decl' with
    | remote e =>
      obtain ⟨hname, hdoc, hparent, habs, hctor, hmethods, hevents⟩ :=
        Declaration.same_remote_iff.1 hdecl
      obtain ⟨hcall, hcalled⟩ := members_same (s.buildMethod module (module ++ "." ++ e.name))
        (fun _ _ h => buildMethod_same s module _ h) hmethods
      obtain ⟨hemit, hemitted⟩ :=
        members_same (s.buildEvent ⟨module, e.name⟩ origin (module ++ "." ++ e.name))
          (fun _ _ h => buildEvent_same s _ _ origin h) hevents
      simp only [buildBody, Declaration.name, hname, hdoc, hparent, habs, hcalled, hemitted,
        TypeBody.same, hcall, hemit, decide_true, Bool.true_and, Bool.and_true, true_and]
      generalize d.constructor = create, e.constructor = create' at hctor
      cases hctor with
      | none => exact ⟨rfl, rfl⟩
      | some hsame =>
        obtain ⟨hbuilt, hfailed⟩ :=
          buildConstructor_same s module (module ++ "." ++ e.name) hsame
        exact ⟨hbuilt, by simp only [Option.map_some, Option.getD_some, hfailed]⟩
    | _ => simp [Declaration.same] at hdecl

/-- **Declarations that are the same are built to types that are, or fail in the same way.** -/
theorem buildType_same (h : a.Similar b) :
    SameResult (TypeDef.same · · = true) (s.buildType module a) (s.buildType module b) := by
  obtain ⟨hdoc, hbody, hfailed⟩ := buildBody_same s module h
  simp only [buildType, hfailed]
  split
  · refine .ok (TypeDef.same_iff.2 ⟨?_, rfl, h.origin, hdoc, hbody⟩)
    exact Declaration.name_eq_of_same h.decl
  · exact .error _

end Scope

end InterfaceGen
