import InterfaceGen.Model.Basic
import InterfaceGen.Proofs.Document
import InterfaceGen.Proofs.Resolution

/-!
# Proofs/Binding — a built type is its declaration with every written type bound

`Namespace.BindsBody` follows a declaration and a type side by side: the same members in the same
order, and at each position the type that the namespace gives to the text. `Namespace.Resolvable`
says of a declaration alone that there is such a type. Both read nothing but names and written
types, so they carry over between declarations that are the same. Main statements:
`BindsBody.of_same` and `Resolvable.of_same`.
-/

namespace InterfaceGen

namespace Namespace

/-! ## Bound positions -/

/-- The field has the declared name and the type that is written, which is not void. -/
structure BindsField (ns : Namespace) (module : String) (f : FieldDecl) (b : Field) : Prop where
  name : b.name = f.name
  type : ns.Writes module f.type b.dataType
  notVoid : b.dataType.isVoid = false

/-- The type a method returns is the written one. A void return is no type. -/
inductive BindsReturn (ns : Namespace) (module : String) :
    Option ReturnDecl → Option DataType → Prop where
  | missing : BindsReturn ns module none none
  | void {r : ReturnDecl} (type : ns.Writes module r.type (.primitive .void)) :
      BindsReturn ns module (some r) none
  | value {r : ReturnDecl} {t : DataType} (type : ns.Writes module r.type t)
      (notVoid : t.isVoid = false) : BindsReturn ns module (some r) (some t)

/-- The parent is the written one, and of the expected kind. -/
structure BindsParent (ns : Namespace) (module : String) (expected : DeclKind) (text : String)
    (k : TypeKey) : Prop where
  type : ns.Writes module text (.reference k)
  kind : ns.kind k expected

abbrev BindsFields (ns : Namespace) (module : String) : List FieldDecl → List Field → Prop :=
  List.Forall₂ (ns.BindsField module)

structure BindsMethod (ns : Namespace) (module : String) (m : MethodDecl) (o : Operation) :
    Prop where
  name : o.name = m.name
  params : ns.BindsFields module m.params o.params
  result : ns.BindsReturn module m.result o.returnType

/-- An event also knows the type that declares it. -/
structure BindsEvent (ns : Namespace) (key : TypeKey) (e : EventDecl) (b : Event) : Prop where
  name : b.name = e.name
  owner : b.owner = key
  properties : ns.BindsFields key.module e.properties b.properties

/-- The body is that of the declaration with the key, every written type bound. -/
inductive BindsBody (ns : Namespace) (key : TypeKey) : Declaration → TypeBody → Prop where
  | alias {a : AliasDecl} {target : Primitive}
      (type : Primitive.ofName? (Text.trimmed a.type) = some target) (notVoid : target ≠ .void) :
      BindsBody ns key (.alias a) (.alias target)
  | enum {c : ComplexTypeDecl} (format : c.format = .enum) (extend : c.parent = none)
      (fields : c.properties = []) : BindsBody ns key (.complex c) (.enum c.values)
  | complex {c : ComplexTypeDecl} {parent : Option TypeKey} {properties : List Field}
      (format : c.format = .register)
      (extend : Option.Rel (ns.BindsParent key.module .register) c.parent parent)
      (fields : ns.BindsFields key.module c.properties properties) :
      BindsBody ns key (.complex c) (.complex parent properties)
  | remote {r : RemoteClassDecl} {parent : Option TypeKey} {constructor : Option Constructor}
      {methods : List Operation} {events : List Event}
      (extend : Option.Rel (ns.BindsParent key.module .remote) r.parent parent)
      (create : Option.Rel (fun c b => ns.BindsFields key.module c.params b.params)
        r.constructor constructor)
      (call : List.Forall₂ (ns.BindsMethod key.module) r.methods methods)
      (emit : List.Forall₂ (ns.BindsEvent key) r.events events) :
      BindsBody ns key (.remote r) (.remote parent r.isAbstract constructor methods events)

/-- Every type that the declaration writes is bound: parents to a type of the same kind, fields to a
type that is not void, and returns to any type. -/
structure Resolvable (ns : Namespace) (module : String) (d : Declaration) : Prop where
  parent : ∀ p, d.parent = some p → ∃ k, ns.Writes module p (.reference k) ∧ ns.kind k d.kind
  fields : ∀ f ∈ d.fields, ∃ t, ns.Writes module f.type t ∧ t.isVoid = false
  returns : ∀ r ∈ d.returns, ∃ t, ns.Writes module r.type t

/-! ## Declarations that are the same -/

variable {ns : Namespace} {module : String} {key : TypeKey} {a b : Declaration}

theorem BindsFields.of_same {fs gs : List FieldDecl} {bs : List Field}
    (h : List.Forall₂ (FieldDecl.same · · = true) fs gs) (hb : ns.BindsFields module fs bs) :
    ns.BindsFields module gs bs := by
  refine forall₂_of_same (fun f g b hfg hb => ?_) h hb
  obtain ⟨hname, -, htype, -, -⟩ := FieldDecl.same_iff.1 hfg
  exact ⟨hb.name.trans hname, htype ▸ hb.type, hb.notVoid⟩

/-- **A type binds every declaration that is the same as its own.** -/
theorem BindsBody.of_same {body : TypeBody} (hb : ns.BindsBody key a body)
    (h : a.same b = true) : ns.BindsBody key b body := by
  cases hb with
  | «alias» type notVoid =>
    cases b with
    | «alias» e => exact Declaration.same_alias_iff.1 h ▸ .alias type notVoid
    | _ => simp [Declaration.same] at h
  | enum format extend fields =>
    cases b with
    | complex e =>
      obtain ⟨-, -, hformat, hparent, hproperties, hvalues⟩ := Declaration.same_complex_iff.1 h
      rw [fields, List.forall₂_nil_left_iff] at hproperties
      exact hvalues ▸ .enum (hformat ▸ format) (hparent ▸ extend) hproperties
    | _ => simp [Declaration.same] at h
  | complex format extend fields =>
    cases b with
    | complex e =>
      obtain ⟨-, -, hformat, hparent, hproperties, -⟩ := Declaration.same_complex_iff.1 h
      exact .complex (hformat ▸ format) (hparent ▸ extend) (fields.of_same hproperties)
    | _ => simp [Declaration.same] at h
  | @remote d _ _ _ _ extend create call emit =>
    cases b with
    | remote e =>
      obtain ⟨-, -, hparent, habs, hctor, hmethods, hevents⟩ := Declaration.same_remote_iff.1 h
      rw [habs]
      refine .remote (hparent ▸ extend) ?_ (forall₂_of_same (fun m n o hmn ho => ?_) hmethods call)
        (forall₂_of_same (fun m n o hmn ho => ?_) hevents emit)
      · generalize d.constructor = declared, e.constructor = declared' at hctor create
        cases hctor with
        | none => exact create
        | some hsame =>
          cases create with
          | some hparams =>
            exact .some (BindsFields.of_same (ConstructorDecl.same_iff.1 hsame).2 hparams)
      · obtain ⟨hname, -, hparams, hresult⟩ := MethodDecl.same_iff.1 hmn
        exact ⟨ho.name.trans hname, ho.params.of_same hparams, hresult ▸ ho.result⟩
      · obtain ⟨hname, -, hproperties⟩ := EventDecl.same_iff.1 hmn
        exact ⟨ho.name.trans hname, ho.owner, ho.properties.of_same hproperties⟩
    | _ => simp [Declaration.same] at h

/-- The parent of a type is the one its declaration writes, and of the same kind. -/
theorem BindsBody.parent {d : Declaration} {t : TypeDef} (hb : ns.BindsBody key d t.body) :
    Option.Rel (ns.BindsParent key.module d.kind) d.parent t.parent := by
  obtain ⟨name, module, origin, doc, body⟩ := t
  cases hb with
  | «alias» _ _ => exact .none
  | enum _ extend _ =>
    simp only [Declaration.parent, extend]
    exact .none
  | complex format extend _ =>
    simp only [Declaration.kind, format]
    exact extend
  | remote extend _ _ _ => exact extend

/-- Types that bind declarations of one kind are of one kind. -/
theorem BindsBody.kind_eq {key' : TypeKey} {d e : Declaration} {t u : TypeDef}
    (ht : ns.BindsBody key d t.body) (hu : ns.BindsBody key' e u.body) (h : d.kind = e.kind) :
    t.kind = u.kind := by
  obtain ⟨name, module, origin, doc, body⟩ := t
  obtain ⟨name', module', origin', doc', body'⟩ := u
  cases ht <;> cases hu <;> simp_all [Declaration.kind, TypeDef.kind]

/-- **A declaration is resolvable if one that is the same is.** -/
theorem Resolvable.of_same (ha : ns.Resolvable module a) (h : a.same b = true) :
    ns.Resolvable module b where
  parent p hp := by
    rw [← Declaration.kind_of_same h]
    exact ha.parent p ((Declaration.parent_of_same h).trans hp)
  fields g hg := by
    have hmem : g.type ∈ a.fields.map (·.type) :=
      Declaration.types_of_same h ▸ List.mem_map_of_mem hg
    obtain ⟨f, hf, heq⟩ := List.mem_map.1 hmem
    exact heq ▸ ha.fields f hf
  returns r hr := ha.returns r ((Declaration.returns_of_same h).symm ▸ hr)

end Namespace

end InterfaceGen
