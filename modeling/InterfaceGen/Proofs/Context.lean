import InterfaceGen.Generation.Rendering
import InterfaceGen.Proofs.Template.Shape

/-!
# Proofs/Context — the values that templates are given have the shapes that are expected of them

A resolved type is read back from its JSON form, and so it can be spelled wherever a template comes
upon it. A type, an event and a module have the members that templates name, whatever is declared,
other than docs. Main statements: `DataType.ofJson_toJson`, `Entity.fits_context` and
`Job.fits_values`.
-/

namespace InterfaceGen

open Template (Shape Scope Env)

/-! ## Resolved types -/

namespace DataType

theorem read_toJson (inner : Bool) (t : DataType) : read inner t.toJson = .ok t := by
  induction t generalizing inner with
  | primitive p =>
    simp [toJson, read, readKind, readForm, Form.words, readPrimitive, readPrimitiveWord,
      List.lookup_cons, bind, Except.bind, pure, Except.pure]
  | reference k =>
    simp [toJson, read, readKind, readForm, Form.words, readKeyMembers, readString,
      List.lookup_cons, bind, Except.bind, pure, Except.pure]
  | sequence t ih | set t ih | map t ih =>
    simp [toJson, read, readKind, readForm, Form.words, readOf, ih, List.lookup_cons, bind,
      Except.bind, pure, Except.pure]

/-- **A type is read back from its JSON form.** -/
theorem ofJson_toJson (t : DataType) : ofJson t.toJson = .ok t := read_toJson false t

/-- **A resolved type is spelled from its JSON form**, which is taken for neither nothing nor the
word of a primitive. -/
theorem spellValue_toJson (t : DataType) (d : Dialect) :
    Filters.spellValue d t.toJson = .ok (d.spell t) := by
  have hread := ofJson_toJson t
  obtain ⟨members, hobj⟩ : ∃ members, t.toJson = .obj members := by cases t <;> exact ⟨_, rfl⟩
  rw [hobj] at hread ⊢
  simp only [Filters.spellValue, hread]

theorem fits_toJson (t : DataType) : Shape.type.Fits t.toJson :=
  fun d => ⟨d.spell t, t.spellValue_toJson d⟩

end DataType

/-! ## Shapes of entities -/

namespace EntityKind

/-- A field or parameter. -/
def fieldShape : Shape := .record [("name", .text), ("dataType", .type), ("optional", .any)]

/-- A method. -/
def methodShape : Shape :=
  .record [("name", .text), ("params", .list fieldShape), ("returnType", .type)]

/-- The members of all types. -/
def typeMembers : List (String × Shape) := [("name", .text), ("className", .text)]

/-- The parent of a type, if it has one. -/
def parentShape : Shape := .nullable (.record [("name", .text)])

/-- The shape of the entities of a kind, other than modules. -/
def memberShape : EntityKind → Shape
  | .alias => .record (typeMembers ++ [("target", .type)])
  | .enumType => .record (typeMembers ++ [("values", .list .text)])
  | .complexType =>
    .record (typeMembers ++ [("extends", parentShape), ("properties", .list fieldShape)])
  | .remoteClass =>
    .record (typeMembers ++ [("extends", parentShape), ("isAbstract", .any),
      ("constructor", .nullable (.record [("params", .list fieldShape)])),
      ("methods", .list methodShape), ("events", .list (.record [("name", .text)]))])
  | .event =>
    .record [("name", .text), ("qualifiedName", .text), ("ownerName", .text),
      ("properties", .list fieldShape)]
  | .module => .any

/-- The shape of a module. -/
def moduleShape : Shape :=
  .record [("name", .text), ("version", .text), ("imports", .list (.record [("name", .text)])),
    ("remoteClasses", .list (memberShape .remoteClass)),
    ("complexTypes", .list (memberShape .complexType)),
    ("enumTypes", .list (memberShape .enumType)), ("aliases", .list (memberShape .alias)),
    ("events", .list (memberShape .event))]

/-- The shape of the entities of a kind. -/
def shape : EntityKind → Shape
  | .module => moduleShape
  | kind => memberShape kind

end EntityKind

/-! ## Contexts -/

section Contexts

open EntityKind

variable {α : Type} {item of : Shape} {f : α → Json}

/-- A list of values that fit is a list of that shape. -/
theorem fits_list (h : ∀ a, item.Fits (f a)) (as : List α) :
    (Shape.list item).Fits (.arr (as.map f)) :=
  ⟨_, rfl, fun _ hv => by obtain ⟨a, -, rfl⟩ := List.mem_map.1 hv; exact h a⟩

theorem fits_orNull (h : ∀ a, of.Fits (f a)) (a : Option α) :
    (Shape.nullable of).Fits (orNull (a.map f)) := by
  cases a with
  | none => exact .inl rfl
  | some a => exact .inr (h a)

theorem fits_text (s : String) : Shape.text.Fits (.str s) := ⟨s, rfl⟩

theorem fits_any (v : Json) : Shape.any.Fits v := trivial

theorem TypeKey.fits_toJson (k : TypeKey) : (Shape.record [("name", .text)]).Fits k.toJson :=
  Shape.fits_record.2 (by simp [toJson, Json.get?, List.lookup_cons, fits_text])

theorem Field.fits_toJson (f : Field) : fieldShape.Fits f.toJson := by
  have htype := f.dataType.fits_toJson
  rw [fieldShape, Shape.fits_record]
  cases hdoc : f.doc <;> simp [toJson, Json.get?, hdoc, textMember, optionalMember,
    List.lookup_cons, fits_text, fits_any, htype]

theorem Operation.fits_toJson (m : Operation) : methodShape.Fits m.toJson := by
  have hparams := fits_list Field.fits_toJson m.params
  have hreturn : Shape.type.Fits (orNull (m.returnType.map DataType.toJson)) := by
    cases m.returnType with
    | none => exact fun d => ⟨d.void, rfl⟩
    | some t => exact t.fits_toJson
  rw [methodShape, Shape.fits_record]
  cases hdoc : m.doc <;> simp [toJson, Json.get?, hdoc, textMember, optionalMember,
    List.lookup_cons, fits_text, hparams, hreturn]

theorem Constructor.fits_toJson (c : Constructor) :
    (Shape.record [("params", .list fieldShape)]).Fits c.toJson := by
  have hparams := fits_list Field.fits_toJson c.params
  rw [Shape.fits_record]
  cases hdoc : c.doc <;> simp [toJson, Json.get?, hdoc, textMember, optionalMember,
    List.lookup_cons, hparams]

theorem Event.fits_toJson (e : Event) : (Shape.record [("name", .text)]).Fits e.toJson :=
  Shape.fits_record.2 (by simp [toJson, members, Json.get?, List.lookup_cons, fits_text])

theorem Event.fits_context (e : Event) : (memberShape .event).Fits e.context := by
  have hproperties := fits_list Field.fits_toJson e.properties
  rw [memberShape, Shape.fits_record]
  cases hdoc : e.doc <;> simp [context, members, Json.get?, hdoc, textMember, optionalMember,
    List.lookup_cons, fits_text, hproperties]

/-- **A type has the members of its kind.** -/
theorem TypeDef.fits_context (t : TypeDef) : (memberShape t.kind).Fits t.context := by
  obtain ⟨name, module, origin, doc, body⟩ := t
  cases body with
  | «alias» target =>
    have htarget : Shape.type.Fits (.str target.name) := fun d =>
      ⟨d.primitive target, by simp [Filters.spellValue]⟩
    simp only [kind, memberShape, Shape.fits_record]
    cases doc <;> simp [typeMembers, context, members, TypeBody.members, Json.get?, textMember,
      optionalMember, List.lookup_cons, fits_text, htarget]
  | enum values =>
    have hvalues := fits_list fits_text values
    simp only [kind, memberShape, Shape.fits_record]
    cases doc <;> simp [typeMembers, context, members, TypeBody.members, Json.get?, textMember,
      optionalMember, List.lookup_cons, fits_text, hvalues]
  | complex parent properties =>
    have hparent := fits_orNull TypeKey.fits_toJson parent
    have hproperties := fits_list Field.fits_toJson properties
    simp only [kind, memberShape, Shape.fits_record]
    cases doc <;> simp [typeMembers, parentShape, context, members, TypeBody.members, Json.get?,
      textMember, optionalMember, List.lookup_cons, fits_text, hparent, hproperties]
  | remote parent isAbstract constructor methods events =>
    have hparent := fits_orNull TypeKey.fits_toJson parent
    have hconstructor := fits_orNull Constructor.fits_toJson constructor
    have hmethods := fits_list Operation.fits_toJson methods
    have hevents := fits_list Event.fits_toJson events
    simp only [kind, memberShape, Shape.fits_record]
    cases doc <;> simp [typeMembers, parentShape, context, members, TypeBody.members, Json.get?,
      textMember, optionalMember, List.lookup_cons, fits_text, fits_any, hparent, hconstructor,
      hmethods, hevents]

/-- The types that a module lists under a kind have the members of that kind. -/
theorem ModuleDef.fits_localContexts (d : ModuleDef) (kind : EntityKind) :
    (Shape.list (memberShape kind)).Fits (d.localContexts kind) := by
  refine ⟨_, rfl, fun v hv => ?_⟩
  obtain ⟨t, ht, rfl⟩ := List.mem_map.1 hv
  obtain rfl : t.kind = kind := by
    simpa using (List.mem_filter.1 (List.mem_filter.1 ht).1).2
  exact t.fits_context

theorem ModuleDef.fits_context (d : ModuleDef) : moduleShape.Fits d.context := by
  have himport : ∀ i : Import, (Shape.record [("name", .text)]).Fits i.toJson := fun i =>
    Shape.fits_record.2 (by simp [Import.toJson, Json.get?, List.lookup_cons, fits_text])
  have himports := fits_list himport d.imports
  have hevents := fits_list Event.fits_context (d.events.filter (·.origin.isLocal))
  rw [moduleShape, Shape.fits_record]
  cases hdoc : d.doc <;> simp [context, Json.get?, hdoc, textMember, optionalMember,
    List.lookup_cons, fits_text, himports, hevents, d.fits_localContexts]

/-- **What a template is given for an entity has the shape of the entity's kind.** -/
theorem Entity.fits_context (e : Entity) : e.kind.shape.Fits e.context := by
  cases e with
  | module d => exact d.fits_context
  | type t =>
    have h := t.fits_context
    obtain ⟨name, module, origin, doc, body⟩ := t
    cases body <;> exact h
  | event e => exact e.fits_context

end Contexts

/-! ## The values of a job -/

/-- What the templates of a kind know of the values they are given. -/
def EntityKind.env (kind : EntityKind) : Env :=
  [(["module"], EntityKind.module.shape), (["entity"], kind.shape),
    (["generator"], .record [("name", .text), ("version", .text)])]

/-- A path starts at one of the values that a template is given. -/
theorem Template.Scope.at?_start (globals : Json.Members) (template first : String)
    (rest : List String) : (Scope.start globals template).at? (first :: rest) =
      (globals.lookup first).bind (Template.follow? · rest) := rfl

namespace Job

variable (model : Json) (o : Overlay) (j : Job)

theorem lookup_entity : (j.values model o).lookup "entity" = some j.entity.context := by
  have hname : "entity" ≠ j.entity.kind.name := by cases j.entity.kind <;> decide
  rw [values, Json.Members.lookup_set_ne hname]
  rfl

theorem lookup_generator :
    (j.values model o).lookup "generator" = some Generator.current.toJson := by
  have hname : "generator" ≠ j.entity.kind.name := by cases j.entity.kind <;> decide
  rw [values, Json.Members.lookup_set_ne hname]
  rfl

/-- The module of a job is its own, unless a module is what the job is about. -/
theorem lookup_module : (j.values model o).lookup "module" =
    some (if j.entity.kind = .module then j.entity.context else j.module.context) := by
  rw [values]
  split
  · next hkind => rw [hkind, EntityKind.name, Json.Members.lookup_set_self]
  · next hkind =>
    have hname : "module" ≠ j.entity.kind.name := by
      cases hk : j.entity.kind <;> first | decide | exact absurd hk hkind
    rw [Json.Members.lookup_set_ne hname]
    rfl

/-- **The values of a job are what the templates of its kind know of them.** -/
theorem fits_values : j.entity.kind.env.Fits (.start (j.values model o) j.template) := by
  have hgenerator : (Shape.record [("name", .text), ("version", .text)]).Fits
      Generator.current.toJson := Shape.fits_record.2 (by
    simp [Generator.toJson, Json.get?, List.lookup_cons, fits_text])
  have hmodule : EntityKind.module.shape.Fits
      (if j.entity.kind = .module then j.entity.context else j.module.context) := by
    split
    · next hkind => exact hkind ▸ j.entity.fits_context
    · exact j.module.fits_context
  refine Env.fits_cons.2 ⟨⟨_, ?_, hmodule⟩, Env.fits_cons.2
    ⟨⟨_, ?_, j.entity.fits_context⟩, Env.fits_cons.2 ⟨⟨_, ?_, hgenerator⟩, ?_⟩⟩⟩
  · rw [Scope.at?_start, lookup_module, Option.bind_some, Template.follow?]
  · rw [Scope.at?_start, lookup_entity, Option.bind_some, Template.follow?]
  · rw [Scope.at?_start, lookup_generator, Option.bind_some, Template.follow?]
  · exact fun _ hp => absurd hp List.not_mem_nil

end Job

end InterfaceGen
