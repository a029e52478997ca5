import InterfaceGen.Model.Basic
import InterfaceGen.Model.Draft
import InterfaceGen.Model.Scope

/-!
# Model/Build — resolving the references of one declaration

Every position of a declaration that names a type is resolved on its own, and all failures are
reported; a declaration becomes a type if there are none. Only a return may be `void`.
-/

namespace InterfaceGen

/-! ## Results beside failures -/

/-- The values among some results. -/
def successes {α : Type} (results : List (Except Diagnostic α)) : List α :=
  results.filterMap fun
    | .ok a => some a
    | .error _ => none

/-- The failures among some results. -/
def failures {α : Type} (results : List (Except Diagnostic α)) : List Diagnostic :=
  results.filterMap fun
    | .ok _ => none
    | .error d => some d

/-- The value of an optional result, if it is there and succeeded. -/
def success? {α : Type} : Option (Except Diagnostic α) → Option α
  | some (.ok a) => some a
  | _ => none

/-- **No failures means that every result is a value.** -/
theorem failures_eq_nil_iff {α : Type} {results : List (Except Diagnostic α)} :
    failures results = [] ↔ results = (successes results).map .ok := by
  induction results with
  | nil => simp [failures, successes]
  | cons r rest ih =>
    cases r with
    | ok a => simpa [failures, successes] using ih
    | error d =>
      simp only [failures, successes, List.filterMap_cons]
      constructor
      · intro h; cases h
      · intro h
        have := congrArg List.head? h
        cases hs : rest.filterMap (fun
          | .ok a => some a
          | .error (_ : Diagnostic) => none) with
        | nil => simp [hs] at h
        | cons a as => simp [hs] at this

namespace Declaration

def kind : Declaration → DeclKind
  | .alias _ => .alias
  | .complex d =>
    match d.format with
    | .enum => .enum
    | .register => .register
  | .remote _ => .remote

end Declaration

namespace Scope

/-! ## Positions -/

/-- The field a declared field becomes; `owner` is where it is declared. -/
def buildField (s : Scope) (module owner : String) (f : FieldDecl) : Except Diagnostic Field :=
  let location := owner ++ "." ++ f.name
  match s.resolveSpelling module f.type location with
  | .error d => .error d
  | .ok t =>
    if t.isVoid then .error (.invalidDefinition module (location ++ " cannot be void"))
    else .ok ⟨f.name, f.doc, t, f.optional, f.defaultValue⟩

/-- The fields of a list of declared ones. -/
def buildFields (s : Scope) (module owner : String) (fields : List FieldDecl) :
    List (Except Diagnostic Field) :=
  fields.map (s.buildField module owner)

/-- The type a method returns; none if it declares no return. -/
def buildReturn (s : Scope) (module location : String) (m : MethodDecl) :
    Option (Except Diagnostic DataType) :=
  m.result.map fun r => s.resolveSpelling module r.type (location ++ " return")

/-- The parent of a declaration; none if it extends nothing. -/
def buildParent (s : Scope) (module owner : String) (kind : DeclKind) (parent : Option String) :
    Option (Except Diagnostic TypeKey) :=
  parent.map fun reference => s.resolveParent module reference owner kind

/-! ## Members -/

/-- A method, with the failures in it. -/
def buildMethod (s : Scope) (module owner : String) (m : MethodDecl) :
    Operation × List Diagnostic :=
  let location := owner ++ "." ++ m.name
  let params := s.buildFields module location m.params
  let result := s.buildReturn module location m
  ({ name := m.name
     doc := m.doc
     params := successes params
     returnType := (success? result).filter (!·.isVoid)
     returnDoc := m.result.bind (·.doc) },
    failures params ++ failures result.toList)

/-- A constructor, with the failures in it. -/
def buildConstructor (s : Scope) (module owner : String) (c : ConstructorDecl) :
    Constructor × List Diagnostic :=
  let params := s.buildFields module (owner ++ " constructor") c.params
  (⟨c.doc, successes params⟩, failures params)

/-- An event, with the failures in it. -/
def buildEvent (s : Scope) (key : TypeKey) (origin : Origin) (owner : String) (e : EventDecl) :
    Event × List Diagnostic :=
  let properties := s.buildFields key.module (owner ++ "." ++ e.name) e.properties
  (⟨e.name, e.doc, key, origin, successes properties⟩, failures properties)

/-! ## Declarations -/

/-- The doc, the body and the failures of a collected declaration. -/
def buildBody (s : Scope) (module : String) (draft : DeclDraft) :
    Option String × TypeBody × List Diagnostic :=
  let owner := module ++ "." ++ draft.decl.name
  match draft.decl with
  | .alias a =>
    (a.doc, .alias ((Primitive.ofName? (Text.trimmed a.type)).getD .string), [])
  | .complex c =>
    match c.format with
    | .enum => (c.doc, .enum c.values, [])
    | .register =>
      let parent := s.buildParent module owner .register c.parent
      let properties := s.buildFields module owner c.properties
      (c.doc, .complex (success? parent) (successes properties),
        failures parent.toList ++ failures properties)
  | .remote r =>
    let parent := s.buildParent module owner .remote r.parent
    let constructor := r.constructor.map (s.buildConstructor module owner)
    let methods := r.methods.map (s.buildMethod module owner)
    let events := r.events.map (s.buildEvent ⟨module, r.name⟩ draft.origin owner)
    (r.doc,
      .remote (success? parent) r.isAbstract (constructor.map (·.1)) (methods.map (·.1))
        (events.map (·.1)),
      failures parent.toList ++ (constructor.map (·.2)).getD [] ++ methods.flatMap (·.2) ++
        events.flatMap (·.2))

/-- The type a collected declaration becomes, or all failures in it. -/
def buildType (s : Scope) (module : String) (draft : DeclDraft) :
    Except (List Diagnostic) TypeDef :=
  let (doc, body, failed) := s.buildBody module draft
  if failed.isEmpty then .ok ⟨draft.decl.name, module, draft.origin, doc, body⟩
  else .error failed

end Scope

end InterfaceGen
