import InterfaceGen.Diagnostic
import InterfaceGen.Table
import InterfaceGen.Types.Data
import InterfaceGen.Types.Expr

/-!
# Model/Scope — what a name written in a module refers to

An unqualified name is the module's own type, or else the only type of that name among the modules
reachable by imports; a qualified name needs its module to be the own one or reachable. A parent has
to be of the same kind as its child.
-/

namespace InterfaceGen

/-! ## Kinds of declared types -/

/-- The kind of a declared type, as far as references care. -/
inductive DeclKind where
  | alias
  | enum
  | register
  | remote
  deriving Repr, DecidableEq

/-- The words for a kind. -/
def DeclKind.describe : DeclKind → String
  | .alias => "primitive alias"
  | .enum => "enum type"
  | .register => "structured type"
  | .remote => "remote class"

/-! ## Scopes -/

/-- The declared types of all modules, and the modules reachable from each by imports. -/
structure Scope where
  types : Table (Table DeclKind)
  closures : Table Names
  deriving Repr

namespace Scope

/-- The kind of the type with a key. -/
def kindOf (s : Scope) (key : TypeKey) : Option DeclKind :=
  (s.types.find? key.module).bind (·.find? key.name)

/-- Whether `module` may name `target`: it is the module itself, or reachable. -/
def sees (s : Scope) (module target : String) : Bool :=
  module = target || ((s.closures.find? module).getD []).contains target

/-- The types called `name` in the modules reachable from `module`. -/
def candidates (s : Scope) (module name : String) : List TypeKey :=
  ((((s.closures.find? module).getD []).filter (· ≠ module)).map (TypeKey.mk · name)).filter
    fun key => (s.kindOf key).isSome

/-- The key of a qualified name. -/
def resolveQualified (s : Scope) (module target name reference location : String) :
    Except Diagnostic TypeKey :=
  if s.sees module target then
    if (s.kindOf ⟨target, name⟩).isSome then .ok ⟨target, name⟩
    else .error (.unresolvedReference location reference)
  else if s.types.has target then
    .error (.unimportedModule module location reference target)
  else .error (.unresolvedReference location reference)

/-- The key of an unqualified name. -/
def resolveUnqualified (s : Scope) (module name reference location : String) :
    Except Diagnostic TypeKey :=
  if (s.kindOf ⟨module, name⟩).isSome then .ok ⟨module, name⟩
  else
    match s.candidates module name with
    | [] => .error (.unresolvedReference location reference)
    | [key] => .ok key
    | keys => .error (.ambiguousReference location reference (keys.map (·.shown)))

/-- The type an expression denotes in `module`; `reference` is how it was written. -/
def resolve (s : Scope) (module : String) (expr : TypeExpr) (reference location : String) :
    Except Diagnostic DataType :=
  match expr with
  | .primitive p => .ok (.primitive p)
  | .named (some target) name =>
    (s.resolveQualified module target name reference location).map .reference
  | .named none name => (s.resolveUnqualified module name reference location).map .reference
  | .sequence e => (s.resolve module e reference location).map .sequence
  | .set e => (s.resolve module e reference location).map .set
  | .map e => (s.resolve module e reference location).map .map

/-- The type a spelling denotes in `module`. -/
def resolveSpelling (s : Scope) (module spelling location : String) :
    Except Diagnostic DataType :=
  match TypeExpr.parse spelling with
  | .error fault => .error (.invalidDefinition module (location ++ ": " ++ fault.message))
  | .ok expr => s.resolve module expr spelling location

/-- The key of a parent, which has to be a type of the expected kind. -/
def resolveParent (s : Scope) (module reference location : String) (expected : DeclKind) :
    Except Diagnostic TypeKey :=
  match s.resolveSpelling module reference location with
  | .error d => .error d
  | .ok (.reference key) =>
    if s.kindOf key = some expected then .ok key
    else .error (.kindMismatch location reference expected.describe)
  | .ok _ => .error (.kindMismatch location reference expected.describe)

end Scope

end InterfaceGen
