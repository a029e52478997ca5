import InterfaceGen.Text.Split
import InterfaceGen.Types.Basic

/-!
# Types/Expr — type expressions as documents write them

A base is a primitive or a name with an optional module before it; each suffix `[]`, `{}` or `<>`
wraps what stands before it in a sequence, a set or a map. White space may surround the expression
and precede each suffix, and `void` takes none.
-/

namespace InterfaceGen

/-- A type expression before its names are resolved. -/
inductive TypeExpr where
  | primitive (type : Primitive)
  | named (module : Option String) (name : String)
  | sequence (of : TypeExpr)
  | set (of : TypeExpr)
  | map (of : TypeExpr)
  deriving Repr, DecidableEq

namespace TypeExpr

/-! ## Containers -/

/-- The three containers. -/
inductive Container where
  | sequence
  | set
  | map
  deriving Repr, DecidableEq

/-- A container of elements of a type. -/
def Container.wrap : Container → TypeExpr → TypeExpr
  | .sequence, t => .sequence t
  | .set, t => .set t
  | .map, t => .map t

/-- The suffix of a container. -/
def Container.suffix : Container → List Char
  | .sequence => ['[', ']']
  | .set => ['\x7b', '\x7d']
  | .map => ['<', '>']

/-- The container whose suffix ends a text, and the text before it, read from the end. -/
def Container.ofEnd? : List Char → Option (Container × List Char)
  | ']' :: '[' :: rest => some (.sequence, rest)
  | '\x7d' :: '\x7b' :: rest => some (.set, rest)
  | '>' :: '<' :: rest => some (.map, rest)
  | _ => none

theorem Container.length_of_ofEnd? {cs rest : List Char} {c : Container}
    (h : Container.ofEnd? cs = some (c, rest)) : cs.length = rest.length + 2 := by
  unfold Container.ofEnd? at h
  split at h
  · obtain ⟨_, rfl⟩ := Prod.mk.inj (Option.some.inj h); rfl
  · obtain ⟨_, rfl⟩ := Prod.mk.inj (Option.some.inj h); rfl
  · obtain ⟨_, rfl⟩ := Prod.mk.inj (Option.some.inj h); rfl
  · cases h

/-! ## Parsing -/

/-- Why a text is no type expression. -/
inductive Fault where
  | voidElement
  | empty
  | invalidName (spelling : String)
  deriving Repr, DecidableEq

/-- The wording of a fault. -/
def Fault.message : Fault → String
  | .voidElement => "containers of 'void' are not allowed"
  | .empty => "empty type expression"
  | .invalidName s => "'" ++ s ++ "' is not a valid type name"

/-- An expression without a suffix. -/
def parseBase (cs : List Char) : Except Fault TypeExpr :=
  if cs.isEmpty then .error .empty
  else
    match Primitive.ofName? (String.ofList cs) with
    | some p => .ok (.primitive p)
    | none =>
      match Text.splitLast? '.' cs with
      | some (module, name) =>
        if isModuleNameChars module && isIdentifierChars name then
          .ok (.named (some (String.ofList module)) (String.ofList name))
        else .error (.invalidName (String.ofList cs))
      | none =>
        if isIdentifierChars cs then .ok (.named none (String.ofList cs))
        else .error (.invalidName (String.ofList cs))

/-- An expression read from its end: `cs` is the text in reverse. -/
def parseEnd (cs : List Char) : Except Fault TypeExpr :=
  match _h : Container.ofEnd? cs with
  | some (container, rest) => do
    let element ← parseEnd (rest.dropWhile Text.isBlank)
    if element = .primitive .void then throw .voidElement
    return container.wrap element
  | none => parseBase cs.reverse
  termination_by cs.length
  decreasing_by
    have h1 := Container.length_of_ofEnd? _h
    have h2 := (List.dropWhile_sublist Text.isBlank (l := rest)).length_le
    omega

/-- The expression a text spells. -/
def parse (s : String) : Except Fault TypeExpr :=
  parseEnd (Text.trim s.toList).reverse

end TypeExpr

end InterfaceGen
