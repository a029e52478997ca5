import InterfaceGen.Json.Printer
import InterfaceGen.Template.Engine
import InterfaceGen.Template.Scope

/-!
# Template/Render — the text a template yields

Expressions are evaluated for their value or, in conditions, for their truth. A variable that is
absent is an error as a value and false as a condition. Macros and embedded files are rendered by an
evaluator one level deeper, so that everything at one level is recursion on the template.
-/

namespace InterfaceGen

namespace Template

/-! ## Failures -/

/-- Why rendering stopped. -/
inductive Cause where
  | unknownVariable (path template : String)
  | unknownFilter (name : String)
  | unknownFunction (name : String)
  | unknownTest (name : String)
  | filterFailed (name : String) (cause : Cause)
  | functionFailed (name : String) (cause : Cause)
  /-- A filter or function refused its input. -/
  | refused (message : String)
  | notABool (function : String)
  | macroNotFound (fault : Engine.MacroFault)
  | missingArgument (called argument : String)
  | unknownFile (name : String)
  | keysOfNonObject (container : String)
  | missingKey (container : String)
  | notIterable (container : String)
  | notAContainer (shown : String)
  | tooDeep
  deriving Repr

/-- The wording of a cause, followed by that of what caused it. -/
def Cause.message : Cause → String
  | .unknownVariable path template =>
    "Variable `" ++ path ++ "` not found in context while rendering '" ++ template ++ "'"
  | .unknownFilter name => "Filter '" ++ name ++ "' not found"
  | .unknownFunction name => "Function '" ++ name ++ "' not found"
  | .unknownTest name => "Test '" ++ name ++ "' not found"
  | .filterFailed name cause => "Filter call '" ++ name ++ "' failed: " ++ cause.message
  | .functionFailed name cause => "Function call '" ++ name ++ "' failed: " ++ cause.message
  | .refused message => message
  | .notABool function =>
    "Function `" ++ function ++
      "` was used in a logic expression but is not returning a bool"
  | .macroNotFound fault => fault.message
  | .missingArgument called argument =>
    "Macro `" ++ called ++ "` is missing the argument `" ++ argument ++ "`"
  | .unknownFile name => "Template '[" ++ name ++ "]' not found"
  | .keysOfNonObject container =>
    "Tried to iterate using key value on variable `" ++ container ++
      "`, but it isn't an object/map"
  | .missingKey container =>
    "Tried to iterate using key value on variable `" ++ container ++ "`, but it is missing a key"
  | .notIterable container =>
    "Tried to iterate on a container (`" ++ container ++ "`) that has a unsupported type"
  | .notAContainer shown =>
    "Forloop containers have to be an ident or a function call (tried to iterate on '" ++ shown ++
      "')"
  | .tooDeep => "Macros and included files are nested too deeply"

/-- What was being rendered when rendering stopped: the body of a macro itself, or anything else. -/
inductive Place where
  | inMacro (space name : String)
  | elsewhere
  deriving Repr, DecidableEq

/-- A cause, with its place once that is known. -/
structure Failure where
  cause : Cause
  place : Option Place
  deriving Repr

namespace Failure

/-- A failure whose place is where it is met first. -/
def of (c : Cause) : Failure := ⟨c, none⟩

/-- The failure, placed at `p` unless it was placed further inside. -/
def placedAt (p : Place) (f : Failure) : Failure := { f with place := f.place.or (some p) }

/-- The failure with its cause wrapped. -/
def wrap (w : Cause → Cause) (f : Failure) : Failure := { f with cause := w f.cause }

/-- The wording of a failure in the template `root`. -/
def message (root : String) (f : Failure) : String :=
  let place := match f.place with
    | some (.inMacro space name) =>
      ": error while rendering macro `" ++ space ++ "::" ++ name ++ "`"
    | _ => ""
  "Failed to render '" ++ root ++ "'" ++ place ++ ": " ++ f.cause.message

end Failure

/-- The outcome of a part of a rendering. -/
abbrev Outcome (α : Type) := Except Failure α

/-- The outcome with its failure placed. -/
def placed {α : Type} (p : Place) (o : Outcome α) : Outcome α := o.mapError (·.placedAt p)

/-! ## Values -/

/-- Whether a value counts as true: numbers other than zero, and whatever is not empty. -/
def truthy : Json → Bool
  | .null => false
  | .bool b => b
  | .num (.int i) => i ≠ 0
  | .num (.double d) => !d.sameValue (Json.Double.zero false)
  | .str s => s ≠ ""
  | .arr items => !items.isEmpty
  | .obj members => !members.isEmpty

mutual

/-- The text a printed value yields. -/
def printed : Json → String
  | .null => ""
  | .bool b => if b then "true" else "false"
  | .num n => n.text .plain
  | .str s => s
  | .arr items => "[" ++ ", ".intercalate (printedItems items) ++ "]"
  | .obj _ => "[object]"

def printedItems : List Json → List String
  | [] => []
  | v :: rest => printed v :: printedItems rest

end

/-- Whether two values are equal; nothing if a number is compared with something else. -/
def equal? (a b : Json) : Option Bool :=
  match a, b with
  | .num m, .num n => some (m.toDouble.sameValue n.toDouble)
  | .num _, _ => none
  | _, .num _ => none
  | a, b => some (a.same b)

/-! ## Filters and functions -/

/-- Arguments by name. -/
abbrev Args := Json.Members

/-- The filters and functions that templates can call; a refusal is its message. -/
structure Calls where
  filter : String → Option (Json → Args → Except String Json)
  function : String → Option (Args → Except String Json)

/-- What templates are rendered with. -/
structure Setting where
  engine : Engine
  calls : Calls

/-! ## Arguments -/

/-- Named outcomes; one that fails matters only if it is asked for. -/
abbrev Offers := List (String × Outcome Json)

/-- The values of all offers. -/
def Offers.all : Offers → Outcome Args
  | [] => .ok []
  | (name, v) :: rest => do
    let v ← v
    let args ← all rest
    return (name, v) :: args

/-- The result of a filter. -/
def applyFilter (c : Calls) (name : String) (v : Json) (args : Offers) : Outcome Json :=
  match c.filter name with
  | none => .error (.of (.unknownFilter name))
  | some f => do
    let args ← args.all.mapError (·.wrap (.filterFailed name))
    (f v args).mapError fun m => .of (.filterFailed name (.refused m))

/-- The result of a function. -/
def applyFunction (c : Calls) (name : String) (args : Offers) : Outcome Json :=
  match c.function name with
  | none => .error (.of (.unknownFunction name))
  | some f => do
    let args ← args.all.mapError (·.wrap (.functionFailed name))
    (f args).mapError fun m => .of (.functionFailed name (.refused m))

/-- The value of a literal. -/
def literalValue : Expr → Json
  | .str s => .str s
  | .int i => .int i
  | .bool b => .bool b
  | _ => .null

/-- The values of a macro's parameters. -/
def bindParams (called : String) (args : Offers) :
    List (String × Option Expr) → Outcome Args
  | [] => .ok []
  | (param, default) :: rest => do
    let v ← match args.lookup param, default with
      | some v, _ => v
      | none, some e => .ok (literalValue e)
      | none, none => .error (.of (.missingArgument called param))
    let bound ← bindParams called args rest
    return (param, v) :: bound

/-- The text of some nodes in a scope. -/
abbrev Expand := Scope → List Node → Outcome String

/-- The text of a macro. -/
def expandMacro (t : Setting) (expand : Expand) (s : Scope) (space name : String)
    (args : Offers) : Outcome String :=
  match t.engine.findMacro s.template space name with
  | .error fault => .error (.of (.macroNotFound fault))
  | .ok (file, m) => do
    let bound ← bindParams name args m.params
    placed (.inMacro space name) (expand (s.call file bound) m.body)

/-! ## Expressions -/

/-- Whether a variable passes a test. -/
def testVariable (s : Scope) (path : String) (negated : Bool) (name : String) : Outcome Bool :=
  let isDefined := (s.find? path).isSome
  if name = "defined" then .ok (isDefined != negated)
  else if name = "undefined" then .ok (isDefined == negated)
  else .error (.of (.unknownTest name))

/-- The truth of the negation of an expression that reads a variable: true if the variable is
absent, false if a filter fails. -/
def negatedVariable (s : Scope) (path : String) (v : Outcome Json) : Bool :=
  if (s.find? path).isNone then true
  else
    match v with
    | .ok v => !truthy v
    | .error _ => false

/-- Both sides of a comparison, compared. -/
def compareValues (l r : Outcome Json) : Outcome (Option Bool) := do
  let l ← l
  let r ← r
  return equal? l r

mutual

/-- The value of an expression. -/
def Expr.value (t : Setting) (expand : Expand) (s : Scope) : Expr → Outcome Json
  | .str v => .ok (.str v)
  | .int v => .ok (.int v)
  | .bool v => .ok (.bool v)
  | .variable path =>
    match s.find? path with
    | some v => .ok v
    | none => .error (.of (.unknownVariable path s.template))
  | .call name args => applyFunction t.calls name (offers t expand s args)
  | .macroCall space name args =>
    (expandMacro t expand s space name (offers t expand s args)).map .str
  | .test path negated name => (testVariable s path negated name).map .bool
  | .filter of name args => do
    let v ← of.value t expand s
    applyFilter t.calls name v (offers t expand s args)
  | .equal l r => do
    return .bool ((← compareValues (l.value t expand s) (r.value t expand s)).getD false)
  | .differ l r => do
    return .bool ((← compareValues (l.value t expand s) (r.value t expand s)).elim false (!·))
  | .both l r => do
    if ← l.holds t expand s then return .bool (← r.holds t expand s) else return .bool false
  | .either l r => do
    if ← l.holds t expand s then return .bool true else return .bool (← r.holds t expand s)
  | .not e =>
    match e with
    | .equal l r => do
      return .bool ((← compareValues (l.value t expand s) (r.value t expand s)).getD true)
    | .differ l r => do
      return .bool ((← compareValues (l.value t expand s) (r.value t expand s)).elim true (!·))
    | e =>
      match e.path? with
      | some path =>
        if (s.find? path).isNone then .ok (.bool true)
        else (e.value t expand s).map fun v => .bool (!truthy v)
      | none => (e.value t expand s).map fun v => .bool (!truthy v)

/-- The truth of an expression in a condition; filters matter only on variables. -/
def Expr.holds (t : Setting) (expand : Expand) (s : Scope) : Expr → Outcome Bool
  | .str v => .ok (v ≠ "")
  | .int v => .ok (v ≠ 0)
  | .bool v => .ok v
  | .variable path => .ok ((s.find? path).elim false truthy)
  | .call name args => do
    match ← applyFunction t.calls name (offers t expand s args) with
    | .bool b => return b
    | _ => throw (.of (.notABool name))
  | .macroCall space name args =>
    (expandMacro t expand s space name (offers t expand s args)).map (· ≠ "")
  | .test path negated name => testVariable s path negated name
  | .filter of name args =>
    match of.path? with
    | some _ =>
      match do applyFilter t.calls name (← of.value t expand s) (offers t expand s args) with
      | .ok v => .ok (truthy v)
      | .error _ => .ok false
    | none => of.holds t expand s
  | .equal l r => do
    return (← compareValues (l.value t expand s) (r.value t expand s)).getD false
  | .differ l r => do
    return (← compareValues (l.value t expand s) (r.value t expand s)).elim false (!·)
  | .both l r => do
    if ← l.holds t expand s then r.holds t expand s else return false
  | .either l r => do
    if ← l.holds t expand s then return true else r.holds t expand s
  | .not e =>
    match e with
    | .equal l r => do
      return (← compareValues (l.value t expand s) (r.value t expand s)).elim false (!·)
    | .differ l r => do
      return (← compareValues (l.value t expand s) (r.value t expand s)).getD false
    | e =>
      match e.path? with
      | some path => .ok (negatedVariable s path (e.value t expand s))
      | none => (e.holds t expand s).map (!·)

/-- The arguments of a call. -/
def offers (t : Setting) (expand : Expand) (s : Scope) : List (String × Expr) → Offers
  | [] => []
  | (name, e) :: rest => (name, e.value t expand s) :: offers t expand s rest

end

/-! ## Loops -/

/-- The words for an expression that is no container. -/
def Expr.shown : Expr → String
  | .int i => "Int(" ++ toString i ++ ")"
  | .bool b => "Bool(" ++ (if b then "true" else "false") ++ ")"
  | .test path negated name =>
    "Test(Test \x7b ident: \"" ++ path ++ "\", negated: " ++
      (if negated then "true" else "false") ++ ", name: \"" ++ name ++ "\", args: [] \x7d)"
  | .macroCall space name _ =>
    "MacroCall(MacroCall \x7b namespace: \"" ++ space ++ "\", name: \"" ++ name ++
      "\", args: \x7b\x7d \x7d)"
  | _ => ""

/-- The name under which messages speak of a container. -/
def containerName (e : Expr) : Outcome String :=
  match e.base with
  | .variable path => .ok path
  | .call name _ => .ok name
  | other => .error (.of (.notAContainer other.shown))

/-- The keys and values that a loop goes through; keys are empty unless there is an object. -/
def entries (name : String) (key : Option String) (v : Json) : Outcome (List (String × Json)) :=
  match v, key with
  | .arr items, none => .ok (items.map (("", ·)))
  | .str s, none => .ok (s.toList.map fun c => ("", .str (String.singleton c)))
  | .obj members, some _ => .ok members
  | .arr _, some _ => .error (.of (.keysOfNonObject name))
  | .str _, some _ => .error (.of (.keysOfNonObject name))
  | .obj _, none => .error (.of (.missingKey name))
  | _, _ => .error (.of (.notIterable name))

/-- The texts of a loop's rounds, joined. -/
def rounds (round : Loop → Outcome String) (key : Option String) (value : String) (count : Nat) :
    Nat → List (String × Json) → Outcome String
  | _, [] => .ok ""
  | index, (k, v) :: rest => do
    let text ← round ⟨key, value, index, count, k, v⟩
    let more ← rounds round key value count (index + 1) rest
    return text ++ more

/-! ## Nodes -/

mutual

/-- The text of a node, and the scope after it. -/
def Node.render (t : Setting) (expand : Expand) : Node → Scope → Outcome (String × Scope)
  | .text chars, s => .ok (String.ofList chars, s)
  | .print e, s => do
    let v ← e.value t expand s
    return (printed v, s)
  | .assign name e, s => do
    let v ← e.value t expand s
    return ("", s.assign name v)
  | .branch cases otherwise, s => do
    match ← renderCases t expand cases s with
    | some found => return found
    | none => renderNodes t expand otherwise s
  | .loop key value container body, s => do
    let name ← containerName container
    let v ← container.value t expand s
    let items ← entries name key v
    let round := fun (l : Loop) =>
      placed .elsewhere ((renderNodes t expand body (s.enter ⟨[], some l⟩)).map (·.1))
    let text ← rounds round key value items.length 0 items
    return (text, s)
  | .embed file, s =>
    match t.engine.template? file with
    | none => .error (.of (.unknownFile file))
    | some found => do
      let text ← placed .elsewhere (expand (s.embed file) found.nodes)
      return (text, s)

/-- The text of the first case that holds; nothing if none does. -/
def renderCases (t : Setting) (expand : Expand) :
    List (Expr × List Node) → Scope → Outcome (Option (String × Scope))
  | [], _ => .ok none
  | (condition, body) :: rest, s => do
    if ← condition.holds t expand s then return some (← renderNodes t expand body s)
    else renderCases t expand rest s

/-- The text of some nodes, and the scope after them. -/
def renderNodes (t : Setting) (expand : Expand) : List Node → Scope → Outcome (String × Scope)
  | [], s => .ok ("", s)
  | n :: rest, s => do
    let (text, s) ← n.render t expand s
    let (more, s) ← renderNodes t expand rest s
    return (text ++ more, s)

end

/-- How deep macros and embedded files may nest. -/
def maxDepth : Nat := 500

/-- The text of some nodes, macros and embedded files at most `depth` deep. -/
def expandTo (t : Setting) : Nat → Expand
  | 0, _, _ => .error (.of .tooDeep)
  | depth + 1, s, nodes => (renderNodes t (expandTo t depth) nodes s).map (·.1)

end Template

namespace Engine

/-- The text of a template under the given values, or why there is none. -/
def render (e : Engine) (c : Template.Calls) (name : String) (globals : Json.Members) :
    Except String String :=
  match e.template? name with
  | none => .error ("Template '" ++ name ++ "' not found")
  | some t =>
    (Template.expandTo ⟨e, c⟩ Template.maxDepth (.start globals name) t.nodes).mapError
      (·.message name)

end Engine

end InterfaceGen
