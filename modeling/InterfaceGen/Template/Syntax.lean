/-!
# Template/Syntax — what a template is made of

A template is a list of nodes: text, printed expressions, assignments, branches, loops and included
files. Its macros and the files whose macros it uses stand apart from the nodes.
-/

namespace InterfaceGen.Template

/-- An expression. Filters bind tighter than comparisons, comparisons tighter than `not`. -/
inductive Expr where
  | str (value : String)
  | int (value : Int)
  | bool (value : Bool)
  /-- A dotted path. -/
  | variable (path : String)
  | call (function : String) (args : List (String × Expr))
  | macroCall (space name : String) (args : List (String × Expr))
  /-- Whether a variable passes a test, or does not. -/
  | test (path : String) (negated : Bool) (name : String)
  | filter (of : Expr) (name : String) (args : List (String × Expr))
  | equal (left right : Expr)
  | differ (left right : Expr)
  | both (left right : Expr)
  | either (left right : Expr)
  | not (of : Expr)
  deriving Repr

namespace Expr

/-- The expression under all filters. -/
def base : Expr → Expr
  | .filter of _ _ => of.base
  | e => e

/-- The path an expression reads, if a variable is under its filters. -/
def path? (e : Expr) : Option String :=
  match e.base with
  | .variable path => some path
  | _ => none

end Expr

/-- A part of a template. -/
inductive Node where
  | text (chars : List Char)
  | print (e : Expr)
  | assign (name : String) (e : Expr)
  /-- The first case whose condition holds, or else the rest. -/
  | branch (cases : List (Expr × List Node)) (otherwise : List Node)
  | loop (key : Option String) (value : String) (container : Expr) (body : List Node)
  | embed (file : String)
  deriving Repr

/-- A piece of template with parameters, some of which have a value when not given. -/
structure Macro where
  name : String
  params : List (String × Option Expr)
  body : List Node
  deriving Repr

/-- The file of a macro space that is imported, and the name it goes by. -/
structure MacroImport where
  file : String
  space : String
  deriving Repr, DecidableEq

end Template

/-- A template with its name. -/
structure Template where
  name : String
  nodes : List Template.Node
  macros : List Template.Macro
  imports : List Template.MacroImport
  deriving Repr

namespace Template

/-- The macro with a name; a later definition replaces an earlier one. -/
def definition? (t : Template) (name : String) : Option Macro :=
  t.macros.reverse.find? (·.name == name)

end Template

end InterfaceGen
