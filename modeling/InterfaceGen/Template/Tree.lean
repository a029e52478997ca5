import InterfaceGen.Template.Tag

/-!
# Template/Tree — from a row of tags to a template

Blocks nest: a stack holds the blocks that are open, each with the nodes that stood before it.
Macros are defined outside of all blocks, and macro files are imported before anything else.
-/

namespace InterfaceGen.Template

/-- A block that is open, with the nodes before it, last first. -/
inductive Block where
  | ifCase (done : List (Expr × List Node)) (condition : Expr) (before : List Node)
  | ifRest (done : List (Expr × List Node)) (before : List Node)
  | loop (key : Option String) (value : String) (container : Expr) (before : List Node)
  | definition (name : String) (params : List (String × Option Expr)) (before : List Node)

/-- A template as far as it was read: the open blocks, innermost first, the nodes of the innermost
one, last first, and the macros. -/
structure Draft where
  blocks : List Block
  nodes : List Node
  macros : List Macro

namespace Draft

def empty : Draft := ⟨[], [], []⟩

/-- Adds a node to the innermost block. -/
def add (d : Draft) (n : Node) : Draft := { d with nodes := n :: d.nodes }

/-- Opens a block. -/
def enter (d : Draft) (b : List Node → Block) : Draft :=
  { d with blocks := b d.nodes :: d.blocks, nodes := [] }

/-- Closes the innermost block. -/
def leave (d : Draft) (blocks : List Block) (before : List Node) (n : Node) : Draft :=
  { d with blocks := blocks, nodes := n :: before }

/-- The draft after a tag; none if the tag is out of place. -/
def push (d : Draft) : Tag → Option Draft
  | .text chars => some (d.add (.text chars))
  | .comment => some d
  | .print e => some (d.add (.print e))
  | .assign name e => some (d.add (.assign name e))
  | .embed file => some (d.add (.embed file))
  | .macroImport _ _ => none
  | .ifStart e => some (d.enter (.ifCase [] e))
  | .elseIf e =>
    match d.blocks with
    | .ifCase done condition before :: rest =>
      some { d with
        blocks := .ifCase (done ++ [(condition, d.nodes.reverse)]) e before :: rest, nodes := [] }
    | _ => none
  | .otherwise =>
    match d.blocks with
    | .ifCase done condition before :: rest =>
      some { d with
        blocks := .ifRest (done ++ [(condition, d.nodes.reverse)]) before :: rest, nodes := [] }
    | _ => none
  | .ifEnd =>
    match d.blocks with
    | .ifCase done condition before :: rest =>
      some (d.leave rest before (.branch (done ++ [(condition, d.nodes.reverse)]) []))
    | .ifRest done before :: rest =>
      some (d.leave rest before (.branch done d.nodes.reverse))
    | _ => none
  | .loopStart key value container => some (d.enter (.loop key value container))
  | .loopEnd =>
    match d.blocks with
    | .loop key value container before :: rest =>
      some (d.leave rest before (.loop key value container d.nodes.reverse))
    | _ => none
  | .macroStart name params =>
    if d.blocks.isEmpty then some (d.enter (.definition name params)) else none
  | .macroEnd =>
    match d.blocks with
    | [.definition name params before] =>
      some ⟨[], before, d.macros ++ [⟨name, params, d.nodes.reverse⟩]⟩
    | _ => none

/-- The draft after some tags. -/
def pushAll (d : Draft) : List Tag → Option Draft
  | [] => some d
  | t :: rest => (d.push t).bind (pushAll · rest)

end Draft

/-- Whether a tag may stand before an import. -/
def Tag.isFiller : Tag → Bool
  | .text chars => chars.all isTagBlank
  | .comment => true
  | _ => false

/-- The imports at the start of a template, and the tags after the last of them. -/
def splitImports : Nat → List Tag → List MacroImport × List Tag
  | 0, tags => ([], tags)
  | fuel + 1, tags =>
    match tags.dropWhile Tag.isFiller with
    | .macroImport file space :: rest =>
      let (imports, rest) := splitImports fuel rest
      (⟨file, space⟩ :: imports, rest)
    | _ => ([], tags)

end Template

namespace Template

/-- The template a source holds; none if it cannot be read. -/
def parse? (name source : String) : Option Template := do
  let tags ← tags? source
  let (imports, tags) := splitImports tags.length tags
  let draft ← Draft.empty.pushAll tags
  if draft.blocks.isEmpty then
    return ⟨name, draft.nodes.reverse, draft.macros, imports⟩
  else none

end Template

end InterfaceGen
