import InterfaceGen.Template.Expression
import InterfaceGen.Text.Split

/-!
# Template/Tag — a template as a row of texts and tags

A tag may ask for the white space of the text beside it to be trimmed, by a dash inside its braces.
Only the text that touches the tag is trimmed, so trimming needs no more than the row of tags.
-/

namespace InterfaceGen.Template

/-- A text or a tag. -/
inductive Tag where
  | text (chars : List Char)
  | comment
  | print (e : Expr)
  | assign (name : String) (e : Expr)
  | ifStart (condition : Expr)
  | elseIf (condition : Expr)
  | otherwise
  | ifEnd
  | loopStart (key : Option String) (value : String) (container : Expr)
  | loopEnd
  | embed (file : String)
  | macroImport (file space : String)
  | macroStart (name : String) (params : List (String × Option Expr))
  | macroEnd
  deriving Repr

/-- A tag that may trim the texts beside it. -/
structure Piece where
  tag : Tag
  trimBefore : Bool
  trimAfter : Bool
  deriving Repr

/-! ## Statements -/

/-- The text after white space and the end of a statement, and whether a dash stands in it. -/
def statementEnd? (cs : List Char) : Option (Bool × List Char) :=
  match afterWord? "-%\x7d" cs, afterWord? "%\x7d" cs with
  | some rest, _ => some (true, rest)
  | none, some rest => some (false, rest)
  | none, none => none

/-- A tag of one word. -/
def bareTag? (word : String) (tag : Tag) (cs : List Char) : Option (Tag × List Char) :=
  (afterWord? word cs).map (tag, ·)

/-- A tag of a word and an expression. -/
def conditionTag? (word : String) (tag : Expr → Tag) (cs : List Char) :
    Option (Tag × List Char) := do
  let rest ← afterWord? word cs
  let (e, rest) ← expression? rest
  return (tag e, rest)

/-- An assignment. -/
def assignTag? (cs : List Char) : Option (Tag × List Char) := do
  let rest ← afterWord? "set" cs
  let (name, rest) ← word? rest
  let rest ← afterWord? "=" rest
  let (e, rest) ← expression? rest
  return (.assign name e, rest)

/-- The start of a loop over values, or over keys and values. -/
def loopTag? (cs : List Char) : Option (Tag × List Char) := do
  let rest ← afterWord? "for" cs
  let (first, rest) ← word? rest
  match afterWord? "," rest with
  | some rest =>
    let (second, rest) ← word? rest
    let rest ← afterWord? "in" rest
    let (e, rest) ← container? rest
    return (.loopStart (some first) second e, rest)
  | none =>
    let rest ← afterWord? "in" rest
    let (e, rest) ← container? rest
    return (.loopStart none first e, rest)

def embedTag? (cs : List Char) : Option (Tag × List Char) := do
  let rest ← afterWord? "include" cs
  let (file, rest) ← string? rest
  return (.embed file, rest)

def importTag? (cs : List Char) : Option (Tag × List Char) := do
  let rest ← afterWord? "import" cs
  let (file, rest) ← string? rest
  let rest ← afterWord? "as" rest
  let (space, rest) ← word? rest
  return (.macroImport file space, rest)

/-- The literal a parameter stands for when not given. -/
def literal? (cs : List Char) : Option (Expr × List Char) :=
  match string? cs with
  | some (s, rest) => some (.str s, rest)
  | none =>
    match bool? cs with
    | some (b, rest) => some (.bool b, rest)
    | none => (int? cs).map fun (i, rest) => (.int i, rest)

/-- Parameters up to the closing parenthesis. -/
def params? : Nat → List Char → Option (List (String × Option Expr) × List Char)
  | 0, _ => none
  | fuel + 1, cs => do
    let (name, rest) ← word? cs
    let (default, rest) ← match afterWord? "=" rest with
      | some rest => (literal? rest).map fun (e, rest) => (some e, rest)
      | none => some (none, rest)
    match afterWord? ")" rest with
    | some rest => return ([(name, default)], rest)
    | none =>
      let rest ← afterWord? "," rest
      let (params, rest) ← params? fuel rest
      return ((name, default) :: params, rest)

def macroTag? (cs : List Char) : Option (Tag × List Char) := do
  let rest ← afterWord? "macro" cs
  let (name, rest) ← word? rest
  let rest ← afterWord? "(" rest
  match afterWord? ")" rest with
  | some rest => return (.macroStart name [], rest)
  | none =>
    let (params, rest) ← params? (rest.length + 1) rest
    return (.macroStart name params, rest)

/-- The end of a macro, with or without its name. -/
def macroEndTag? (cs : List Char) : Option (Tag × List Char) := do
  let rest ← afterWord? "endmacro" cs
  match word? rest with
  | some (_, rest) => return (.macroEnd, rest)
  | none => return (.macroEnd, rest)

/-- The readers of statements. -/
def statements : List (List Char → Option (Tag × List Char)) :=
  [conditionTag? "if" .ifStart, conditionTag? "elif" .elseIf, bareTag? "else" .otherwise,
    bareTag? "endif" .ifEnd, loopTag?, bareTag? "endfor" .loopEnd, assignTag?, embedTag?,
    importTag?, macroTag?, macroEndTag?]

/-- A statement up to its end: the first reading after which the tag ends. -/
def statement? (cs : List Char) : Option (Tag × Bool × List Char) :=
  statements.findSome? fun read => do
    let (tag, rest) ← read cs
    let (dash, rest) ← statementEnd? rest
    return (tag, dash, rest)

/-! ## Pieces -/

/-- The text after a dash, and whether there was one. -/
def dash : List Char → Bool × List Char
  | '-' :: rest => (true, rest)
  | rest => (false, rest)

/-- A printed expression after its opening braces. -/
def print? (cs : List Char) : Option (Piece × List Char) := do
  let (before, cs) := dash cs
  let (e, rest) ← expression? cs
  match afterWord? "-\x7d\x7d" rest, afterWord? "\x7d\x7d" rest with
  | some rest, _ => return (⟨.print e, before, true⟩, rest)
  | none, some rest => return (⟨.print e, before, false⟩, rest)
  | none, none => none

/-- A statement after its opening brace. -/
def statementPiece? (cs : List Char) : Option (Piece × List Char) := do
  let (before, cs) := dash cs
  let (tag, after, rest) ← statement? cs
  return (⟨tag, before, after⟩, rest)

/-- The rest of a text after the end of a comment, and whether a dash stands in that end. -/
def commentEnd? : List Char → Option (Bool × List Char)
  | [] => none
  | '-' :: '#' :: '\x7d' :: rest => some (true, rest)
  | '#' :: '\x7d' :: rest => some (false, rest)
  | _ :: rest => commentEnd? rest

/-- A comment after its opening brace; it holds at least one character. -/
def comment? (cs : List Char) : Option (Piece × List Char) :=
  let (before, cs) := dash cs
  match cs with
  | '-' :: '#' :: '\x7d' :: _ => none
  | '#' :: '\x7d' :: _ => none
  | cs => (commentEnd? cs).map fun (after, rest) => (⟨.comment, before, after⟩, rest)

/-- The text before the next tag, and the rest. -/
def plainText : List Char → List Char × List Char
  | [] => ([], [])
  | '\x7b' :: '\x7b' :: rest => ([], '\x7b' :: '\x7b' :: rest)
  | '\x7b' :: '%' :: rest => ([], '\x7b' :: '%' :: rest)
  | '\x7b' :: '#' :: rest => ([], '\x7b' :: '#' :: rest)
  | c :: rest =>
    let (text, rest) := plainText rest
    (c :: text, rest)

/-- The pieces of a text; none if one of its tags cannot be read. -/
def pieces? : Nat → List Char → Option (List Piece)
  | _, [] => some []
  | 0, _ :: _ => none
  | fuel + 1, cs =>
    match cs with
    | '\x7b' :: '\x7b' :: rest => do
      let (p, rest) ← print? rest
      return p :: (← pieces? fuel rest)
    | '\x7b' :: '%' :: rest => do
      let (p, rest) ← statementPiece? rest
      return p :: (← pieces? fuel rest)
    | '\x7b' :: '#' :: rest => do
      let (p, rest) ← comment? rest
      return p :: (← pieces? fuel rest)
    | cs => do
      let (text, rest) := plainText cs
      return ⟨.text text, false, false⟩ :: (← pieces? fuel rest)

/-- Whether the next piece trims the text before it. -/
def trimsBefore : List Piece → Bool
  | [] => false
  | p :: _ => p.trimBefore

/-- The tags of some pieces, their texts trimmed; `after` tells whether the piece before trims. -/
def trimmedTags (after : Bool) : List Piece → List Tag
  | [] => []
  | p :: rest =>
    let tag := match p.tag with
      | .text chars =>
        let chars := if after then Text.trimStart chars else chars
        .text (if trimsBefore rest then Text.trimEnd chars else chars)
      | tag => tag
    tag :: trimmedTags p.trimAfter rest

/-- The tags of a source; none if one of them cannot be read. -/
def tags? (source : String) : Option (List Tag) :=
  let cs := source.toList
  (pieces? (cs.length + 1) cs).map (trimmedTags false)

end InterfaceGen.Template
