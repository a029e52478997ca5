/-!
# Files/Glob — patterns for file names

A star matches any run of characters, a question mark any one character, and a bracket one of a
class. Two stars stand for whole directories and have to fill the place between two slashes.
-/

namespace InterfaceGen

/-! ## Patterns -/

/-- A member of a class: one character, or all from one to another. -/
inductive Glob.Member where
  | one (c : Char)
  | range (first last : Char)
  deriving Repr, DecidableEq

/-- A part of a pattern. -/
inductive Glob.Token where
  | char (c : Char)
  | anyChar
  | anyRun
  /-- Any number of whole directories. -/
  | anyDirectories
  | within (members : List Glob.Member)
  | outside (members : List Glob.Member)
  deriving Repr, DecidableEq

/-- A pattern with the text it was written as. -/
structure Glob where
  source : String
  tokens : List Glob.Token
  deriving Repr, DecidableEq

namespace Glob

/-- Why a text is no pattern. -/
inductive Flaw where
  | wildcards
  | recursiveWildcards
  | invalidRange
  deriving Repr, DecidableEq

/-- A flaw and the place in the pattern, in characters. -/
structure Fault where
  position : Nat
  flaw : Flaw
  deriving Repr, DecidableEq

/-- The wording of a fault. -/
def Fault.message (f : Fault) : String :=
  let what := match f.flaw with
    | .wildcards => "wildcards are either regular `*` or recursive `**`"
    | .recursiveWildcards => "recursive wildcards must form a single path component"
    | .invalidRange => "invalid range pattern"
  "Pattern syntax error near position " ++ toString f.position ++ ": " ++ what

/-! ## Reading -/

/-- The members of a class between its brackets. -/
def members : List Char → List Member
  | a :: '-' :: b :: rest => .range a b :: members rest
  | c :: rest => .one c :: members rest
  | [] => []

/-- The characters up to the first closing bracket and the text after it. -/
def toBracket : List Char → Option (List Char × List Char)
  | [] => none
  | ']' :: rest => some ([], rest)
  | c :: rest => (toBracket rest).map fun (front, back) => (c :: front, back)

/-- A class after its opening bracket, and the text after it. The first character is a member even
if it is a closing bracket. -/
def readClass : List Char → Option (Token × List Char)
  | '!' :: c :: rest =>
    (toBracket rest).map fun (more, rest) => (.outside (members (c :: more)), rest)
  | '!' :: [] => none
  | c :: rest =>
    (toBracket rest).map fun (more, rest) => (.within (members (c :: more)), rest)
  | [] => none

/-- The number of leading stars, and the text after them. -/
def stars : List Char → Nat × List Char
  | '*' :: rest =>
    let (n, rest) := stars rest
    (n + 1, rest)
  | rest => (0, rest)

/-- A run of stars at `position`; `before` is the character before it. Two stars have to begin a
component and end one; the slash after them belongs to them. -/
def readStars (position : Nat) (before : Option Char) (cs : List Char) :
    Except Fault (Token × List Char) :=
  match stars cs with
  | (0, rest) => .ok (.anyRun, rest)
  | (1, rest) => .ok (.anyRun, rest)
  | (2, rest) =>
    if before = none ∨ before = some '/' then
      match rest with
      | [] => .ok (.anyDirectories, [])
      | '/' :: rest => .ok (.anyDirectories, rest)
      | _ => .error ⟨position + 2, .recursiveWildcards⟩
    else .error ⟨position - 1, .recursiveWildcards⟩
  | (_, _) => .error ⟨position + 2, .wildcards⟩

/-- Adds a token; repeated directories count once. -/
def push (t : Token) : List Token → List Token
  | [] => [t]
  | u :: rest => if t = .anyDirectories ∧ u = .anyDirectories then u :: rest else t :: u :: rest

/-- The tokens of a pattern; `length` is that of the whole text, and `done` holds the tokens read so
far, last first. -/
def readTokens (length : Nat) :
    Nat → Option Char → List Token → List Char → Except Fault (List Token)
  | 0, _, done, _ => .ok done.reverse
  | _ + 1, _, done, [] => .ok done.reverse
  | fuel + 1, before, done, c :: rest =>
    let position := length - (rest.length + 1)
    if c = '?' then readTokens length fuel (some c) (.anyChar :: done) rest
    else if c = '*' then do
      let (t, after) ← readStars position before (c :: rest)
      let last := if t = .anyDirectories ∧ (stars (c :: rest)).2 ≠ [] then '/' else '*'
      readTokens length fuel (some last) (push t done) after
    else if c = '[' then
      match readClass rest with
      | some (t, rest) => readTokens length fuel (some ']') (t :: done) rest
      | none => .error ⟨position, .invalidRange⟩
    else readTokens length fuel (some c) (.char c :: done) rest

/-- The pattern a text stands for. -/
def parse (source : String) : Except Fault Glob :=
  let cs := source.toList
  (readTokens cs.length (cs.length + 1) none [] cs).map (⟨source, ·⟩)

/-! ## Matching -/

def Member.holds (c : Char) : Member → Bool
  | .one d => c == d
  | .range first last => decide (first ≤ c) && decide (c ≤ last)

/-- The suffixes of a text, itself first. -/
def suffixes : List Char → List (List Char)
  | [] => [[]]
  | c :: rest => (c :: rest) :: suffixes rest

/-- The places where a run of whole directories may end: here, and after every slash. -/
def afterSlashes : List Char → List (List Char)
  | [] => []
  | c :: rest => if c = '/' then rest :: afterSlashes rest else afterSlashes rest

/-- Whether tokens match a whole text. -/
def matchTokens : List Token → List Char → Bool
  | [], cs => cs.isEmpty
  | .char c :: ts, cs =>
    match cs with
    | d :: rest => c == d && matchTokens ts rest
    | [] => false
  | .anyChar :: ts, cs =>
    match cs with
    | _ :: rest => matchTokens ts rest
    | [] => false
  | .within members :: ts, cs =>
    match cs with
    | d :: rest => members.any (·.holds d) && matchTokens ts rest
    | [] => false
  | .outside members :: ts, cs =>
    match cs with
    | d :: rest => !members.any (·.holds d) && matchTokens ts rest
    | [] => false
  | .anyRun :: ts, cs => (suffixes cs).any (matchTokens ts)
  | .anyDirectories :: ts, cs => (cs :: [] :: afterSlashes cs).any (matchTokens ts)

/-- Whether a pattern matches a file name. -/
def accepts (g : Glob) (name : String) : Bool := matchTokens g.tokens name.toList

end Glob

end InterfaceGen
