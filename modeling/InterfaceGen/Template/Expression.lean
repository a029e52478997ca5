import InterfaceGen.Template.Syntax

/-!
# Template/Expression — reading an expression off the front of a text

Each reader passes over leading white space and returns what it read with the text after it. An
operator in letters has to be followed by white space, so `nothing` is a name and not a negation. A
name may not start with the word of a truth value, which is read first.
-/

namespace InterfaceGen.Template

/-! ## Characters and words -/

/-- White space inside tags. -/
def isTagBlank (c : Char) : Bool := c == ' ' || c == '\t' || c == '\r' || c == '\n'

/-- The text after leading white space. -/
def skipTagBlank (cs : List Char) : List Char := cs.dropWhile isTagBlank

/-- The text after a word it starts with. -/
def after? : List Char → List Char → Option (List Char)
  | [], cs => some cs
  | _ :: _, [] => none
  | w :: ws, c :: cs => if w = c then after? ws cs else none

/-- The text after white space and a word. -/
def afterWord? (word : String) (cs : List Char) : Option (List Char) :=
  after? word.toList (skipTagBlank cs)

/-- The text after white space, a word and at least one blank. -/
def afterOperator? (word : String) (cs : List Char) : Option (List Char) :=
  match afterWord? word cs with
  | some (c :: rest) => if isTagBlank c then some rest else none
  | _ => none

def isNameStart (c : Char) : Bool := c.isAlpha || c == '_'

def isNameRest (c : Char) : Bool := c.isAlphanum || c == '_'

/-- A name, without leading white space. -/
def name? (cs : List Char) : Option (List Char × List Char) :=
  match cs with
  | c :: rest =>
    if isNameStart c then some (c :: rest.takeWhile isNameRest, rest.dropWhile isNameRest)
    else none
  | [] => none

/-- A name after white space. -/
def word? (cs : List Char) : Option (String × List Char) :=
  (name? (skipTagBlank cs)).map fun (name, rest) => (String.ofList name, rest)

/-- The segments after the first of a dotted path, as far as there are any. -/
def pathRest : Nat → List Char → List Char × List Char
  | 0, cs => ([], cs)
  | fuel + 1, '.' :: cs =>
    match cs.takeWhile isNameRest with
    | [] => ([], '.' :: cs)
    | segment =>
      let (more, rest) := pathRest fuel (cs.dropWhile isNameRest)
      ('.' :: segment ++ more, rest)
  | _ + 1, cs => ([], cs)

/-- A dotted path after white space: a name, then names or numbers. -/
def path? (cs : List Char) : Option (String × List Char) :=
  match name? (skipTagBlank cs) with
  | some (first, rest) =>
    let (more, rest) := pathRest rest.length rest
    some (String.ofList (first ++ more), rest)
  | none => none

/-! ## Literals -/

/-- A text in quotes of one of three kinds, which cannot hold its own quote. -/
def string? (cs : List Char) : Option (String × List Char) :=
  match skipTagBlank cs with
  | q :: rest =>
    if q = '"' ∨ q = '\x27' ∨ q = '\x60' then
      match rest.dropWhile (· ≠ q) with
      | _ :: after => some (String.ofList (rest.takeWhile (· ≠ q)), after)
      | [] => none
    else none
  | [] => none

/-- The value of a row of digits. -/
def digitsValue (cs : List Char) : Nat :=
  cs.foldl (fun n c => 10 * n + (c.toNat - '0'.toNat)) 0

/-- Digits without a leading zero. -/
def digits? : List Char → Option (Nat × List Char)
  | '0' :: rest => some (0, rest)
  | cs =>
    match cs.takeWhile Char.isDigit with
    | [] => none
    | ds => some (digitsValue ds, cs.dropWhile Char.isDigit)

/-- An integer of 64 bits. -/
def int? (cs : List Char) : Option (Int × List Char) :=
  match skipTagBlank cs with
  | '-' :: rest =>
    match digits? rest with
    | some (n, rest) => if n ≤ Nat.pow 2 63 then some (-(n : Int), rest) else none
    | none => none
  | rest =>
    match digits? rest with
    | some (n, rest) => if n < Nat.pow 2 63 then some ((n : Int), rest) else none
    | none => none

/-- A truth value. -/
def bool? (cs : List Char) : Option (Bool × List Char) :=
  match afterWord? "true" cs, afterWord? "True" cs with
  | some rest, _ => some (true, rest)
  | none, some rest => some (true, rest)
  | none, none =>
    match afterWord? "false" cs, afterWord? "False" cs with
    | some rest, _ => some (false, rest)
    | none, some rest => some (false, rest)
    | none, none => none

/-- A test of a variable. -/
def test? (cs : List Char) : Option (Expr × List Char) := do
  let (path, rest) ← path? cs
  let rest ← afterWord? "is" rest
  match (afterWord? "not" rest).bind word? with
  | some (name, rest) => return (.test path true name, rest)
  | none =>
    let (name, rest) ← word? rest
    return (.test path false name, rest)

/-! ## Expressions -/

/-- Gives an argument a value, in place of an earlier one of its name. -/
def setArg (name : String) (e : Expr) : List (String × Expr) → List (String × Expr)
  | [] => [(name, e)]
  | (n, old) :: rest => if n = name then (n, e) :: rest else (n, old) :: setArg name e rest

mutual

/-- Conjunctions joined by `or`. -/
def disjunction? : Nat → List Char → Option (Expr × List Char)
  | 0, _ => none
  | fuel + 1, cs => do
    let (e, rest) ← conjunction? fuel cs
    moreDisjuncts? fuel e rest

/-- The disjuncts after the first. -/
def moreDisjuncts? : Nat → Expr → List Char → Option (Expr × List Char)
  | 0, _, _ => none
  | fuel + 1, e, cs =>
    match afterOperator? "or" cs with
    | some rest => do
      let (f, rest) ← conjunction? fuel rest
      moreDisjuncts? fuel (.either e f) rest
    | none => some (e, cs)

/-- Comparisons joined by `and`. -/
def conjunction? : Nat → List Char → Option (Expr × List Char)
  | 0, _ => none
  | fuel + 1, cs => do
    let (e, rest) ← negation? fuel cs
    moreConjuncts? fuel e rest

/-- The conjuncts after the first. -/
def moreConjuncts? : Nat → Expr → List Char → Option (Expr × List Char)
  | 0, _, _ => none
  | fuel + 1, e, cs =>
    match afterOperator? "and" cs with
    | some rest => do
      let (f, rest) ← negation? fuel rest
      moreConjuncts? fuel (.both e f) rest
    | none => some (e, cs)

/-- A comparison, or the negation of one. -/
def negation? : Nat → List Char → Option (Expr × List Char)
  | 0, _ => none
  | fuel + 1, cs =>
    match afterOperator? "not" cs with
    | some rest => do
      let (e, rest) ← comparison? fuel rest
      return (.not e, rest)
    | none => comparison? fuel cs

/-- One operand, or two of them compared. -/
def comparison? : Nat → List Char → Option (Expr × List Char)
  | 0, _ => none
  | fuel + 1, cs => do
    let (e, rest) ← operand? fuel cs
    match afterWord? "==" rest, afterWord? "!=" rest with
    | some rest, _ => do
      let (f, rest) ← operand? fuel rest
      return (.equal e f, rest)
    | none, some rest => do
      let (f, rest) ← operand? fuel rest
      return (.differ e f, rest)
    | none, none => return (e, rest)

/-- A literal, variable, test or call, with the filters after it. -/
def operand? : Nat → List Char → Option (Expr × List Char)
  | 0, _ => none
  | fuel + 1, cs =>
    match string? cs with
    | some (s, rest) => filters? fuel (.str s) rest
    | none => do
      let (e, rest) ← atom? fuel cs
      filters? fuel e rest

/-- An operand other than a text, without filters. -/
def atom? : Nat → List Char → Option (Expr × List Char)
  | 0, _ => none
  | fuel + 1, cs =>
    match bool? cs with
    | some (b, rest) => some (.bool b, rest)
    | none =>
      match test? cs with
      | some found => some found
      | none =>
        match macroCall? fuel cs with
        | some found => some found
        | none =>
          match call? fuel cs with
          | some (name, args, rest) => some (.call name args, rest)
          | none =>
            match path? cs with
            | some (path, rest) => some (.variable path, rest)
            | none => (int? cs).map fun (i, rest) => (.int i, rest)

/-- A call of a macro in a space. -/
def macroCall? : Nat → List Char → Option (Expr × List Char)
  | 0, _ => none
  | fuel + 1, cs => do
    let (space, rest) ← word? cs
    let rest ← afterWord? "::" rest
    let (name, args, rest) ← call? fuel rest
    return (.macroCall space name args, rest)

/-- A name with arguments in parentheses. -/
def call? : Nat → List Char → Option (String × List (String × Expr) × List Char)
  | 0, _ => none
  | fuel + 1, cs => do
    let (name, rest) ← word? cs
    let rest ← afterWord? "(" rest
    match afterWord? ")" rest with
    | some rest => return (name, [], rest)
    | none =>
      let (args, rest) ← args? fuel [] rest
      return (name, args, rest)

/-- Named arguments up to the closing parenthesis; a comma may stand after the last. -/
def args? : Nat → List (String × Expr) → List Char → Option (List (String × Expr) × List Char)
  | 0, _, _ => none
  | fuel + 1, args, cs => do
    let (name, rest) ← word? cs
    let rest ← afterWord? "=" rest
    let (e, rest) ← disjunction? fuel rest
    let args := setArg name e args
    match afterWord? ")" rest with
    | some rest => return (args, rest)
    | none =>
      let rest ← afterWord? "," rest
      match afterWord? ")" rest with
      | some rest => return (args, rest)
      | none => args? fuel args rest

/-- The filters after an operand. -/
def filters? : Nat → Expr → List Char → Option (Expr × List Char)
  | 0, _, _ => none
  | fuel + 1, e, cs =>
    match afterWord? "|" cs with
    | none => some (e, cs)
    | some rest =>
      match call? fuel rest with
      | some (name, args, rest) => filters? fuel (.filter e name args) rest
      | none => do
        let (name, rest) ← word? rest
        filters? fuel (.filter e name []) rest

end

/-- A whole expression off the front of a text. -/
def expression? (cs : List Char) : Option (Expr × List Char) :=
  disjunction? (8 * cs.length + 8) cs

/-- An operand that is no text, with its filters. -/
def container? (cs : List Char) : Option (Expr × List Char) := do
  let fuel := 8 * cs.length + 8
  let (e, rest) ← atom? fuel cs
  filters? fuel e rest

end InterfaceGen.Template
