import InterfaceGen.Json.Value

/-!
# Json/Source — a JSON text as far as it is well formed

Reading a typed value reports the first fault of the text, whether of syntax or of type, so scanning
never fails: it yields a tree in which every container knows whether its text ended properly, and
`malformed` stands where the text stops being JSON. What follows the first syntax fault is not kept.
-/

namespace InterfaceGen.Json

/-- A scanned JSON value. -/
inductive Source where
  | null
  | bool (value : Bool)
  | num (value : Number)
  | str (value : String)
  | seq (items : List Source) (ended : Bool)
  | map (members : List (String × Source)) (ended : Bool)
  /-- A string or number that is well formed and has no value: an unpaired surrogate, or a number
  too large for a double. -/
  | unreadable
  /-- The text is no JSON from here on. -/
  | malformed
  deriving Repr

namespace Source

/-! ## Blanks, numbers and strings -/

/-- The text after leading JSON white space. -/
def skipBlank (cs : List Char) : List Char :=
  cs.dropWhile fun c => c == ' ' || c == '\n' || c == '\t' || c == '\r'

/-- The values of a run of digits. -/
def digitValues (cs : List Char) : List Nat := cs.map fun c => c.toNat - '0'.toNat

/-- The leading digits and the rest. -/
def spanDigits (cs : List Char) : List Char × List Char :=
  (cs.takeWhile Char.isDigit, cs.dropWhile Char.isDigit)

/-- The digits before the point: a single zero, or digits that start with none. -/
def scanWhole (cs : List Char) : Option (List Nat × List Char) :=
  match spanDigits cs with
  | ([], _) => none
  | ('0' :: _ :: _, _) => none
  | (digits, rest) => some (digitValues digits, rest)

/-- A point and digits, or nothing. -/
def scanFraction : List Char → Option (Option (List Nat) × List Char)
  | '.' :: cs =>
    match spanDigits cs with
    | ([], _) => none
    | (digits, rest) => some (some (digitValues digits), rest)
  | cs => some (none, cs)

/-- The value of a row of digits. -/
def digitsToNat (digits : List Nat) : Nat := digits.foldl (fun n d => 10 * n + d) 0

/-- The digits of an exponent after its sign. -/
def scanPower (negative : Bool) (cs : List Char) : Option (Option Int × List Char) :=
  match spanDigits cs with
  | ([], _) => none
  | (digits, rest) =>
    let power : Int := digitsToNat (digitValues digits)
    some (some (if negative then -power else power), rest)

/-- An exponent, or nothing. -/
def scanExponent : List Char → Option (Option Int × List Char)
  | [] => some (none, [])
  | c :: cs =>
    if c = 'e' ∨ c = 'E' then
      match cs with
      | '+' :: rest => scanPower false rest
      | '-' :: rest => scanPower true rest
      | rest => scanPower false rest
    else some (none, c :: cs)

/-- A number after its sign; a well-formed one may be too large to have a value. -/
def scanUnsigned (negative : Bool) (cs : List Char) : Option (Option Number × List Char) := do
  let (whole, cs) ← scanWhole cs
  let (fraction, cs) ← scanFraction cs
  let (exponent, cs) ← scanExponent cs
  return (({ negative, whole, fraction, exponent } : Number.Written).value?, cs)

/-- A number. -/
def scanNumber : List Char → Option (Option Number × List Char)
  | '-' :: cs => scanUnsigned true cs
  | cs => scanUnsigned false cs

/-- The value of a hexadecimal digit. -/
def hexValue? (c : Char) : Option Nat :=
  if '0' ≤ c ∧ c ≤ '9' then some (c.toNat - '0'.toNat)
  else if 'a' ≤ c ∧ c ≤ 'f' then some (c.toNat - 'a'.toNat + 10)
  else if 'A' ≤ c ∧ c ≤ 'F' then some (c.toNat - 'A'.toNat + 10)
  else none

/-- The value of four hexadecimal digits. -/
def hexUnit? (a b c d : Char) : Option Nat := do
  return (((← hexValue? a) * 16 + (← hexValue? b)) * 16 + (← hexValue? c)) * 16 + (← hexValue? d)

/-- The character of a one-letter escape. -/
def simpleEscape? (c : Char) : Option Char :=
  match c with
  | '"' => some '"'
  | '\\' => some '\\'
  | '/' => some '/'
  | 'b' => some '\x08'
  | 'f' => some '\x0c'
  | 'n' => some '\n'
  | 'r' => some '\r'
  | 't' => some '\t'
  | _ => none

/-- The rest of a string after its opening quote. A `\u` escape of the first half of a surrogate
pair waits in `high` for the second half; `paired` falls when one stays alone. The characters read
so far are in `acc`, last first. -/
def scanChars (acc : List Char) (high : Option Nat) (paired : Bool) :
    List Char → Option (Option String × List Char)
  | [] => none
  | '"' :: rest =>
    some (if paired && high.isNone then some (String.ofList acc.reverse) else none, rest)
  | '\\' :: 'u' :: a :: b :: c :: d :: rest =>
    match hexUnit? a b c d with
    | none => none
    | some unit =>
      match high with
      | some h =>
        if 0xDC00 ≤ unit ∧ unit ≤ 0xDFFF then
          let code := 0x10000 + (h - 0xD800) * 0x400 + (unit - 0xDC00)
          scanChars (Char.ofNat code :: acc) none paired rest
        else if 0xD800 ≤ unit ∧ unit ≤ 0xDBFF then scanChars acc (some unit) false rest
        else scanChars (Char.ofNat unit :: acc) none false rest
      | none =>
        if 0xDC00 ≤ unit ∧ unit ≤ 0xDFFF then scanChars acc none false rest
        else if 0xD800 ≤ unit ∧ unit ≤ 0xDBFF then scanChars acc (some unit) paired rest
        else scanChars (Char.ofNat unit :: acc) none paired rest
  | '\\' :: c :: rest =>
    match simpleEscape? c with
    | none => none
    | some e => scanChars (e :: acc) none (paired && high.isNone) rest
  | c :: rest =>
    if c.toNat < 0x20 then none else scanChars (c :: acc) none (paired && high.isNone) rest

/-- A string after its opening quote. -/
def scanString (cs : List Char) : Option (Option String × List Char) :=
  scanChars [] none true cs

/-! ## Values -/

mutual

/-- One value and the text after it, which is none after a syntax fault. Each level and each item
takes one unit of `fuel`. -/
def scanValue : Nat → List Char → Source × Option (List Char)
  | 0, _ => (.malformed, none)
  | fuel + 1, cs =>
    match skipBlank cs with
    | 'n' :: 'u' :: 'l' :: 'l' :: rest => (.null, some rest)
    | 't' :: 'r' :: 'u' :: 'e' :: rest => (.bool true, some rest)
    | 'f' :: 'a' :: 'l' :: 's' :: 'e' :: rest => (.bool false, some rest)
    | '"' :: rest =>
      match scanString rest with
      | some (some s, rest) => (.str s, some rest)
      | some (none, rest) => (.unreadable, some rest)
      | none => (.malformed, none)
    | '[' :: rest =>
      match skipBlank rest with
      | ']' :: rest => (.seq [] true, some rest)
      | rest =>
        let (items, rest) := scanItems fuel rest
        (.seq items rest.isSome, rest)
    | '\x7b' :: rest =>
      match skipBlank rest with
      | '\x7d' :: rest => (.map [] true, some rest)
      | rest =>
        let (members, rest) := scanMembers fuel rest
        (.map members rest.isSome, rest)
    | rest =>
      match scanNumber rest with
      | some (some n, rest) => (.num n, some rest)
      | some (none, rest) => (.unreadable, some rest)
      | none => (.malformed, none)

/-- The items of an array up to its bracket. -/
def scanItems : Nat → List Char → List Source × Option (List Char)
  | 0, _ => ([], none)
  | fuel + 1, cs =>
    match scanValue fuel cs with
    | (v, none) => ([v], none)
    | (v, some rest) =>
      match skipBlank rest with
      | ',' :: rest =>
        let (vs, rest) := scanItems fuel rest
        (v :: vs, rest)
      | ']' :: rest => ([v], some rest)
      | _ => ([v], none)

/-- The members of an object up to its brace. -/
def scanMembers : Nat → List Char → List (String × Source) × Option (List Char)
  | 0, _ => ([], none)
  | fuel + 1, cs =>
    match skipBlank cs with
    | '"' :: rest =>
      match scanString rest with
      | some (some key, rest) =>
        match skipBlank rest with
        | ':' :: rest =>
          match scanValue fuel rest with
          | (v, none) => ([(key, v)], none)
          | (v, some rest) =>
            match skipBlank rest with
            | ',' :: rest =>
              let (ms, rest) := scanMembers fuel rest
              ((key, v) :: ms, rest)
            | '\x7d' :: rest => ([(key, v)], some rest)
            | _ => ([(key, v)], none)
        | _ => ([(key, .malformed)], none)
      | _ => ([], none)
    | _ => ([], none)

end

/-- The value a text starts with, and the text after it. -/
def scan (s : String) : Source × Option (List Char) :=
  let cs := s.toList
  scanValue (2 * cs.length + 2) cs

/-! ## Views -/

mutual

/-- Whether the text of the value was JSON to its end, whatever its strings and numbers are. -/
def wellFormed : Source → Bool
  | .malformed => false
  | .seq items ended => ended && wellFormedItems items
  | .map members ended => ended && wellFormedMembers members
  | _ => true

def wellFormedItems : List Source → Bool
  | [] => true
  | v :: rest => wellFormed v && wellFormedItems rest

def wellFormedMembers : List (String × Source) → Bool
  | [] => true
  | (_, v) :: rest => wellFormed v && wellFormedMembers rest

end

mutual

/-- The source of a value that is already at hand. -/
def ofJson : Json → Source
  | .null => .null
  | .bool b => .bool b
  | .num n => .num n
  | .str s => .str s
  | .arr items => .seq (ofItems items) true
  | .obj members => .map (ofMembers members) true

def ofItems : List Json → List Source
  | [] => []
  | v :: rest => ofJson v :: ofItems rest

def ofMembers : List (String × Json) → List (String × Source)
  | [] => []
  | (k, v) :: rest => (k, ofJson v) :: ofMembers rest

end

end Source

end InterfaceGen.Json
