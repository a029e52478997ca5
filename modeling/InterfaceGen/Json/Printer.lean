import InterfaceGen.Json.Value

/-!
# Json/Printer — the compact and the indented text of a value

Only the quote, the backslash and the control characters below the space are escaped; the indented
text puts each item on a line of its own, two spaces deeper than its container, and leaves an empty
container on one line.
-/

namespace InterfaceGen.Json

/-! ## Strings -/

/-- The digit of a `\u00xy` escape. -/
def escapeDigit (n : Nat) : Char :=
  if n < 10 then Char.ofNat (0x30 + n) else Char.ofNat (0x61 + (n - 10))

/-- One character inside a JSON string. -/
def escapedChar (c : Char) : List Char :=
  if c = '"' then ['\\', '"']
  else if c = '\\' then ['\\', '\\']
  else if c = '\n' then ['\\', 'n']
  else if c = '\r' then ['\\', 'r']
  else if c = '\t' then ['\\', 't']
  else if c = '\x08' then ['\\', 'b']
  else if c = '\x0c' then ['\\', 'f']
  else if c.toNat < 0x20 then
    ['\\', 'u', '0', '0', escapeDigit (c.toNat / 16), escapeDigit (c.toNat % 16)]
  else [c]

/-- A string in quotes. -/
def stringText (s : String) : String :=
  String.ofList ('"' :: s.toList.flatMap escapedChar ++ ['"'])

/-! ## Compact -/

mutual

/-- The text of a value without white space. -/
def text : Json → String
  | .null => "null"
  | .bool b => if b then "true" else "false"
  | .num n => n.text .json
  | .str s => stringText s
  | .arr items => "[" ++ ",".intercalate (itemTexts items) ++ "]"
  | .obj members => "\x7b" ++ ",".intercalate (memberTexts members) ++ "\x7d"

/-- The texts of the items of an array. -/
def itemTexts : List Json → List String
  | [] => []
  | v :: rest => text v :: itemTexts rest

/-- The texts of the members of an object. -/
def memberTexts : List (String × Json) → List String
  | [] => []
  | (k, v) :: rest => (stringText k ++ ":" ++ text v) :: memberTexts rest

end

/-! ## Indented -/

/-- A new line and `depth` steps of two spaces. -/
def lineBreak (depth : Nat) : String :=
  String.ofList ('\n' :: List.replicate (2 * depth) ' ')

mutual

/-- The indented text of a value whose first line stands at `depth`. -/
def prettyAt (depth : Nat) : Json → String
  | .arr items =>
    if items.isEmpty then "[]"
    else "[" ++ ",".intercalate (prettyItems (depth + 1) items) ++ lineBreak depth ++ "]"
  | .obj members =>
    if members.isEmpty then "\x7b\x7d"
    else "\x7b" ++ ",".intercalate (prettyMembers (depth + 1) members) ++ lineBreak depth ++ "\x7d"
  | v => text v

/-- The items of an array, each on its line. -/
def prettyItems (depth : Nat) : List Json → List String
  | [] => []
  | v :: rest => (lineBreak depth ++ prettyAt depth v) :: prettyItems depth rest

/-- The members of an object, each on its line. -/
def prettyMembers (depth : Nat) : List (String × Json) → List String
  | [] => []
  | (k, v) :: rest =>
    (lineBreak depth ++ stringText k ++ ": " ++ prettyAt depth v) :: prettyMembers depth rest

end

/-- The indented text of a value. -/
def pretty (v : Json) : String := prettyAt 0 v

end InterfaceGen.Json
