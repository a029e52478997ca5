import InterfaceGen.Text.LetterCase

/-!
# Text/Words — the words of an identifier, and the four ways to join them

A word ends at a character that is no letter and no digit, after a lower-case letter that an
upper-case one follows, and before the last capital of a run of capitals that a lower-case letter
follows. Digits have no case and end nothing.
-/

namespace InterfaceGen.Text

/-! ## Cutting a text into words -/

/-- The longest stretches without a character that is no letter and no digit. -/
def stretches : List Char → List (List Char)
  | [] => [[]]
  | c :: cs =>
    match stretches cs with
    | [] => [[c]]
    | w :: ws => if isAlphanumeric c then (c :: w) :: ws else [] :: w :: ws

/-- The case of the last letter since the last word began. -/
inductive LastCase where
  /-- No letter with a case yet. -/
  | none
  | lower
  | upper
  deriving Repr, DecidableEq

/-- The last case after `c`. -/
def LastCase.after (last : LastCase) (c : Char) : LastCase :=
  if isLower c then .lower else if isUpper c then .upper else last

/-- The words of one stretch; `word` holds the open word, last character first. -/
def cutWords (last : LastCase) (word : List Char) : List Char → List (List Char)
  | [] => []
  | [c] => [(c :: word).reverse]
  | c :: next :: rest =>
    if last.after c = .lower ∧ isUpper next then
      (c :: word).reverse :: cutWords .none [] (next :: rest)
    else if last = .upper ∧ isUpper c ∧ isLower next then
      word.reverse :: cutWords .none [c] (next :: rest)
    else
      cutWords (last.after c) (c :: word) (next :: rest)

/-- The words of a text, in order. -/
def words (cs : List Char) : List (List Char) :=
  (stretches cs).flatMap (cutWords .none [])

/-- **Cutting loses nothing** — the words of a stretch, joined, are the open word and the rest. -/
theorem flatten_cutWords (last : LastCase) (word : List Char) :
    ∀ cs : List Char, cs ≠ [] → (cutWords last word cs).flatten = word.reverse ++ cs := by
  intro cs
  fun_induction cutWords last word cs with
  | case1 => intro h; exact absurd rfl h
  | case2 last word c => intro _; simp
  | case3 last word c next rest _ ih => intro _; simp [ih]
  | case4 last word c next rest _ _ ih => intro _; simp [ih]
  | case5 last word c next rest _ _ ih => intro _; simp [ih]

/-! ## Changing the case of a word -/

/-- A word in lower case; a sigma that ends it takes its final form. -/
def lowerWord : List Char → List Char
  | [] => []
  | [c] => if c = 'Σ' then ['ς'] else toLower c
  | c :: rest => toLower c ++ lowerWord rest

/-- A word in upper case. -/
def upperWord (w : List Char) : List Char := w.flatMap toUpper

/-- A word whose first character is in upper case and whose others are in lower case. -/
def capitalWord : List Char → List Char
  | [] => []
  | c :: rest => toUpper c ++ lowerWord rest

/-! ## Joining words -/

/-- `fooBar`: the first word in lower case, the others capitalised. -/
def camelCase (s : String) : String :=
  match words s.toList with
  | [] => ""
  | w :: ws => String.ofList (lowerWord w ++ ws.flatMap capitalWord)

/-- `FooBar`: every word capitalised. -/
def pascalCase (s : String) : String :=
  String.ofList ((words s.toList).flatMap capitalWord)

/-- `foo_bar`: the words in lower case, joined by underscores. -/
def snakeCase (s : String) : String :=
  "_".intercalate ((words s.toList).map (String.ofList <| lowerWord ·))

/-- `FOO_BAR`: the words in upper case, joined by underscores. -/
def screamingSnakeCase (s : String) : String :=
  "_".intercalate ((words s.toList).map (String.ofList <| upperWord ·))

end InterfaceGen.Text
