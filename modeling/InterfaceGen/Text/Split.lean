/-!
# Text/Split — trimming a text, and cutting it at a separator

White space is the Unicode property `White_Space`, which is larger than core's class: a no-break
space, a line separator and an ideographic space are all trimmed. `splitOn` cuts at every separator
and always yields one piece more than there are separators; `splitLast?` cuts at the last one only.
-/

namespace InterfaceGen.Text

/-! ## White space -/

/-- The Unicode property `White_Space`. -/
def isBlank (c : Char) : Bool :=
  let n := c.toNat
  (0x09 ≤ n && n ≤ 0x0D) || n == 0x20 || n == 0x85 || n == 0xA0 || n == 0x1680 ||
    (0x2000 ≤ n && n ≤ 0x200A) || n == 0x2028 || n == 0x2029 || n == 0x202F || n == 0x205F ||
    n == 0x3000

/-- The text without its leading white space. -/
def trimStart (cs : List Char) : List Char := cs.dropWhile isBlank

/-- The text without its trailing white space. -/
def trimEnd (cs : List Char) : List Char := (cs.reverse.dropWhile isBlank).reverse

/-- The text without white space at either end. -/
def trim (cs : List Char) : List Char := trimEnd (trimStart cs)

/-- A string without white space at either end. -/
def trimmed (s : String) : String := String.ofList (trim s.toList)

/-- A string of white space only, the empty one included. -/
def isBlankText (s : String) : Bool := s.toList.all isBlank

/-! ## Pieces -/

/-- The pieces between the separators. -/
def splitOn (sep : Char) : List Char → List (List Char)
  | [] => [[]]
  | c :: cs =>
    match splitOn sep cs with
    | [] => [[c]]
    | w :: ws => if c = sep then [] :: w :: ws else (c :: w) :: ws

/-- The text before the last separator and the text after it. -/
def splitLast? (sep : Char) : List Char → Option (List Char × List Char)
  | [] => none
  | c :: cs =>
    match splitLast? sep cs with
    | some (front, back) => some (c :: front, back)
    | none => if c = sep then some ([], cs) else none

/-- The pieces of a string between the separators. -/
def pieces (sep : Char) (s : String) : List String :=
  (splitOn sep s.toList).map String.ofList

/-- The text up to the first line break, and the text after it; none if there is no line break. -/
def firstLine (cs : List Char) : List Char × Option (List Char) :=
  match cs.dropWhile (· ≠ '\n') with
  | [] => (cs, none)
  | _ :: rest => (cs.takeWhile (· ≠ '\n'), some rest)

theorem splitOn_ne_nil (sep : Char) (cs : List Char) : splitOn sep cs ≠ [] := by
  cases cs with
  | nil => simp [splitOn]
  | cons c cs =>
    simp only [splitOn]
    split
    · simp
    · split <;> simp

/-- A text that is not cut holds no separator. -/
theorem not_mem_of_splitLast?_eq_none {sep : Char} {cs : List Char}
    (h : splitLast? sep cs = none) : sep ∉ cs := by
  induction cs with
  | nil => exact List.not_mem_nil
  | cons c cs ih =>
    simp only [splitLast?] at h
    cases hs : splitLast? sep cs with
    | some p => rw [hs] at h; simp at h
    | none =>
      rw [hs] at h
      by_cases heq : c = sep
      · simp [heq] at h
      · simp [Ne.symm heq, ih hs]

/-- **A text is cut at its last separator.** -/
theorem cut_of_splitLast? {sep : Char} {cs front back : List Char}
    (h : splitLast? sep cs = some (front, back)) : cs = front ++ sep :: back ∧ sep ∉ back := by
  induction cs generalizing front with
  | nil => simp [splitLast?] at h
  | cons c cs ih =>
    simp only [splitLast?] at h
    cases hs : splitLast? sep cs with
    | none =>
      rw [hs] at h
      by_cases hc : c = sep
      · subst hc
        simp only [if_true, Option.some.injEq, Prod.mk.injEq] at h
        obtain ⟨rfl, rfl⟩ := h
        exact ⟨rfl, not_mem_of_splitLast?_eq_none hs⟩
      · simp [hc] at h
    | some p =>
      obtain ⟨f, b⟩ := p
      rw [hs] at h
      simp only [Option.some.injEq, Prod.mk.injEq] at h
      obtain ⟨rfl, rfl⟩ := h
      exact ⟨congrArg (c :: ·) (ih hs).1, (ih hs).2⟩

/-- The two halves and the separator are the text. -/
theorem append_of_splitLast? {sep : Char} {cs front back : List Char}
    (h : splitLast? sep cs = some (front, back)) : cs = front ++ sep :: back :=
  (cut_of_splitLast? h).1

/-- The back half holds no separator. -/
theorem not_mem_of_splitLast? {sep : Char} {cs front back : List Char}
    (h : splitLast? sep cs = some (front, back)) : sep ∉ back :=
  (cut_of_splitLast? h).2

end InterfaceGen.Text
