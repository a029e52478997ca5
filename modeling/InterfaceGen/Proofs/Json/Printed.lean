import InterfaceGen.Json.Printer
import InterfaceGen.Json.Source
import Mathlib.Data.List.DropRight
import Mathlib.Tactic.IntervalCases

/-!
# Proofs/Json/Printed — a printed value is scanned as itself

A scanner stops where a printed value ends, because a comma, a new line or nothing follows it. The
escapes of a string are undone one by one, and an integer that fits is read from its digits. A
double need not be read from its own text: the digits are scaled by rounded powers of ten, so the
result may be a neighbour. So a value is scanned as itself if its doubles survive (`Survives`). Main
statements: `Number.survives_int`, `scanChars_flatMap` and `scan_pretty`.
-/

namespace InterfaceGen.Json

open Source

/-! ## What follows a value -/

/-- A comma, a new line or nothing follows a value that is printed. -/
def Follows (rest : List Char) : Prop := ∀ c ∈ rest.head?, c = ',' ∨ c = '\n'

variable {cs rest : List Char}

theorem Follows.cases (h : Follows rest) :
    rest = [] ∨ ∃ c tail, rest = c :: tail ∧ (c = ',' ∨ c = '\n') := by
  cases rest with
  | nil => exact .inl rfl
  | cons c tail => exact .inr ⟨c, tail, rfl, h c rfl⟩

/-! ## Numbers -/

theorem spanDigits_append (h : Follows rest) (cs : List Char) :
    spanDigits (cs ++ rest) = Prod.map id (· ++ rest) (spanDigits cs) := by
  induction cs with
  | nil =>
    obtain rfl | ⟨c, tail, rfl, rfl | rfl⟩ := h.cases <;> rfl
  | cons c cs ih =>
    have ih₁ := congrArg Prod.fst ih
    have ih₂ := congrArg Prod.snd ih
    simp only [spanDigits, Prod.map_fst, Prod.map_snd, id] at ih₁ ih₂
    by_cases hc : c.isDigit = true
    · simp [spanDigits, hc, ih₁, ih₂]
    · simp [spanDigits, hc]

theorem scanWhole_append (h : Follows rest) (cs : List Char) :
    scanWhole (cs ++ rest) = (scanWhole cs).map (Prod.map id (· ++ rest)) := by
  rw [scanWhole, scanWhole, spanDigits_append h]
  generalize spanDigits cs = p
  obtain ⟨digits, tail⟩ := p
  simp only [Prod.map_apply, id]
  split <;> simp_all

theorem scanFraction_append (h : Follows rest) (cs : List Char) :
    scanFraction (cs ++ rest) = (scanFraction cs).map (Prod.map id (· ++ rest)) := by
  cases cs with
  | nil => obtain rfl | ⟨c, tail, rfl, rfl | rfl⟩ := h.cases <;> rfl
  | cons c cs =>
    by_cases hc : c = '.'
    · subst hc
      rw [List.cons_append, scanFraction, scanFraction, spanDigits_append h]
      generalize spanDigits cs = p
      obtain ⟨digits, tail⟩ := p
      cases digits <;> rfl
    · simp [scanFraction, hc]

theorem scanPower_append (h : Follows rest) (negative : Bool) (cs : List Char) :
    scanPower negative (cs ++ rest) = (scanPower negative cs).map (Prod.map id (· ++ rest)) := by
  rw [scanPower, scanPower, spanDigits_append h]
  generalize spanDigits cs = p
  obtain ⟨digits, tail⟩ := p
  cases digits <;> rfl

theorem scanExponent_append (h : Follows rest) (cs : List Char) :
    scanExponent (cs ++ rest) = (scanExponent cs).map (Prod.map id (· ++ rest)) := by
  cases cs with
  | nil => obtain rfl | ⟨c, tail, rfl, rfl | rfl⟩ := h.cases <;> rfl
  | cons c cs =>
    simp only [List.cons_append, scanExponent]
    split
    · cases cs with
      | nil => obtain rfl | ⟨c, tail, rfl, rfl | rfl⟩ := h.cases <;> rfl
      | cons sign cs =>
        by_cases hplus : sign = '+'
        · subst hplus
          exact scanPower_append h false cs
        · by_cases hminus : sign = '-'
          · subst hminus
            exact scanPower_append h true cs
          · simpa [hplus, hminus] using scanPower_append h false (sign :: cs)
    · rfl

theorem scanUnsigned_append (h : Follows rest) (negative : Bool) (cs : List Char) :
    scanUnsigned negative (cs ++ rest) =
      (scanUnsigned negative cs).map (Prod.map id (· ++ rest)) := by
  simp only [scanUnsigned, scanWhole_append h]
  cases scanWhole cs with
  | none => rfl
  | some p =>
    obtain ⟨whole, cs⟩ := p
    simp only [Option.map_some, Prod.map_apply, id, Option.bind_eq_bind, Option.bind_some,
      scanFraction_append h]
    cases scanFraction cs with
    | none => rfl
    | some p =>
      obtain ⟨fraction, cs⟩ := p
      simp only [Option.map_some, Prod.map_apply, id, Option.bind_some, scanExponent_append h]
      cases scanExponent cs <;> rfl

/-- **A number ends where it is followed** by what follows a value. -/
theorem scanNumber_append (h : Follows rest) (cs : List Char) :
    scanNumber (cs ++ rest) = (scanNumber cs).map (Prod.map id (· ++ rest)) := by
  cases cs with
  | nil => obtain rfl | ⟨c, tail, rfl, rfl | rfl⟩ := h.cases <;> rfl
  | cons c cs =>
    by_cases hc : c = '-'
    · subst hc
      exact scanUnsigned_append h true cs
    · simpa [scanNumber, hc] using scanUnsigned_append h false (c :: cs)

/-- The number is read from its own text. -/
def Number.Survives (n : Number) : Prop :=
  scanNumber (n.text .json).toList = some (some n, [])

instance (n : Number) : Decidable n.Survives := inferInstanceAs (Decidable (_ = _))

/-! ### Integers -/

theorem takeWhole_append (significand dropped : Nat) (ds es : List Nat) :
    Number.takeWhole significand dropped (ds ++ es) =
      Number.takeWhole (Number.takeWhole significand dropped ds).1
        (Number.takeWhole significand dropped ds).2 es := by
  induction ds generalizing significand dropped with
  | nil => rfl
  | cons d ds ih =>
    simp only [List.cons_append, Number.takeWhole]
    split <;> exact ih _ _

theorem digitValues_digitChar {d : Nat} (h : d < 10) : digitValues [d.digitChar] = [d] := by
  have hchar := Nat.toNat_digitChar_of_lt_ten h
  simp [digitValues, hchar]

/-- **The digits of a number that fits are its significand**, and none of them is dropped. -/
theorem takeWhole_toDigits {n : Nat} (h : n < Number.significandBound) :
    Number.takeWhole 0 0 (digitValues (Nat.toDigits 10 n)) = (n, 0) := by
  induction n using Nat.strongRecOn with
  | _ n ih =>
    have hlast : ∀ front d, front * 10 + d < Number.significandBound →
        Number.takeWhole front 0 [d] = (front * 10 + d, 0) := fun front d hd => by
      rw [Number.takeWhole, if_pos ⟨rfl, hd⟩, Number.takeWhole]
    rw [Nat.toDigits_eq_if (by decide)]
    split
    · next hn =>
      rw [digitValues_digitChar hn, hlast 0 n (by omega), Nat.zero_mul, Nat.zero_add]
    · next hn =>
      have hfront := ih (n / 10) (by omega) (by omega)
      have hd : n % 10 < 10 := Nat.mod_lt n (by decide)
      have hvalues : digitValues (Nat.toDigits 10 (n / 10) ++ [(n % 10).digitChar]) =
          digitValues (Nat.toDigits 10 (n / 10)) ++ [n % 10] := by
        rw [← digitValues_digitChar hd]
        exact List.map_append
      rw [hvalues, takeWhole_append, hfront, hlast _ _ (by omega), Nat.div_add_mod']

/-- The digits of a positive number start with none. -/
theorem head?_toDigits_ne {n : Nat} (h : 1 ≤ n) : (Nat.toDigits 10 n).head? ≠ some '0' := by
  induction n using Nat.strongRecOn with
  | _ n ih =>
    rw [Nat.toDigits_eq_if (by decide)]
    split
    · next hn => interval_cases n <;> decide
    · next hn =>
      rw [List.head?_append_of_ne_nil _ Nat.toDigits_ne_nil]
      exact ih (n / 10) (by omega) (by omega)

theorem scanWhole_toDigits (n : Nat) :
    scanWhole (Nat.toDigits 10 n) = some (digitValues (Nat.toDigits 10 n), []) := by
  have hdigits : ∀ c ∈ Nat.toDigits 10 n, c.isDigit = true :=
    fun c hc => Nat.isDigit_of_mem_toDigits (by decide) (by decide) hc
  have hspan : spanDigits (Nat.toDigits 10 n) = (Nat.toDigits 10 n, []) := by
    rw [spanDigits, List.takeWhile_eq_self_iff.2 hdigits, List.dropWhile_eq_nil_iff.2 hdigits]
  rw [scanWhole, hspan]
  split
  · next heq => exact absurd (congrArg Prod.fst heq) Nat.toDigits_ne_nil
  · next heq =>
    have hlong := congrArg Prod.fst heq
    obtain rfl | hpos := Nat.eq_zero_or_pos n
    · simp [Nat.toDigits_zero] at hlong
    · exact absurd (congrArg List.head? hlong) (head?_toDigits_ne hpos)
  · next heq => cases heq; rfl

/-- What the digits of a number are read as. -/
theorem scanUnsigned_toDigits (negative : Bool) (n : Nat) :
    scanUnsigned negative (Nat.toDigits 10 n) =
      some (Number.Written.value? ⟨negative, digitValues (Nat.toDigits 10 n), none, none⟩, []) := by
  rw [scanUnsigned, scanWhole_toDigits]
  rfl

/-- Without a minus in front the digits are those of a number that is not negative. -/
theorem scanNumber_toDigits (n : Nat) :
    scanNumber (Nat.toDigits 10 n) = scanUnsigned false (Nat.toDigits 10 n) := by
  rw [scanNumber]
  intro cs hcs
  have hminus : '-' ∈ Nat.toDigits 10 n := hcs ▸ List.mem_cons_self
  exact absurd (Nat.isDigit_of_mem_toDigits (by decide) (by decide) hminus) (by decide)

/-- **An integer between the bounds survives.** -/
theorem Number.survives_int {i : Int} (hlow : -(2 ^ 63) ≤ i) (hhigh : i < 2 ^ 64) :
    (int i).Survives := by
  cases i with
  | ofNat n =>
    have hn : n < 2 ^ 64 := Int.ofNat_lt.1 hhigh
    have htext : ((int (.ofNat n)).text .json).toList = Nat.toDigits 10 n := Nat.toList_repr
    rw [Survives, htext, scanNumber_toDigits, scanUnsigned_toDigits]
    simp [Written.value?, takeWhole_toDigits hn]
  | negSucc n =>
    have hn : n + 1 ≤ 2 ^ 63 := by omega
    have hfits : n + 1 < significandBound := lt_of_le_of_lt hn (by decide)
    have htext : ((int (.negSucc n)).text .json).toList = '-' :: Nat.toDigits 10 (n + 1) := by
      have hminus : ((int (.negSucc n)).text .json).toList = ("-" ++ (n + 1).repr).toList := rfl
      rw [hminus, String.toList_append, Nat.toList_repr]
      rfl
    rw [Survives, htext, scanNumber, scanUnsigned_toDigits]
    have hbound : n + 1 ≤ Nat.pow 2 63 := hn
    simp only [Written.value?, takeWhole_toDigits hfits, hbound]
    simp [Int.negSucc_eq]

/-- The double `1.5` survives… -/
example : (Number.double ⟨false, 3 * 2 ^ 51, -52⟩).Survives := by decide +kernel

/-- …but `1.0000000000000007` is read as the next one: its digits make no double before they are
scaled. -/
example : ¬ (Number.double ⟨false, 2 ^ 52 + 3, -52⟩).Survives := by decide +kernel

/-! ## Strings -/

theorem hexUnit?_escapeDigit {n : Nat} (h : n < 0x20) :
    hexUnit? '0' '0' (escapeDigit (n / 16)) (escapeDigit (n % 16)) = some n := by
  revert n
  decide

theorem scanChars_escapedChar (acc : List Char) (c : Char) (rest : List Char) :
    scanChars acc none true (escapedChar c ++ rest) = scanChars (c :: acc) none true rest := by
  unfold escapedChar
  split_ifs with h₁ h₂ h₃ h₄ h₅ h₆ h₇ h₈
  · subst h₁; rfl
  · subst h₂; rfl
  · subst h₃; rfl
  · subst h₄; rfl
  · subst h₅; rfl
  · subst h₆; rfl
  · subst h₇; rfl
  · have hunit := hexUnit?_escapeDigit h₈
    have hchar : Char.ofNat c.toNat = c := Char.ofNat_toNat c
    simp only [List.cons_append, List.nil_append, scanChars, hunit, hchar]
    split_ifs <;> first | rfl | omega
  · simp [scanChars, h₂, h₈]

/-- **The escapes of a string are undone**, one by one. -/
theorem scanChars_flatMap (s acc rest : List Char) :
    scanChars acc none true (s.flatMap escapedChar ++ '"' :: rest) =
      some (some (String.ofList (acc.reverse ++ s)), rest) := by
  induction s generalizing acc with
  | nil => simp [scanChars]
  | cons c s ih =>
    rw [List.flatMap_cons, List.append_assoc, scanChars_escapedChar, ih, List.reverse_cons,
      List.append_assoc, List.singleton_append]

theorem scanString_flatMap (s : String) (rest : List Char) :
    scanString (s.toList.flatMap escapedChar ++ '"' :: rest) = some (some s, rest) := by
  rw [scanString, scanChars_flatMap, List.reverse_nil, List.nil_append, String.ofList_toList]

theorem toList_stringText (s : String) :
    (stringText s).toList = '"' :: (s.toList.flatMap escapedChar ++ ['"']) := by
  rw [stringText, String.toList_ofList]
  rfl

/-! ## Values -/

/-- Every integer in the value lies between the bounds, and every double survives. -/
inductive Survives : Json → Prop where
  | null : Survives .null
  | bool (b : Bool) : Survives (.bool b)
  | int {i : Int} (hlow : -(2 ^ 63) ≤ i) (hhigh : i < 2 ^ 64) : Survives (.num (.int i))
  | double {d : Double} (h : (Number.double d).Survives) : Survives (.num (.double d))
  | str (s : String) : Survives (.str s)
  | arr {items : List Json} (h : ∀ v ∈ items, Survives v) : Survives (.arr items)
  | obj {members : Members} (h : ∀ e ∈ members, Survives e.2) : Survives (.obj members)

mutual

/-- Whether every integer in the value lies between the bounds and every double survives. -/
def survives : Json → Bool
  | .num (.int i) => decide (-(2 ^ 63) ≤ i ∧ i < 2 ^ 64)
  | .num (.double d) => decide (Number.double d).Survives
  | .arr items => survivesItems items
  | .obj members => survivesMembers members
  | _ => true

def survivesItems : List Json → Bool
  | [] => true
  | v :: rest => survives v && survivesItems rest

def survivesMembers : List (String × Json) → Bool
  | [] => true
  | (_, v) :: rest => survives v && survivesMembers rest

end

mutual

theorem survives_iff : ∀ v : Json, v.survives = true ↔ v.Survives
  | .null => ⟨fun _ => .null, fun _ => rfl⟩
  | .bool b => ⟨fun _ => .bool b, fun _ => rfl⟩
  | .num (.int i) => by
    rw [survives, decide_eq_true_iff]
    exact ⟨fun h => .int h.1 h.2, fun | .int hlow hhigh => ⟨hlow, hhigh⟩⟩
  | .num (.double d) => by
    rw [survives, decide_eq_true_iff]
    exact ⟨.double, fun | .double h => h⟩
  | .str s => ⟨fun _ => .str s, fun _ => rfl⟩
  | .arr items => by
    rw [survives, survivesItems_iff items]
    exact ⟨.arr, fun | .arr h => h⟩
  | .obj members => by
    rw [survives, survivesMembers_iff members]
    exact ⟨.obj, fun | .obj h => h⟩

theorem survivesItems_iff : ∀ vs : List Json, survivesItems vs = true ↔ ∀ v ∈ vs, v.Survives
  | [] => ⟨fun _ _ hv => absurd hv List.not_mem_nil, fun _ => rfl⟩
  | v :: vs => by
    rw [survivesItems, Bool.and_eq_true, survives_iff v, survivesItems_iff vs,
      List.forall_mem_cons]

theorem survivesMembers_iff :
    ∀ ms : List (String × Json), survivesMembers ms = true ↔ ∀ e ∈ ms, e.2.Survives
  | [] => ⟨fun _ _ he => absurd he List.not_mem_nil, fun _ => rfl⟩
  | (_, v) :: ms => by
    rw [survivesMembers, Bool.and_eq_true, survives_iff v, survivesMembers_iff ms,
      List.forall_mem_cons]

end

instance : DecidablePred Survives := fun v => decidable_of_iff _ (survives_iff v)

variable {v : Json} {depth fuel : Nat}

theorem skipBlank_skipBlank (cs : List Char) : skipBlank (skipBlank cs) = skipBlank cs :=
  List.dropWhile_idempotent _ cs

theorem skipBlank_lineBreak (depth : Nat) (cs : List Char) :
    skipBlank ((lineBreak depth).toList ++ cs) = skipBlank cs := by
  have hblanks : ∀ n, skipBlank (List.replicate n ' ' ++ cs) = skipBlank cs := fun n => by
    induction n with
    | zero => rfl
    | succ n ih => exact ih
  rw [lineBreak, String.toList_ofList]
  exact hblanks (2 * depth)

/-- A number that is read starts with a minus or a digit. -/
theorem exists_cons_of_scanNumber {p : Option Number × List Char} (h : scanNumber cs = some p) :
    ∃ c tail, cs = c :: tail ∧ (c = '-' ∨ c.isDigit = true) := by
  cases cs with
  | nil => cases h
  | cons c tail =>
    refine ⟨c, tail, rfl, ?_⟩
    by_cases hc : c = '-'
    · exact .inl hc
    · by_contra hnone
      have hdigit : c.isDigit = false := by simpa [hc] using hnone
      simp [scanNumber, hc, scanUnsigned, scanWhole, spanDigits, hdigit] at h

/-- What stands between the brackets of an array and before the closing one. -/
theorem toList_prettyAt_arr (depth : Nat) (v : Json) (vs : List Json) :
    (prettyAt depth (.arr (v :: vs))).toList =
      '[' :: ((",".intercalate (prettyItems (depth + 1) (v :: vs))).toList ++
        (lineBreak depth).toList ++ [']']) := by
  simp [prettyAt]

theorem toList_prettyAt_obj (depth : Nat) (e : String × Json) (ms : Members) :
    (prettyAt depth (.obj (e :: ms))).toList =
      '\x7b' :: ((",".intercalate (prettyMembers (depth + 1) (e :: ms))).toList ++
        (lineBreak depth).toList ++ ['\x7d']) := by
  simp [prettyAt]

/-- A value can start with the character. -/
def Opens (c : Char) : Prop := c ∈ ['n', 't', 'f', '"', '[', '\x7b', '-'] ∨ c.isDigit = true

theorem Opens.ne {c d : Char} (h : Opens c) (hd : ¬ Opens d) : c ≠ d := fun heq => hd (heq ▸ h)

theorem Opens.skipBlank_cons {c : Char} (h : Opens c) (cs : List Char) :
    skipBlank (c :: cs) = c :: cs := by
  have hspace := h.ne (d := ' ') (by unfold Opens; decide)
  have hline := h.ne (d := '\n') (by unfold Opens; decide)
  have htab := h.ne (d := '\t') (by unfold Opens; decide)
  have hreturn := h.ne (d := '\r') (by unfold Opens; decide)
  simp [skipBlank, hspace, hline, htab, hreturn]

theorem exists_prettyAt_num_eq_cons {n : Number} (h : n.Survives) (depth : Nat) :
    ∃ c tail, (prettyAt depth (.num n)).toList = c :: tail ∧ Opens c := by
  obtain ⟨c, tail, htext, hc⟩ := exists_cons_of_scanNumber h
  refine ⟨c, tail, by simp [prettyAt, text, htext], hc.imp_left ?_⟩
  rintro rfl
  decide

/-- A value starts with a character that opens one. -/
theorem exists_prettyAt_eq_cons (h : v.Survives) (depth : Nat) :
    ∃ c tail, (prettyAt depth v).toList = c :: tail ∧ Opens c := by
  cases h with
  | null => exact ⟨'n', ['u', 'l', 'l'], by simp [prettyAt, text], .inl (by decide)⟩
  | bool b =>
    cases b with
    | false => exact ⟨'f', ['a', 'l', 's', 'e'], by simp [prettyAt, text], .inl (by decide)⟩
    | true => exact ⟨'t', ['r', 'u', 'e'], by simp [prettyAt, text], .inl (by decide)⟩
  | int hlow hhigh => exact exists_prettyAt_num_eq_cons (Number.survives_int hlow hhigh) depth
  | double h => exact exists_prettyAt_num_eq_cons h depth
  | str s =>
    refine ⟨'"', s.toList.flatMap escapedChar ++ ['"'], ?_, .inl (by decide)⟩
    simp only [prettyAt, text, toList_stringText]
  | @arr items _ =>
    cases items with
    | nil => exact ⟨'[', [']'], by simp [prettyAt], .inl (by decide)⟩
    | cons v vs => exact ⟨'[', _, toList_prettyAt_arr depth v vs, .inl (by decide)⟩
  | @obj members _ =>
    cases members with
    | nil => exact ⟨'\x7b', ['\x7d'], by simp [prettyAt], .inl (by decide)⟩
    | cons e ms => exact ⟨'\x7b', _, toList_prettyAt_obj depth e ms, .inl (by decide)⟩

theorem skipBlank_prettyAt (h : v.Survives) (depth : Nat) (rest : List Char) :
    skipBlank ((prettyAt depth v).toList ++ rest) = (prettyAt depth v).toList ++ rest := by
  obtain ⟨c, tail, htext, hopens⟩ := exists_prettyAt_eq_cons h depth
  rw [htext, List.cons_append, hopens.skipBlank_cons]

/-! ## Rows -/

/-- The texts of a row after the first one, each behind a comma. -/
def following : List String → List Char
  | [] => []
  | t :: ts => ',' :: (",".intercalate (t :: ts)).toList

theorem toList_intercalate_cons (t : String) (ts : List String) :
    (",".intercalate (t :: ts)).toList = t.toList ++ following ts := by
  cases ts with
  | nil => simp [following]
  | cons u us => simp [following, String.intercalate_cons_cons]

/-- Behind a text that is not the last one comes a comma. -/
theorem skipBlank_following {ts : List String} (hne : ts ≠ []) (rest : List Char) :
    skipBlank (following ts ++ rest) = ',' :: ((",".intercalate ts).toList ++ rest) := by
  cases ts with
  | nil => exact absurd rfl hne
  | cons t ts => rfl

theorem length_following {ts : List String} (hne : ts ≠ []) :
    (following ts).length = (",".intercalate ts).toList.length + 1 := by
  cases ts with
  | nil => exact absurd rfl hne
  | cons t ts => rfl

/-- What ends a row: the closing character on a line of its own. -/
theorem follows_following (ts : List String) (depth : Nat) (rest : List Char) :
    Follows (following ts ++ ((lineBreak depth).toList ++ rest)) := by
  cases ts with
  | nil =>
    rw [lineBreak, String.toList_ofList]
    rintro c ⟨⟩
    exact .inr rfl
  | cons t ts =>
    rintro c ⟨⟩
    exact .inl rfl

/-- The value is scanned as itself wherever it is printed, with fuel for its text. -/
def Scans (v : Json) : Prop :=
  ∀ depth fuel cs rest, (prettyAt depth v).toList.length < fuel → Follows rest →
    skipBlank cs = (prettyAt depth v).toList ++ rest → scanValue fuel cs = (ofJson v, some rest)

theorem scans_of_succ (h : ∀ depth fuel cs rest, (prettyAt depth v).toList.length ≤ fuel →
    Follows rest → skipBlank cs = (prettyAt depth v).toList ++ rest →
      scanValue (fuel + 1) cs = (ofJson v, some rest)) : v.Scans := by
  intro depth fuel cs rest hfuel hrest hcs
  obtain ⟨fuel, rfl⟩ : ∃ n, fuel = n + 1 := Nat.exists_eq_succ_of_ne_zero (by omega)
  exact h depth fuel cs rest (Nat.le_of_lt_succ hfuel) hrest hcs

theorem length_lineBreak_pos (depth : Nat) : 0 < (lineBreak depth).toList.length := by
  simp [lineBreak]

/-- What a row of items starts with behind its line break opens a value. -/
theorem exists_skipBlank_prettyItems (h : v.Survives) (depth : Nat) (vs : List Json)
    (rest : List Char) : ∃ c tail, Opens c ∧
      skipBlank ((",".intercalate (prettyItems depth (v :: vs))).toList ++ rest) = c :: tail := by
  obtain ⟨c, tail, htext, hopens⟩ := exists_prettyAt_eq_cons h depth
  refine ⟨c, tail ++ (following (prettyItems depth vs) ++ rest), hopens, ?_⟩
  rw [prettyItems, toList_intercalate_cons, String.toList_append, List.append_assoc,
    List.append_assoc, skipBlank_lineBreak, skipBlank_prettyAt h, htext, List.cons_append]

/-- What a row of members starts with behind its line break is a key. -/
theorem skipBlank_prettyMembers (depth : Nat) (key : String) (v : Json) (ms : Members)
    (rest : List Char) :
    skipBlank ((",".intercalate (prettyMembers depth ((key, v) :: ms))).toList ++ rest) =
      '"' :: (key.toList.flatMap escapedChar ++ '"' :: ':' :: ' ' :: ((prettyAt depth v).toList ++
        (following (prettyMembers depth ms) ++ rest))) := by
  rw [prettyMembers, toList_intercalate_cons]
  simp only [String.toList_append, List.append_assoc, skipBlank_lineBreak, toList_stringText,
    List.cons_append]
  rfl

/-- **The items of an array are scanned one after the other**, up to its bracket. -/
theorem scanItems_prettyItems {items : List Json} (hne : items ≠ [])
    (hs : ∀ v ∈ items, v.Survives ∧ v.Scans) {inner outer fuel : Nat} {cs rest : List Char}
    (hfuel : (",".intercalate (prettyItems inner items)).toList.length < fuel)
    (hcs : skipBlank cs = skipBlank ((",".intercalate (prettyItems inner items)).toList ++
      ((lineBreak outer).toList ++ ']' :: rest))) :
    scanItems fuel cs = (ofItems items, some rest) := by
  induction items generalizing fuel cs with
  | nil => exact absurd rfl hne
  | cons v vs ih =>
    obtain ⟨⟨hsurvives, hscans⟩, hvs⟩ := List.forall_mem_cons.1 hs
    obtain ⟨fuel, rfl⟩ : ∃ n, fuel = n + 1 := Nat.exists_eq_succ_of_ne_zero (by omega)
    have hbreak := length_lineBreak_pos inner
    simp only [prettyItems, toList_intercalate_cons, String.toList_append, List.append_assoc,
      skipBlank_lineBreak, skipBlank_prettyAt hsurvives] at hcs
    simp only [prettyItems, toList_intercalate_cons, String.toList_append,
      List.length_append] at hfuel
    have hv := hscans inner fuel cs _ (by omega) (follows_following _ outer _) hcs
    simp only [scanItems, hv]
    cases vs with
    | nil =>
      simp only [prettyItems, following, List.nil_append, skipBlank_lineBreak]
      rfl
    | cons w vs =>
      have hrow : prettyItems inner (w :: vs) ≠ [] := List.cons_ne_nil _ _
      have hlength := length_following hrow
      have hfuel : (",".intercalate (prettyItems inner (w :: vs))).toList.length < fuel := by omega
      simp only [skipBlank_following hrow, ih (List.cons_ne_nil w vs) hvs hfuel rfl]
      rfl

/-- **The members of an object are scanned one after the other**, up to its brace. -/
theorem scanMembers_prettyMembers {members : Members} (hne : members ≠ [])
    (hs : ∀ e ∈ members, e.2.Survives ∧ e.2.Scans) {inner outer fuel : Nat} {cs rest : List Char}
    (hfuel : (",".intercalate (prettyMembers inner members)).toList.length < fuel)
    (hcs : skipBlank cs = skipBlank ((",".intercalate (prettyMembers inner members)).toList ++
      ((lineBreak outer).toList ++ '\x7d' :: rest))) :
    scanMembers fuel cs = (ofMembers members, some rest) := by
  induction members generalizing fuel cs with
  | nil => exact absurd rfl hne
  | cons e ms ih =>
    obtain ⟨key, v⟩ := e
    obtain ⟨hv, hms⟩ := List.forall_mem_cons.1 hs
    obtain ⟨hsurvives, hscans⟩ : v.Survives ∧ v.Scans := hv
    obtain ⟨fuel, rfl⟩ : ∃ n, fuel = n + 1 := Nat.exists_eq_succ_of_ne_zero (by omega)
    have hcolon : ∀ cs, skipBlank (':' :: cs) = ':' :: cs := fun _ => rfl
    rw [skipBlank_prettyMembers] at hcs
    simp only [prettyMembers, toList_intercalate_cons, String.toList_append,
      List.length_append] at hfuel
    have hbreak := length_lineBreak_pos inner
    have hv : ∀ tail, Follows tail → scanValue fuel (' ' :: ((prettyAt inner v).toList ++ tail)) =
        (ofJson v, some tail) := fun tail htail =>
      hscans inner fuel _ tail (by omega) htail (skipBlank_prettyAt hsurvives inner tail)
    simp only [scanMembers, hcs, scanString_flatMap, hcolon, hv _ (follows_following _ outer _)]
    cases ms with
    | nil =>
      simp only [prettyMembers, following, List.nil_append, skipBlank_lineBreak]
      rfl
    | cons f ms =>
      have hrow : prettyMembers inner (f :: ms) ≠ [] := List.cons_ne_nil _ _
      have hlength := length_following hrow
      have hfuel : (",".intercalate (prettyMembers inner (f :: ms))).toList.length < fuel := by
        omega
      simp only [skipBlank_following hrow, ih (List.cons_ne_nil f ms) hms hfuel rfl]
      rfl

/-! ## Values -/

/-- A number is scanned where no other value begins. -/
theorem scanValue_of_scanNumber {n : Number} {c : Char} {tail : List Char}
    (hc : c = '-' ∨ c.isDigit = true) (hcs : skipBlank cs = c :: tail)
    (h : scanNumber (c :: tail) = some (some n, rest)) :
    scanValue (fuel + 1) cs = (.num n, some rest) := by
  have hnot : ∀ d, ¬ (d = '-' ∨ d.isDigit = true) → c ≠ d := fun d hd heq => hd (heq ▸ hc)
  have hn := hnot 'n' (by decide)
  have ht := hnot 't' (by decide)
  have hf := hnot 'f' (by decide)
  have hquote := hnot '"' (by decide)
  have hbracket := hnot '[' (by decide)
  have hbrace := hnot '\x7b' (by decide)
  simp [scanValue, hcs, hn, ht, hf, hquote, hbracket, hbrace, h]

/-- An array that has items is scanned behind its bracket. -/
theorem scanValue_bracket {tail : List Char} (hcs : skipBlank cs = '[' :: tail)
    (hne : ∀ rest, skipBlank tail ≠ ']' :: rest) : scanValue (fuel + 1) cs =
      (.seq (scanItems fuel (skipBlank tail)).1 (scanItems fuel (skipBlank tail)).2.isSome,
        (scanItems fuel (skipBlank tail)).2) := by
  simp [scanValue, hcs]

theorem scanValue_brace {tail : List Char} (hcs : skipBlank cs = '\x7b' :: tail)
    (hne : ∀ rest, skipBlank tail ≠ '\x7d' :: rest) : scanValue (fuel + 1) cs =
      (.map (scanMembers fuel (skipBlank tail)).1 (scanMembers fuel (skipBlank tail)).2.isSome,
        (scanMembers fuel (skipBlank tail)).2) := by
  simp [scanValue, hcs]

theorem scans_null : Scans .null := by
  refine scans_of_succ fun depth fuel cs rest _ _ hcs => ?_
  have hcs : skipBlank cs = 'n' :: 'u' :: 'l' :: 'l' :: rest := by
    simpa [prettyAt, text] using hcs
  simp [scanValue, hcs, ofJson]

theorem scans_bool (b : Bool) : Scans (.bool b) := by
  refine scans_of_succ fun depth fuel cs rest _ _ hcs => ?_
  cases b with
  | false =>
    have hcs : skipBlank cs = 'f' :: 'a' :: 'l' :: 's' :: 'e' :: rest := by
      simpa [prettyAt, text] using hcs
    simp [scanValue, hcs, ofJson]
  | true =>
    have hcs : skipBlank cs = 't' :: 'r' :: 'u' :: 'e' :: rest := by
      simpa [prettyAt, text] using hcs
    simp [scanValue, hcs, ofJson]

theorem scans_num {n : Number} (h : n.Survives) : Scans (.num n) := by
  refine scans_of_succ fun depth fuel cs rest _ hrest hcs => ?_
  obtain ⟨c, tail, htext, hc⟩ := exists_cons_of_scanNumber h
  have hnumber := scanNumber_append hrest (n.text .json).toList
  rw [h, htext] at hnumber
  have hcs : skipBlank cs = c :: (tail ++ rest) := by simpa [prettyAt, text, htext] using hcs
  rw [ofJson]
  exact scanValue_of_scanNumber hc hcs hnumber

theorem scans_str (s : String) : Scans (.str s) := by
  refine scans_of_succ fun depth fuel cs rest _ _ hcs => ?_
  have hcs : skipBlank cs = '"' :: (s.toList.flatMap escapedChar ++ '"' :: rest) := by
    simpa [prettyAt, text, toList_stringText] using hcs
  simp [scanValue, hcs, scanString_flatMap, ofJson]

theorem scans_arr {items : List Json} (hs : ∀ v ∈ items, v.Survives ∧ v.Scans) :
    Scans (.arr items) := by
  refine scans_of_succ fun depth fuel cs rest hfuel _ hcs => ?_
  cases items with
  | nil =>
    have hcs : skipBlank cs = '[' :: ']' :: rest := by simpa [prettyAt] using hcs
    have hclose : skipBlank (']' :: rest) = ']' :: rest := rfl
    simp [scanValue, hcs, hclose, ofJson, ofItems]
  | cons v vs =>
    rw [toList_prettyAt_arr] at hcs hfuel
    have hcs : skipBlank cs = '[' :: ((",".intercalate
        (prettyItems (depth + 1) (v :: vs))).toList ++
          ((lineBreak depth).toList ++ ']' :: rest)) := by
      simpa using hcs
    have hfuel : (",".intercalate (prettyItems (depth + 1) (v :: vs))).toList.length < fuel := by
      simp only [List.length_cons, List.length_append] at hfuel
      omega
    obtain ⟨c, tail, hopens, htail⟩ := exists_skipBlank_prettyItems (hs v List.mem_cons_self).1
      (depth + 1) vs ((lineBreak depth).toList ++ ']' :: rest)
    have hne : ∀ rest, c :: tail ≠ ']' :: rest := fun rest heq =>
      hopens.ne (by unfold Opens; decide) (List.cons.inj heq).1
    rw [scanValue_bracket hcs (htail ▸ hne),
      scanItems_prettyItems (List.cons_ne_nil v vs) hs hfuel (skipBlank_skipBlank _)]
    rfl

theorem scans_obj {members : Members} (hs : ∀ e ∈ members, e.2.Survives ∧ e.2.Scans) :
    Scans (.obj members) := by
  refine scans_of_succ fun depth fuel cs rest hfuel _ hcs => ?_
  cases members with
  | nil =>
    have hcs : skipBlank cs = '\x7b' :: '\x7d' :: rest := by simpa [prettyAt] using hcs
    have hclose : skipBlank ('\x7d' :: rest) = '\x7d' :: rest := rfl
    simp [scanValue, hcs, hclose, ofJson, ofMembers]
  | cons e ms =>
    rw [toList_prettyAt_obj] at hcs hfuel
    have hcs : skipBlank cs = '\x7b' :: ((",".intercalate
        (prettyMembers (depth + 1) (e :: ms))).toList ++
          ((lineBreak depth).toList ++ '\x7d' :: rest)) := by
      simpa using hcs
    have hfuel : (",".intercalate (prettyMembers (depth + 1) (e :: ms))).toList.length < fuel := by
      simp only [List.length_cons, List.length_append] at hfuel
      omega
    have hne : ∀ tail, skipBlank ((",".intercalate
        (prettyMembers (depth + 1) (e :: ms))).toList ++
          ((lineBreak depth).toList ++ '\x7d' :: rest)) ≠ '\x7d' :: tail := by
      rw [skipBlank_prettyMembers]
      simp
    rw [scanValue_brace hcs hne,
      scanMembers_prettyMembers (List.cons_ne_nil e ms) hs hfuel (skipBlank_skipBlank _)]
    rfl

/-- **A value whose numbers survive is scanned as itself** wherever it is printed. -/
theorem Survives.scans (h : v.Survives) : v.Scans := by
  induction h with
  | null => exact scans_null
  | bool b => exact scans_bool b
  | int hlow hhigh => exact scans_num (Number.survives_int hlow hhigh)
  | double h => exact scans_num h
  | str s => exact scans_str s
  | arr h ih => exact scans_arr fun v hv => ⟨h v hv, ih v hv⟩
  | obj h ih => exact scans_obj fun e he => ⟨h e he, ih e he⟩

/-- **A value whose numbers survive is scanned from its text as itself**, to the end of the text. -/
theorem scan_pretty (h : v.Survives) : scan v.pretty = (ofJson v, some []) := by
  have hstart := skipBlank_prettyAt h 0 []
  rw [List.append_nil] at hstart
  refine h.scans 0 _ v.pretty.toList [] ?_ (fun c hc => by cases hc) ?_
  · rw [pretty]
    omega
  · rw [List.append_nil]
    exact hstart

end InterfaceGen.Json
