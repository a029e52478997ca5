/-!
# Json/Double — binary floating-point numbers as exact dyadic values

A double is `mantissa · 2 ^ exponent` with a sign, and every operation here is exact arithmetic on
natural numbers followed by one rounding to the nearest double, ties to the even mantissa. Nothing
rests on machine floating point, so each result can be computed in a proof.
-/

namespace InterfaceGen.Json

/-- The double `± mantissa · 2 ^ exponent`. In normal form the mantissa has 53 bits, or it has
fewer and the exponent is the least one, `-1074`. -/
structure Double where
  negative : Bool
  mantissa : Nat
  exponent : Int
  deriving Repr, DecidableEq

namespace Double

/-! ## Rounding -/

/-- The least exponent of a double. -/
def minExponent : Int := -1074

/-- The greatest exponent of a finite double. -/
def maxExponent : Int := 971

/-- Positive or negative zero. -/
def zero (negative : Bool) : Double := ⟨negative, 0, minExponent⟩

/-- Whether the value is a zero of either sign. -/
def isZero (d : Double) : Bool := d.mantissa == 0

/-- The quotient `num / den`, rounded to a natural number, ties to the even one. -/
def roundQuotient (num den : Nat) : Nat :=
  let q := num / den
  let twice := 2 * (num % den)
  if twice < den then q else if twice = den then q + q % 2 else q + 1

/-- The exponent of the double next to the positive ratio `num / den`. -/
def exponentOfRatio (num den : Nat) : Int :=
  let guess : Int := (num.log2 : Int) - den.log2
  let reaches := if 0 ≤ guess then den * Nat.pow 2 guess.toNat ≤ num
    else den ≤ num * Nat.pow 2 (-guess).toNat
  max ((if reaches then guess else guess - 1) - 52) minExponent

/-- The double nearest to `± num / den`, if it is finite. -/
def ofRatio (negative : Bool) (num den : Nat) : Option Double :=
  if num = 0 then some (zero negative)
  else
    let e := exponentOfRatio num den
    let m := if 0 ≤ e then roundQuotient num (den * Nat.pow 2 e.toNat)
      else roundQuotient (num * Nat.pow 2 (-e).toNat) den
    let d : Double := if m = Nat.pow 2 53 then ⟨negative, Nat.pow 2 52, e + 1⟩ else ⟨negative, m, e⟩
    if d.exponent ≤ maxExponent then some d else none

/-- The numerator of the absolute value. -/
def numerator (d : Double) : Nat :=
  if 0 ≤ d.exponent then d.mantissa * Nat.pow 2 d.exponent.toNat else d.mantissa

/-- The denominator of the absolute value. -/
def denominator (d : Double) : Nat :=
  if 0 ≤ d.exponent then 1 else Nat.pow 2 (-d.exponent).toNat

/-- The product of two doubles, if it is finite. -/
def mul (a b : Double) : Option Double :=
  ofRatio (a.negative != b.negative) (a.numerator * b.numerator) (a.denominator * b.denominator)

/-- The quotient of two doubles, if it is finite and the divisor is not zero. -/
def div (a b : Double) : Option Double :=
  if b.isZero then none
  else ofRatio (a.negative != b.negative) (a.numerator * b.denominator)
    (a.denominator * b.numerator)

/-- The double nearest to an integer below `2 ^ 1023`. -/
def ofInt (i : Int) : Double :=
  (ofRatio (decide (i < 0)) i.natAbs 1).getD (zero false)

/-- Equality of values: the two zeros are equal. -/
def sameValue (a b : Double) : Bool :=
  (a.isZero && b.isZero) || decide (a = b)

@[simp] theorem sameValue_refl (d : Double) : d.sameValue d = true := by simp [sameValue]

theorem sameValue_comm (a b : Double) : a.sameValue b = b.sameValue a := by
  simp only [sameValue, Bool.and_comm, eq_comm]

/-! ## Reading a decimal -/

/-- The double nearest to `10 ^ k`. -/
def powerOfTen (k : Nat) : Double := (ofRatio false (Nat.pow 10 k) 1).getD (zero false)

/-- The quotient by `10 ^ 308`, taken `n` times. -/
def scaleDown : Nat → Double → Option Double
  | 0, d => some d
  | n + 1, d => (d.div (powerOfTen 308)).bind (scaleDown n)

/-- The double read from `± significand · 10 ^ exponent`: the significand is rounded first, then
scaled by one rounded power of ten, or by several when the exponent is below `-308`. Three of them
already leave nothing of a significand below `2 ^ 64`. -/
def ofDecimal (negative : Bool) (significand : Double) (exponent : Int) : Option Double :=
  if significand.isZero then some (zero negative)
  else if 308 < exponent then none
  else if 0 ≤ exponent then
    (significand.mul (powerOfTen exponent.toNat)).map ({ · with negative })
  else
    let steps := ((-exponent - 1) / 308).toNat
    if 3 < steps then some (zero negative)
    else
      (scaleDown steps significand).bind fun scaled =>
        (scaled.div (powerOfTen (-exponent - 308 * steps).toNat)).map ({ · with negative })

/-! ## The shortest decimal -/

/-- The decimal `digits · 10 ^ exponent`. -/
structure Decimal where
  digits : Nat
  exponent : Int
  deriving Repr, DecidableEq

/-- Whether `10 ^ k ≤ num / den`. -/
def tenPowerLe (k : Int) (num den : Nat) : Bool :=
  if 0 ≤ k then den * Nat.pow 10 k.toNat ≤ num else den ≤ num * Nat.pow 10 (-k).toNat

/-- The exponent of the leading decimal digit of the positive ratio `num / den`. -/
def leadingExponent (num den : Nat) : Int :=
  let guess : Int := (((num.log2 : Int) - den.log2) * 30103) / 100000
  if tenPowerLe (guess + 1) num den then guess + 1
  else if tenPowerLe guess num den then guess
  else guess - 1

/-- The reals that round to one double, in quarter units: `low` and `high` are the ends, `value` is
the double, all over `den`; the ends belong to the interval if `closed`. -/
structure Interval where
  low : Nat
  value : Nat
  high : Nat
  den : Nat
  closed : Bool

/-- The interval of a positive double. -/
def interval (d : Double) : Interval :=
  let unit : Int := d.exponent - 2
  let scale (n : Nat) : Nat := if 0 ≤ unit then n * Nat.pow 2 unit.toNat else n
  let below := if d.mantissa = Nat.pow 2 52 ∧ minExponent < d.exponent then 1 else 2
  { low := scale (4 * d.mantissa - below)
    value := scale (4 * d.mantissa)
    high := scale (4 * d.mantissa + 2)
    den := if 0 ≤ unit then 1 else Nat.pow 2 (-unit).toNat
    closed := d.mantissa % 2 == 0 }

/-- Whether the decimal `c · 10 ^ k` lies in the interval. -/
def Interval.holds (i : Interval) (c : Nat) (k : Int) : Bool :=
  let point := if 0 ≤ k then c * Nat.pow 10 k.toNat * i.den else c * i.den
  let scale (n : Nat) : Nat := if 0 ≤ k then n else n * Nat.pow 10 (-k).toNat
  if i.closed then scale i.low ≤ point && point ≤ scale i.high
  else scale i.low < point && point < scale i.high

/-- The multiple of `10 ^ k` nearest to the interval's value among those in the interval, ties to
the even one. -/
def Interval.nearest? (i : Interval) (k : Int) : Option Nat :=
  let num := if 0 ≤ k then i.value else i.value * Nat.pow 10 (-k).toNat
  let den := if 0 ≤ k then i.den * Nat.pow 10 k.toNat else i.den
  let down := num / den
  let twice := 2 * (num % den)
  match i.holds down k, i.holds (down + 1) k with
  | true, true => some (if twice < den ∨ (twice = den ∧ down % 2 = 0) then down else down + 1)
  | true, false => some down
  | false, true => some (down + 1)
  | false, false => none

/-- The decimal without trailing zeros in its digits. -/
def Decimal.stripZeros (d : Decimal) : Decimal :=
  if d.digits = 0 then d
  else if d.digits % 10 = 0 then stripZeros ⟨d.digits / 10, d.exponent + 1⟩
  else d
  termination_by d.digits
  decreasing_by omega

/-- The first grid of at most `count` more digits, from the power `k` downwards, that has a point in
the interval. -/
def Interval.firstGrid (i : Interval) : Nat → Int → Decimal
  | 0, k => ⟨0, k⟩
  | count + 1, k =>
    match i.nearest? k with
    | some c => Decimal.stripZeros ⟨c, k⟩
    | none => i.firstGrid count (k - 1)

/-- The fewest digits that read back as the double; seventeen always do. -/
def shortest (d : Double) : Decimal :=
  if d.isZero then ⟨0, 0⟩
  else
    let i := d.interval
    i.firstGrid 18 (leadingExponent i.value i.den)

/-! ## Text -/

/-- How doubles are laid out: between which powers of ten the digits are positional, and whether a
whole number keeps a zero after its point. -/
structure Layout where
  /-- The least and the greatest power of the leading digit written in positions; none bounds it
  not at all. -/
  positional : Option (Int × Int)
  wholeZero : Bool

/-- The layout of a JSON text: positions from `1e-5` up to `1e15`, and always a fraction digit. -/
def Layout.json : Layout := ⟨some (-5, 15), true⟩

/-- The layout of a value printed into a text: positions throughout, and no fraction digit when
there is nothing to say. -/
def Layout.plain : Layout := ⟨none, false⟩

/-- Digits in positions, where `point` of them stand before the point. -/
def positionalText (wholeZero : Bool) (digits : List Char) (point : Int) : List Char :=
  let n : Int := digits.length
  if n ≤ point then
    digits ++ List.replicate (point - n).toNat '0' ++ (if wholeZero then ['.', '0'] else [])
  else if 0 < point then
    digits.take point.toNat ++ '.' :: digits.drop point.toNat
  else
    '0' :: '.' :: List.replicate (-point).toNat '0' ++ digits

/-- Digits with an exponent: one before the point, the sign of the exponent always written. -/
def scientificText (digits : List Char) (leading : Int) : List Char :=
  let mark := if leading < 0 then ['e', '-'] else ['e', '+']
  let power := (Nat.repr leading.natAbs).toList
  match digits with
  | [] => []
  | [d] => d :: mark ++ power
  | d :: ds => d :: '.' :: ds ++ mark ++ power

/-- The text of a double in a layout. -/
def text (layout : Layout) (d : Double) : String :=
  let short := d.shortest
  let digits := (Nat.repr short.digits).toList
  let point : Int := digits.length + short.exponent
  let inPositions := match layout.positional with
    | none => true
    | some (least, greatest) => d.isZero || (least ≤ point - 1 && point - 1 ≤ greatest)
  let body := if inPositions then positionalText layout.wholeZero digits point
    else scientificText digits (point - 1)
  String.ofList (if d.negative then '-' :: body else body)

end Double

end InterfaceGen.Json
