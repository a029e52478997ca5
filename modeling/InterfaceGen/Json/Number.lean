import InterfaceGen.Json.Double

/-!
# Json/Number — integers and doubles

A number written without point and exponent is an integer if it lies between `-2^63` and `2^64 - 1`,
and every other number is a double; `-0` is a double too. The first digits that fit below `2^64`
make the significand, and later digits only move the exponent.
-/

namespace InterfaceGen.Json

/-- A number of a JSON text. -/
inductive Number where
  | int (value : Int)
  | double (value : Double)
  deriving Repr, DecidableEq

namespace Number

/-! ## Reading -/

/-- One past the greatest significand. -/
def significandBound : Nat := Nat.pow 2 64

/-- The greatest exponent that is written out; a larger one means zero or overflow. -/
def exponentBound : Nat := Nat.pow 2 31 - 1

/-- The significand and the number of digits it left out. -/
def takeWhole : Nat → Nat → List Nat → Nat × Nat
  | significand, dropped, [] => (significand, dropped)
  | significand, dropped, d :: ds =>
    if dropped = 0 ∧ significand * 10 + d < significandBound then
      takeWhole (significand * 10 + d) 0 ds
    else takeWhole significand (dropped + 1) ds

/-- The significand after the fraction digits that still fit, and how many did. -/
def takeFraction : Nat → Nat → List Nat → Nat × Nat
  | significand, taken, [] => (significand, taken)
  | significand, taken, d :: ds =>
    if significand * 10 + d < significandBound then
      takeFraction (significand * 10 + d) (taken + 1) ds
    else (significand, taken)

/-- The parts of a number as it is written. -/
structure Written where
  negative : Bool
  whole : List Nat
  fraction : Option (List Nat)
  exponent : Option Int

/-- The value of a written number; none if it is too large for a double. -/
def Written.value? (w : Written) : Option Number :=
  let (whole, dropped) := takeWhole 0 0 w.whole
  if dropped = 0 ∧ w.fraction = none ∧ w.exponent = none then
    if w.negative = false then some (.int whole)
    else if whole = 0 then some (.double (Double.zero true))
    else if whole ≤ Nat.pow 2 63 then some (.int (-whole))
    else some (.double { Double.ofInt whole with negative := true })
  else
    let (significand, taken) := match w.fraction with
      | none => (whole, 0)
      | some ds => takeFraction whole 0 ds
    let shift : Int := dropped - taken
    let exponent := w.exponent.getD 0
    if exponentBound < exponent.natAbs then
      if significand ≠ 0 ∧ 0 < exponent then none else some (.double (Double.zero w.negative))
    else
      (Double.ofDecimal w.negative (Double.ofInt significand) (shift + exponent)).map .double

/-! ## Views -/

/-- The nearest double. -/
def toDouble : Number → Double
  | int i => Double.ofInt i
  | double d => d

/-- Equality of numbers: an integer and a double are never equal. -/
def same : Number → Number → Bool
  | int a, int b => a == b
  | double a, double b => a.sameValue b
  | _, _ => false

/-- The text of a number in a layout. -/
def text (layout : Double.Layout) : Number → String
  | int i => toString i
  | double d => d.text layout

@[simp] theorem same_refl (n : Number) : n.same n = true := by cases n <;> simp [same]

theorem same_comm (a b : Number) : a.same b = b.same a := by
  cases a <;> cases b <;> simp [same, Double.sameValue_comm, Bool.beq_comm]

end Number

end InterfaceGen.Json
