-- SUMMARY: The floating-point value of a numeral, from a 64-bit significand and a power of ten.
import TaskGraph.Decimal.Numeral

/-!
# Values of numerals

The leading digits that fit 64 bits form the significand; digits beyond them only
move the exponent or are dropped. The significand is rounded to a float and scaled
by one power of ten, so a value can be off by a unit in the last place. A value
that would be infinite is no value; one that is too small is zero.
-/
namespace TaskGraph.Decimal

/-- Appends digits to `n` for as long as the result stays below `2 ^ 64`, and gives the
digits left over. -/
def absorb (n : Nat) : List Digit → Nat × List Digit
  | [] => (n, [])
  | d :: ds => if 10 * n + d.val < UInt64.size then absorb (10 * n + d.val) ds else (n, d :: ds)

/-- The greatest power of ten that is a finite float. -/
def maxPower : Nat := 308

/-- Divides by `10 ^ e`, in steps of the greatest power. -/
def scaleDown (f : Float) (e : Nat) : Float :=
  if e ≤ maxPower then f / Float.ofScientific 1 false e
  else if f == 0 then f
  else scaleDown (f / Float.ofScientific 1 false maxPower) (e - maxPower)
termination_by e
decreasing_by simp only [maxPower] at *; omega

/-- The float nearest to `significand`, scaled by `10 ^ e`. -/
def scaled? (significand : Nat) (e : Int) : Option Float :=
  let f := significand.toUInt64.toFloat
  match e with
  | .negSucc n => some (scaleDown f (n + 1))
  | .ofNat n =>
    if n ≤ maxPower then
      let g := f * Float.ofScientific 1 false n
      if g.isInf then none else some g
    else if f == 0 then some f
    else none

/-- Exponents beyond 32 bits are not computed with. -/
def maxExponent : Nat := UInt32.size / 2 - 1

/-- The value of a numeral, if it is finite. -/
def Numeral.toFloat? (n : Numeral) : Option Float := do
  let (high, dropped) := absorb 0 n.whole
  let (significand, unread) := absorb high n.fraction
  let shift : Int := dropped.length - (n.fraction.length - unread.length : Nat)
  let magnitude ← match n.exponent with
    | none => scaled? significand shift
    | some e =>
      if e.natAbs ≤ maxExponent then scaled? significand (shift + e)
      else if significand ≠ 0 ∧ 0 ≤ e then none
      else some 0
  return if n.negative then -magnitude else magnitude

end TaskGraph.Decimal
