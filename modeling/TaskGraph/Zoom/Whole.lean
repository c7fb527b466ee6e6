-- SUMMARY: The whole number nearest to a float, and the float nearest to a whole number.
import TaskGraph.Decimal.Shortest

/-!
# Floats and whole numbers

Rounding is done in exact arithmetic: a float is a significand times a power of two,
and a power below one leaves a quotient to round. A half goes away from zero.
-/
namespace TaskGraph.Zoom

open Decimal (Binary)

/-- The sign bit, which a zero has too. -/
def isNegative (x : Float) : Bool := x.toBits.toNat / Nat.pow 2 63 = 1

/-- The value rounded to a whole number. -/
def roundedBinary (b : Binary) : Nat :=
  let scale := Nat.pow 2 b.exponent.natAbs
  if 0 ≤ b.exponent then b.significand * scale else (b.significand + scale / 2) / scale

/-- The whole number nearest to a finite float. An infinite float gives a number that is
greater than every finite one. -/
def nearestInt (x : Float) : Int :=
  match Binary.ofFloat? x with
  | some b => if isNegative x then -(roundedBinary b : Int) else roundedBinary b
  | none => 0

/-- The float of the whole number nearest to a float. One without a fraction stays as it is,
and so does one that is infinite or not a number. -/
def nearestFloat (x : Float) : Float :=
  match Binary.ofFloat? x with
  | some b =>
    if 0 ≤ b.exponent then x
    else
      let f := (roundedBinary b).toUInt64.toFloat
      if isNegative x then -f else f
  | none => x

/-- The float nearest to a 64-bit number. -/
def ofInt64 (z : Int64) : Float :=
  let f := z.toInt.natAbs.toUInt64.toFloat
  if z < 0 then -f else f

end TaskGraph.Zoom
