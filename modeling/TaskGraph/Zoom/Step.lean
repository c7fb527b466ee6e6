-- SUMMARY: The zoom percentages that stepping in and out leads to.
import TaskGraph.Config
import TaskGraph.Zoom.Whole

/-!
# Zoom steps

Zoom is stepped along the multiples of a step. The zoom is first rounded to a whole
percentage in 64 bits; one that is not a number counts as zero, and one that is out
of range as the end of the range. A step fails if one of its sums is no 64-bit number.
-/
namespace TaskGraph.Zoom

/-! ## Sums -/

/-- The integer is a 64-bit number. -/
def InWord (n : Int) : Prop := Int64.minValue.toInt ≤ n ∧ n ≤ Int64.maxValue.toInt

instance (n : Int) : Decidable (InWord n) := inferInstanceAs (Decidable (_ ∧ _))

/-- The 64-bit number of an integer. -/
def word? (n : Int) : Option Int64 := if InWord n then some (.ofInt n) else none

def add? (a b : Int64) : Option Int64 := word? (a.toInt + b.toInt)

def sub? (a b : Int64) : Option Int64 := word? (a.toInt - b.toInt)

/-! ## Steps -/

/-- The whole percentage nearest to a zoom ratio. -/
def percent (ratio : Float) : Int64 :=
  let p := ratio * 100
  if p.isNaN then 0 else .ofIntClamp (nearestInt p)

/-- A 32-bit number among the 64-bit ones. -/
def wide (n : UInt32) : Int64 := Int64.ofNat n.toNat

/-- How far a percentage is above the greatest multiple of the step that is not above it. -/
def excess (step : UInt32) (z : Int64) : Int64 :=
  Int64.ofInt (z.toInt % (max step.toNat 1 : Nat))

/-- The greatest multiple of the step that is not above a percentage. -/
def snapped? (step : UInt32) (z : Int64) : Option Int64 := sub? z (excess step z)

inductive Direction where
  | up
  | down
  deriving DecidableEq, Repr

/-- Where a step from a percentage leads. Up it is the next multiple of the step, but not above the
greatest zoom. Down it is the multiple before, but not below the least zoom; from a percentage that
is not a multiple that is the one it was snapped to. -/
def Direction.step? (range : ZoomRange) : Direction → Int64 → Option Int64
  | up, z => do
    let snapped ← snapped? range.step z
    let target ← add? snapped (wide range.step)
    return min target (wide range.max)
  | down, z => do
    let snapped ← snapped? range.step z
    let below ← sub? snapped (wide range.step)
    let target ← (if excess range.step z > 0 then add? below (wide range.step) else some below)
    return max target (wide range.min)

end TaskGraph.Zoom
