-- SUMMARY: The shortest decimal that reads back as a given float, and its numeral.
import TaskGraph.Decimal.Numeral

/-!
# Shortest decimals

A finite float is `m * 2 ^ q`. The reals that round to it form an interval, ends
included when `m` is even. On the grids of 1, 2, … 17 significant digits the
value's two neighbours are tried in exact arithmetic; the first grid with a
neighbour in the interval gives the digits, the nearer one if both are inside.
-/
namespace TaskGraph.Decimal

/-- A positive float in exact form: the value `significand * 2 ^ exponent`. -/
structure Binary where
  significand : Nat
  exponent : Int
  /-- The next smaller float is only half as far away as the next greater one. -/
  narrowBelow : Bool

/-- The exact form of the absolute value of a finite float, unless it is zero. -/
def Binary.ofFloat? (f : Float) : Option Binary :=
  let bits : Nat := f.toBits.toNat
  let low : Nat := bits % Nat.pow 2 52
  let high : Nat := bits / Nat.pow 2 52 % Nat.pow 2 11
  if high = 0 then (if low = 0 then none else some ⟨low, -1074, false⟩)
  else some ⟨Nat.pow 2 52 + low, (high : Int) - 1075, low = 0 && 1 < high⟩

/-- A positive rational, as numerator and denominator. -/
structure Ratio where
  num : Nat
  den : Nat

namespace Ratio

def le (a b : Ratio) : Bool := a.num * b.den ≤ b.num * a.den
def lt (a b : Ratio) : Bool := a.num * b.den < b.num * a.den

/-- The rational `n * 2 ^ e`. -/
def ofBinary (n : Nat) (e : Int) : Ratio :=
  if 0 ≤ e then ⟨n * Nat.pow 2 e.natAbs, 1⟩ else ⟨n, Nat.pow 2 e.natAbs⟩

/-- The rational `n * 10 ^ e`. -/
def ofDecimal (n : Nat) (e : Int) : Ratio :=
  if 0 ≤ e then ⟨n * Nat.pow 10 e.natAbs, 1⟩ else ⟨n, Nat.pow 10 e.natAbs⟩

/-- The quotient by `10 ^ e`, rounded down. -/
def floorDiv (a : Ratio) (e : Int) : Nat :=
  if 0 ≤ e then a.num / (a.den * Nat.pow 10 e.natAbs) else a.num * Nat.pow 10 e.natAbs / a.den

/-- The exponent of the leading decimal digit. -/
def leadingPlace (a : Ratio) : Int :=
  let n := a.num / a.den
  if n ≠ 0 then ((Nat.toDigits 10 n).length : Int) - 1
  else match (List.range 330).find? fun k => a.den ≤ a.num * Nat.pow 10 k with
    | some k => -(k : Int)
    | none => -330

end Ratio

/-- A decimal `digits * 10 ^ place`. -/
structure Scientific where
  digits : Nat
  place : Int
  deriving DecidableEq, Repr

/-- The decimal on the grid of `count` significant digits that lies in the interval
around the value, if there is one. -/
def Binary.onGrid? (b : Binary) (count : Nat) : Option Scientific :=
  let q := b.exponent - 2
  let value := Ratio.ofBinary (4 * b.significand) q
  let lower := Ratio.ofBinary (4 * b.significand - (if b.narrowBelow then 1 else 2)) q
  let upper := Ratio.ofBinary (4 * b.significand + 2) q
  let closed := b.significand % 2 = 0
  let inside (x : Ratio) : Bool :=
    if closed then lower.le x && x.le upper else lower.lt x && x.lt upper
  let place := value.leadingPlace - (count - 1 : Nat)
  let below := value.floorDiv place
  let lo := Ratio.ofDecimal below place
  let hi := Ratio.ofDecimal (below + 1) place
  match inside lo, inside hi with
  | false, false => none
  | true, false => some ⟨below, place⟩
  | false, true => some ⟨below + 1, place⟩
  | true, true =>
    -- Which neighbour is nearer: compare twice the value with the sum of the two.
    let twice := Ratio.ofBinary (8 * b.significand) q
    let sum := Ratio.ofDecimal (2 * below + 1) place
    if twice.lt sum then some ⟨below, place⟩
    else if sum.lt twice then some ⟨below + 1, place⟩
    else some ⟨if below % 2 = 0 then below else below + 1, place⟩

/-- Moves trailing zeros from the digits to the place. -/
def Scientific.strip (s : Scientific) : Nat → Scientific
  | 0 => s
  | fuel + 1 =>
    if s.digits ≠ 0 ∧ s.digits % 10 = 0 then strip ⟨s.digits / 10, s.place + 1⟩ fuel else s

/-- The shortest decimal that reads back as the float. -/
def Binary.shortest (b : Binary) : Scientific :=
  match (List.range 17).findSome? fun n => b.onGrid? (n + 1) with
  | some s => s.strip 20
  | none => ⟨b.significand, 0⟩

/-- Which places are written without an exponent: the decimal point falls at most
`smallest` zeros before the first digit, and at most `largest` places after it. -/
structure Positional where
  smallest : Int
  largest : Int

/-- The numeral of `± digits * 10 ^ place`, always with a fraction or an exponent. -/
def Scientific.toNumeral (layout : Positional) (negative : Bool) (s : Scientific) : Numeral :=
  let ds := digitsOfNat s.digits
  let point := ds.length + s.place
  if 0 ≤ s.place ∧ point ≤ layout.largest then
    ⟨negative, ds ++ List.replicate s.place.natAbs 0, [0], none⟩
  else if 0 < point ∧ point ≤ layout.largest then
    ⟨negative, ds.take point.natAbs, ds.drop point.natAbs, none⟩
  else if -layout.smallest < point ∧ point ≤ 0 then
    ⟨negative, [0], List.replicate point.natAbs 0 ++ ds, none⟩
  else
    ⟨negative, ds.take 1, ds.drop 1, some (point - 1)⟩

/-- The numeral of a finite float. -/
def Numeral.ofFloat? (layout : Positional) (f : Float) : Option Numeral :=
  if f.isFinite then
    let negative := f.toBits.toNat / Nat.pow 2 63 = 1
    match Binary.ofFloat? f with
    | some b => some (b.shortest.toNumeral layout negative)
    | none => some ⟨negative, [0], [0], none⟩
  else none

end TaskGraph.Decimal
