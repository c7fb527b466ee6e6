-- SUMMARY: Decimal numerals as written: sign, digits, fraction and exponent.

/-!
# Decimal numerals

A numeral keeps what was written, so that a reader can tell `1` from `1.0` and
choose the number type afterwards. The grammar has no leading zeros and wants a
digit on both sides of the point.
-/
namespace TaskGraph.Decimal

abbrev Digit := Fin 10

instance Digit.ofNatZero : OfNat Digit 0 := ⟨⟨0, by decide⟩⟩

/-- The digit that a character stands for. -/
def Digit.ofChar? (c : Char) : Option Digit :=
  if h : 48 ≤ c.toNat ∧ c.toNat < 58 then some ⟨c.toNat - 48, by omega⟩ else none

def Digit.toChar (d : Digit) : Char := Char.ofNat (48 + d.val)

/-- The digits at the front of a text, and the rest. -/
def takeDigits : List Char → List Digit × List Char
  | [] => ([], [])
  | c :: cs =>
    match Digit.ofChar? c with
    | some d => let (ds, rest) := takeDigits cs; (d :: ds, rest)
    | none => ([], c :: cs)

/-- The number that a list of digits denotes, first digit first. -/
def natOfDigits (ds : List Digit) : Nat :=
  ds.foldl (fun n d => 10 * n + d.val) 0

/-- The digits of a number, first digit first. -/
def digitsOfNat (n : Nat) : List Digit :=
  (Nat.toDigits 10 n).filterMap Digit.ofChar?

structure Numeral where
  negative : Bool
  /-- The digits before the point. -/
  whole : List Digit
  /-- The digits after the point; none when there is no point. -/
  fraction : List Digit
  exponent : Option Int
  deriving DecidableEq, Repr

namespace Numeral

/-- Reads the part after the digits, which is nothing or an exponent. -/
def readExponent? : List Char → Option (Option Int)
  | [] => some none
  | e :: cs =>
    if e = 'e' ∨ e = 'E' then
      let (negative, cs) := match cs with
        | '+' :: r => (false, r)
        | '-' :: r => (true, r)
        | r => (false, r)
      match takeDigits cs with
      | (d :: ds, []) =>
        let n := natOfDigits (d :: ds)
        some (some (if negative then -(n : Int) else n))
      | _ => none
    else none

/-- Reads a whole text as a numeral. -/
def ofChars? (cs : List Char) : Option Numeral := do
  let (negative, cs) := match cs with
    | '-' :: r => (true, r)
    | r => (false, r)
  let (whole, cs) := takeDigits cs
  match whole with
  | [] => none
  | d :: ds => if d = 0 ∧ ds ≠ [] then none
  let (fraction, cs) ← match cs with
    | '.' :: r =>
      match takeDigits r with
      | ([], _) => none
      | (ds, r) => some (ds, r)
    | r => some ([], r)
  let exponent ← readExponent? cs
  return { negative, whole, fraction, exponent }

/-- The text of a numeral. -/
def toChars (n : Numeral) : List Char :=
  (if n.negative then ['-'] else []) ++ n.whole.map Digit.toChar ++
    (if n.fraction.isEmpty then [] else '.' :: n.fraction.map Digit.toChar) ++
    (match n.exponent with
      | none => []
      | some e => 'e' :: (if e < 0 then ['-'] else []) ++ (digitsOfNat e.natAbs).map Digit.toChar)

def ofNat (n : Nat) : Numeral := ⟨false, digitsOfNat n, [], none⟩

def ofInt (i : Int) : Numeral := ⟨i < 0, digitsOfNat i.natAbs, [], none⟩

/-- The integer of a numeral without fraction and exponent. A negative zero is not one:
the sign would be lost. -/
def toInt? (n : Numeral) : Option Int :=
  if n.fraction = [] ∧ n.exponent = none then
    let m := natOfDigits n.whole
    if n.negative then (if m = 0 then none else some (-(m : Int))) else some m
  else none

/-- The integer of a numeral, if it is between `lo` and `hi`. -/
def toIntIn? (lo hi : Int) (n : Numeral) : Option Int :=
  n.toInt?.filter fun i => lo ≤ i && i ≤ hi

/-- The natural number of a numeral, if it is at most `hi`. -/
def toNatUpTo? (hi : Nat) (n : Numeral) : Option Nat :=
  (n.toIntIn? 0 hi).map Int.toNat

end Numeral
end TaskGraph.Decimal
