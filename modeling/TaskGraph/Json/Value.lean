-- SUMMARY: JSON values with members in written order and numbers as written.
import TaskGraph.Decimal.Scaled
import TaskGraph.Decimal.Shortest

/-!
# JSON values

Members keep their order and their repetitions, and numbers stay numerals: what
an object or a number means is up to the type that is read from it. A string
literal can fail to be a text, when an escape leaves a surrogate without its
partner; it is then kept as `none`, so that it only matters where its text does.
-/
namespace TaskGraph.Json

open Decimal (Numeral)

/-- The content of a string literal. -/
abbrev Literal := Option String

inductive Value where
  | null
  | bool (b : Bool)
  | number (n : Numeral)
  | string (s : Literal)
  | array (items : List Value)
  | object (members : List (Literal × Value))
  deriving Inhabited

namespace Value

def text (s : String) : Value := .string (some s)

def ofNat (n : Nat) : Value := .number (.ofNat n)

def ofInt (i : Int) : Value := .number (.ofInt i)

/-- An object from named values. -/
def record (fields : List (String × Value)) : Value :=
  .object (fields.map fun (name, v) => (some name, v))

/-- An object from named values, the absent ones left out. -/
def sparse (fields : List (String × Option Value)) : Value :=
  record (fields.filterMap fun (name, v) => v.map (name, ·))

/-- The value or, for `none`, null. -/
def orNull : Option Value → Value
  | some v => v
  | none => .null

def text? : Value → Option String
  | .string s => s
  | _ => none

def bool? : Value → Option Bool
  | .bool b => some b
  | _ => none

def items? : Value → Option (List Value)
  | .array vs => some vs
  | _ => none

/-- An integer between `lo` and `hi`. -/
def intIn? (lo hi : Int) : Value → Option Int
  | .number n => n.toIntIn? lo hi
  | _ => none

/-- A natural number up to `hi`. -/
def natUpTo? (hi : Nat) : Value → Option Nat
  | .number n => n.toNatUpTo? hi
  | _ => none

/-- All items of an array, each read by `read`. -/
def listOf? {α : Type} (read : Value → Option α) (v : Value) : Option (List α) := do
  (← v.items?).mapM read

/-- Null is absence; anything else is read by `read`. -/
def nullable? {α : Type} (read : Value → Option α) : Value → Option (Option α)
  | .null => some none
  | v => (read v).map some

/-- The name of a constant: a string, or an object whose one member is null. -/
def constant? : Value → Option String
  | .string s => s
  | .object [(some name, .null)] => some name
  | _ => none

end Value

/-! ## Constants -/

/-- An enumeration with a name for each of its constants. -/
class Constant (α : Type) where
  all : List α
  name : α → String

section
variable {α : Type} [Constant α]

/-- The constant of a name. -/
def Constant.ofName? (s : String) : Option α := Constant.all.find? fun a => Constant.name a == s

def Value.ofConstant (a : α) : Value := .text (Constant.name a)

def Value.constantOf? (v : Value) : Option α := do
  Constant.ofName? (← v.constant?)

end

/-! ## Floats -/

/-- Floats are written without exponent from `1e-5` up to below `1e16`. -/
def floatLayout : Decimal.Positional := ⟨5, 16⟩

/-- The shortest numeral that reads back as the float; null if it is not finite. -/
def Value.ofFloat (f : Float) : Value :=
  match Numeral.ofFloat? floatLayout f with
  | some n => .number n
  | none => .null

/-- The value of a numeral of any form. -/
def Value.float? : Value → Option Float
  | .number n => n.toFloat?
  | _ => none

end TaskGraph.Json
